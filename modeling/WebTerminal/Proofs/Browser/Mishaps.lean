import WebTerminal.Proofs.Browser.Core
import WebTerminal.Proofs.Browser.Likeness

/-! # Mishaps of a page

A client goes on as if the mishaps of its page had not happened: on pages with the same core it does
the same, and so do two runs that differ only in their mishaps. -/

namespace WebTerminal

open Session (Console)

namespace Browser

/-! ## Pages with the same core -/

namespace Page.SameCore

variable {p p' : Page} (h : p.SameCore p')
include h

theorem listenersTo_eq (target? : Option ElementId) :
    p.listenersTo target? = p'.listenersTo target? := by
  unfold listenersTo
  rw [h.listeners]
  simp only [h.onPage]

theorem isSome_find (id : ElementId) : (p.find? id).isSome = (p'.find? id).isSome := by
  unfold find?
  rw [h.onPage id]
  split <;> rfl

theorem requireElement_bind {α : Type} (id : ElementId) (rest : Except Refusal α) :
    (p.requireElement id >>= fun _ => rest) = (p'.requireElement id >>= fun _ => rest) := by
  have hfind := h.isSome_find id
  unfold requireElement
  generalize p.find? id = found at hfind
  generalize p'.find? id = found' at hfind
  cases found <;> cases found' <;> first | rfl | cases hfind

theorem requireHtml_eq (id : ElementId) : p.requireHtml id = p'.requireHtml id := by
  have hpage := h.onPage id
  have hhtml := h.isHtml id
  unfold requireHtml requireElement find?
  cases ho : (p'.elements id).onPage with
  | false =>
    rw [ho] at hpage
    rw [hpage]
    rfl
  | true =>
    rw [ho] at hpage
    rw [hpage]
    change (if (p.elements id).isHtml then Except.ok () else _) = _
    rw [hhtml]
    rfl

/-- The same is refused on both pages, or nothing is. -/
theorem prepare_eq (config? : Option String) :
    Client.prepare config? p = Client.prepare config? p' := by
  have hdocument : p.requireDocument = p'.requireDocument := by
    unfold requireDocument
    rw [h.hasWindow, h.hasDocument]
  have hhost : p.requireHost = p'.requireHost := by
    unfold requireHost
    rw [h.throws rfl, h.host]
  have hprotocol : p.protocolOrPlain = p'.protocolOrPlain := by
    unfold protocolOrPlain
    rw [h.throws rfl, h.protocol]
  unfold Client.prepare
  simp only [h.requireElement_bind, hdocument, hhost, hprotocol, h.requireHtml_eq]

end Page.SameCore

theorem Page.sameCore_respects : Page.Respects Page.SameCore where
  perform o _ _ h := h.perform Page.network_respects Page.screen_respects o
  note _ _ _ h := h
  setText id s _ _ h := h.setText id s
  focus c p p' h := by
    have hfocus (p : Page) : (Terminal.focus ⟨c, p⟩).page.core = p.core := by
      unfold Terminal.focus
      split
      · rfl
      · split
        · rfl
        · rename_i hp
          exact Page.core_focus hp
    exact (hfocus p).trans (h.core_eq.trans (hfocus p').symm)
  clicked c? p p' h := by
    have hclicked (p : Page) : (Browser.clicked .focus ⟨p, c?⟩).page.core = p.core := by
      unfold Browser.clicked
      dsimp only
      split
      · rename_i hp
        exact Page.core_focus hp
      · rfl
    exact (hclicked p).trans (h.core_eq.trans (hclicked p').symm)
  throws binding p p' h := h.throws (by cases binding <;> rfl)
  bound binding p p' h := by
    have hl := h.withListeners (p'.listeners ++ [binding].filterMap Terminal.Binding.listener?)
    unfold Page.bound
    rw [h.listeners]
    exact hl.record binding.call
  unlisten l _ _ h := h.unlisten l
  prepare config? _ _ h := h.prepare_eq config?
  present id _ _ h := h.isSome_find id
  listenersTo target? _ _ h := h.listenersTo_eq target?
  sockets h := h.sockets
  timers h := h.timers
  withTimers ts _ _ h := h.withTimers ts
  setThrow hazard v? _ _ h := h.setThrow hazard v?
  setEcho text? _ _ h := h.withEcho text?
  remove id _ _ h := h.remove id

/-! ## Runs -/

/-- Whether a step only changes which mishaps the page has. -/
def Step.isMishap : Step → Bool
  | .setThrow hazard _ => hazard.isMishap
  | _ => false

/-- What can be told of a run whatever its mishaps: after every other step the answer to it, the
client, and the core of the page with the calls made on it so far. -/
def trace : List Step → Browser → List (Answer × Option Client × Core)
  | [], _ => []
  | s :: ss, b =>
    if s.isMishap then trace ss (b.perform s).2
    else
      ((b.perform s).1, (b.perform s).2.client?, (b.perform s).2.page.core) ::
        trace ss (b.perform s).2

theorem trace_eq_observed (ss : List Step) (b : Browser) :
    trace ss b = observed Page.core Step.isMishap ss b := by
  induction ss generalizing b with
  | nil => rfl
  | cons s ss ih => rw [trace, observed, ih]

variable {b b' : Browser}

theorem Like.mishap (h : Like Page.SameCore b b') {s : Step} (hs : s.isMishap = true) :
    Like Page.SameCore (b.perform s).2 b' := by
  cases s with
  | setThrow hazard v? => exact ⟨h.client, (Page.core_mishap hs v? b.page).trans h.page⟩
  | _ => cases hs

theorem Like.trace_eq (h : Like Page.SameCore b b') (ss : List Step) :
    trace ss b = trace (ss.filter fun s => !s.isMishap) b' := by
  rw [trace_eq_observed, trace_eq_observed]
  exact h.observed_eq Page.sameCore_respects Page.SameCore.core_eq (fun hs hb => hb.mishap hs) ss

/-- Two runs that differ only in their mishaps cannot be told apart by anything else. -/
theorem run_unspoiled {p p' : Page} (hp : p.core = p'.core) {ss ss' : List Step}
    (hs : ss.filter (fun s => !s.isMishap) = ss'.filter fun s => !s.isMishap) :
    trace ss { page := p } = trace ss' { page := p' } := by
  have hl : Like Page.SameCore { page := p } { page := p' } := ⟨rfl, hp⟩
  have hr : Like Page.SameCore { page := p' } { page := p' } := ⟨rfl, rfl⟩
  rw [hl.trace_eq, hs]
  exact (hr.trace_eq ss').symm

/-- On the second page the line that tells of the loss cannot be shown, though the line after it
can, and neither the indicator nor the focus does what it should. -/
theorem run_unspoiled_lost_line :
    let p : Page := {}
    let p' : Page :=
      { whims := List.replicate 4 (fun _ => none) ++ [fun _ => some (.text "no")] }
    let ss : List Step :=
      [.create none, .request .start, .socket none .opened, .socket none (.closed 1006 false),
        .timer]
    let ss' : List Step :=
      [.create none, .setThrow .focus (some (.text "no")), .request .start, .socket none .opened,
        .setThrow .classList (some (.text "no")), .socket none (.closed 1006 false), .timer]
    p.core = p'.core ∧
      ss.filter (fun s => !s.isMishap) = ss'.filter (fun s => !s.isMishap) ∧
      ((run ss { page := p }).2.page.elements .output).children.length = 5 ∧
      ((run ss' { page := p' }).2.page.elements .output).children.length = 4 ∧
      trace ss { page := p } = trace ss' { page := p' } := by
  intro p p' ss ss'
  have hp : p.core = p'.core := rfl
  have hs : ss.filter (fun s => !s.isMishap) = ss'.filter fun s => !s.isMishap := by decide
  exact ⟨hp, hs, by decide +kernel, by decide +kernel, run_unspoiled hp hs⟩

end Browser

end WebTerminal
