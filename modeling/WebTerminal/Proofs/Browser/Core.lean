import WebTerminal.Browser.Page
import WebTerminal.Proofs.World.Likeness

/-! # The core of a page

An element that cannot be made, shown, marked or focused, and a socket that throws when it is
closed, are mishaps. Two pages that differ in them, in what they show and in what they log have the
same core. Whatever is called on two such pages, both answer the same and their cores stay the
same. -/

namespace WebTerminal

namespace Browser

def Hazard.isMishap : Hazard → Bool
  | .createElement | .appendChild | .classList | .focus | .close => true
  | .socket | .send | .setAttribute | .protocol | .host | .listen _ => false

/-- Whether a call only adds to what the user sees of the terminal. -/
def Call.isShow : Call → Bool
  | .append _ _ | .scroll _ _ | .focus _ => true
  | _ => false

/-- A page without what it shows, what it logs and its mishaps. Of an element it is known whether it
is on the page and takes the focus. -/
structure Core where
  hasWindow : Bool
  hasDocument : Bool
  protocol : String
  host : String
  elements : ElementId → Bool × Bool
  throws : Hazard → Option Thrown
  echo? : Option String
  sockets : List Socket
  timers : List Timer
  nextTimer : Nat
  listeners : List Listener
  calls : List Call

namespace Page

def core (p : Page) : Core where
  hasWindow := p.hasWindow
  hasDocument := p.hasDocument
  protocol := p.protocol
  host := p.host
  elements id := ((p.elements id).onPage, (p.elements id).isHtml)
  throws h := if h.isMishap then none else p.throws h
  echo? := p.echo?
  sockets := p.sockets
  timers := p.timers
  nextTimer := p.nextTimer
  listeners := p.listeners
  calls := p.calls.filter fun c => !c.isShow

variable {p p' : Page}

/-! ## Calls on a page -/

theorem core_show {c : Call} (hc : c.isShow = true) (p : Page) : (p.record c).core = p.core := by
  simp [core, record, hc]

theorem core_record {c : Call} (hc : c.isShow = false) (p : Page) :
    (p.record c).core = { p.core with calls := p.core.calls ++ [c] } := by
  simp [core, record, hc]

theorem core_modify (id : ElementId) {f : Element → Element}
    (hf : ∀ e, (f e).onPage = e.onPage ∧ (f e).isHtml = e.isHtml) (p : Page) :
    (p.modify id f).core = p.core := by
  have helements : (p.modify id f).core.elements = p.core.elements := by
    funext i
    change ((if i = id then f (p.elements i) else p.elements i).onPage,
      (if i = id then f (p.elements i) else p.elements i).isHtml) = _
    split
    · rw [(hf _).1, (hf _).2]
      rfl
    · rfl
  change { p.core with elements := (p.modify id f).core.elements } = p.core
  rw [helements]

theorem core_whim (p : Page) : p.whim.2.core = p.core := by
  unfold whim
  split <;> rfl

theorem core_append (text : String) (style : Session.Style) (p : Page) :
    (p.append text style).core = p.core := by
  rw [← core_whim p]
  unfold append
  dsimp only
  split
  · rfl
  · rfl
  · rw [core_show rfl, core_modify]
    intro e
    exact ⟨rfl, rfl⟩

theorem core_indicate (connected : Bool) (p : Page) : (p.indicate connected).core = p.core := by
  rw [← core_whim p]
  unfold indicate
  dsimp only
  split
  · rfl
  · apply core_modify
    intro e
    cases connected with
    | true =>
      simp only [↓reduceIte, Element.addClass]
      split <;> exact ⟨rfl, rfl⟩
    | false => exact ⟨rfl, rfl⟩

theorem core_setText (id : ElementId) (s : String) (p : Page) :
    (p.setText id s).core = { p.core with calls := p.core.calls ++ [.text id s] } := by
  unfold setText
  rw [core_record rfl, core_modify]
  intro e
  exact ⟨rfl, rfl⟩

theorem core_mishap {hazard : Hazard} (hh : hazard.isMishap = true) (v? : Option Thrown)
    (p : Page) : (p.setThrow hazard v?).core = p.core := by
  have hthrows : (p.setThrow hazard v?).core.throws = p.core.throws := by
    funext i
    change (if i.isMishap then none else if i = hazard then v? else p.throws i) =
      if i.isMishap then none else p.throws i
    by_cases hi : i = hazard
    · rw [hi, if_pos hh, if_pos hh]
    · rw [if_neg hi]
  change ({ p.core with throws := (p.setThrow hazard v?).core.throws } : Core) = p.core
  rw [hthrows]

theorem core_setThrow {hazard : Hazard} (hh : hazard.isMishap = false) (v? : Option Thrown)
    (p : Page) : (p.setThrow hazard v?).core =
      { p.core with throws := fun i => if i = hazard then v? else p.core.throws i } := by
  have hthrows : (p.setThrow hazard v?).core.throws =
      fun i => if i = hazard then v? else p.core.throws i := by
    funext i
    change (if i.isMishap then none else if i = hazard then v? else p.throws i) =
      if i = hazard then v? else if i.isMishap then none else p.throws i
    by_cases hi : i = hazard
    · simp [hi, hh]
    · simp [hi]
  change ({ p.core with throws := (p.setThrow hazard v?).core.throws } : Core) = _
  rw [hthrows]

theorem core_focus (h : p.focus = .ok p') : p'.core = p.core := by
  unfold focus at h
  split at h
  · cases h
  · cases h
    exact core_show rfl p

theorem core_clear (p : Page) :
    p.clear.core = { p.core with calls := p.core.calls ++ [.html .output ""] } := by
  unfold clear
  rw [core_record rfl, core_modify]
  intro e
  exact ⟨rfl, rfl⟩

theorem core_report (s : Session.Status) (p : Page) :
    (p.report s).core = { p.core with calls := p.core.calls ++ [.text .statusText s.phase] } := by
  unfold report
  rw [core_setText, core_indicate]

/-- Two pages with the same core. -/
def SameCore (p p' : Page) : Prop := p.core = p'.core

namespace SameCore

variable (h : SameCore p p')
include h

theorem core_eq : p.core = p'.core := h

theorem hasWindow : p.hasWindow = p'.hasWindow := congrArg Core.hasWindow h

theorem hasDocument : p.hasDocument = p'.hasDocument := congrArg Core.hasDocument h

theorem protocol : p.protocol = p'.protocol := congrArg Core.protocol h

theorem host : p.host = p'.host := congrArg Core.host h

theorem sockets : p.sockets = p'.sockets := congrArg Core.sockets h

theorem timers : p.timers = p'.timers := congrArg Core.timers h

theorem nextTimer : p.nextTimer = p'.nextTimer := congrArg Core.nextTimer h

theorem listeners : p.listeners = p'.listeners := congrArg Core.listeners h

theorem onPage (id : ElementId) : (p.elements id).onPage = (p'.elements id).onPage :=
  congrArg (fun c : Core => (c.elements id).1) h

theorem isHtml (id : ElementId) : (p.elements id).isHtml = (p'.elements id).isHtml :=
  congrArg (fun c : Core => (c.elements id).2) h

/-- Whatever is no mishap is thrown on both. -/
theorem throws {hazard : Hazard} (hh : hazard.isMishap = false) :
    p.throws hazard = p'.throws hazard := by
  have ht : (if hazard.isMishap then none else p.throws hazard) =
      if hazard.isMishap then none else p'.throws hazard :=
    congrArg (fun c : Core => c.throws hazard) h
  rwa [hh] at ht

theorem record (c : Call) : SameCore (p.record c) (p'.record c) := by
  unfold SameCore at h ⊢
  cases hc : c.isShow with
  | true => rw [core_show hc, core_show hc, h]
  | false => rw [core_record hc, core_record hc, h]

/-- What is done to a page is done to its core. -/
theorem map (f : Page → Page) (g : Core → Core) (hf : ∀ p, (f p).core = g p.core) :
    SameCore (f p) (f p') := by
  change (f p).core = (f p').core
  rw [hf, hf, h.core_eq]

theorem withSockets (ks : List Socket) :
    SameCore { p with sockets := ks } { p' with sockets := ks } :=
  h.map ({ · with sockets := ks }) ({ · with sockets := ks }) fun _ => rfl

theorem withTimers (ts : List Timer) : SameCore { p with timers := ts } { p' with timers := ts } :=
  h.map ({ · with timers := ts }) ({ · with timers := ts }) fun _ => rfl

theorem withNextTimer (ts : List Timer) (n : Nat) :
    SameCore { p with timers := ts, nextTimer := n } { p' with timers := ts, nextTimer := n } :=
  h.map ({ · with timers := ts, nextTimer := n }) ({ · with timers := ts, nextTimer := n })
    fun _ => rfl

theorem withListeners (ls : List Listener) :
    SameCore { p with listeners := ls } { p' with listeners := ls } :=
  h.map ({ · with listeners := ls }) ({ · with listeners := ls }) fun _ => rfl

theorem withEcho (text? : Option String) :
    SameCore { p with echo? := text? } { p' with echo? := text? } :=
  h.map ({ · with echo? := text? }) ({ · with echo? := text? }) fun _ => rfl

theorem setThrow (hazard : Hazard) (v? : Option Thrown) :
    SameCore (p.setThrow hazard v?) (p'.setThrow hazard v?) := by
  unfold SameCore at h ⊢
  cases hh : hazard.isMishap with
  | true => rw [core_mishap hh, core_mishap hh, h]
  | false => rw [core_setThrow hh, core_setThrow hh, h]

theorem remove (id : ElementId) : SameCore (p.remove id) (p'.remove id) := by
  apply h.map (·.remove id) fun c =>
    { c with elements := fun i => ((c.elements i).1 && decide (i ≠ id), (c.elements i).2) }
  intro p
  have helements : (p.remove id).core.elements =
      fun i => ((p.core.elements i).1 && decide (i ≠ id), (p.core.elements i).2) := by
    funext i
    by_cases hi : i = id
    · simp [Page.remove, modify, core, hi]
    · simp [Page.remove, modify, core, hi]
  change ({ p.core with elements := (p.remove id).core.elements } : Core) = _
  rw [helements]

theorem detach (s : SocketId) : SameCore (p.detach s) (p'.detach s) := by
  unfold Page.detach
  rw [h.sockets]
  exact h.withSockets _

theorem unlisten (l : Listener) : SameCore (p.unlisten l) (p'.unlisten l) := by
  unfold Page.unlisten
  rw [h.listeners]
  exact (h.withListeners _).record _

theorem setText (id : ElementId) (s : String) : SameCore (p.setText id s) (p'.setText id s) := by
  unfold SameCore at h ⊢
  rw [core_setText, core_setText, h]

end SameCore

theorem screen_respects : Screen.Respects SameCore where
  append text style p p' h :=
    (core_append text style p).trans (h.trans (core_append text style p').symm)
  clear {p p'} h := by
    change p.clear.core = p'.clear.core
    rw [core_clear, core_clear, h.core_eq]
  scrollToEnd {p p'} h := (core_show rfl p).trans (h.core_eq.trans (core_show rfl p').symm)
  focus {p p'} h := by
    have hfocus (p : Page) : (Screen.focus p).core = p.core := by
      simp only [Screen.focus]
      split
      · rename_i hf
        exact core_focus hf
      · rfl
    exact (hfocus p).trans (h.core_eq.trans (hfocus p').symm)
  report s p p' h := by
    change (p.report s).core = (p'.report s).core
    rw [core_report, core_report, h.core_eq]

theorem SameCore.dial (h : SameCore p p') (url : String) (e : Epoch) :
    Alike SameCore (p.dial url e) (p'.dial url e) := by
  unfold Page.dial
  rw [h.throws rfl, h.sockets]
  split
  · exact .same _ h
  · exact .same _ (((h.withSockets _).record _).record _)

theorem SameCore.transmit (h : SameCore p p') (s : SocketId) (f : Frame) :
    Alike SameCore (p.transmit s f) (p'.transmit s f) := by
  have hecho (s : SocketId) (p : Page) : (p.echo s).core = p.core := by
    unfold echo
    split <;> rfl
  unfold Page.transmit
  rw [h.throws rfl]
  split
  · exact .same _ h
  · exact .same _ ((hecho s _).trans ((h.record _).core_eq.trans (hecho s _).symm))

/-- Whether or not the socket throws then, it is recorded as closed. -/
theorem core_hangUp (s : SocketId) (p : Page) :
    (p.hangUp s).core = ((p.detach s).record (.close s)).core := by
  unfold hangUp
  dsimp only
  split <;> rfl

theorem SameCore.cancel (h : SameCore p p') (t : TimerId) :
    SameCore (p.cancel t) (p'.cancel t) := by
  unfold Page.cancel
  rw [h.timers]
  split
  · exact (h.withTimers _).record _
  · exact h

theorem network_respects : Network.Respects SameCore where
  note _ _ _ h := h
  dial url e _ _ h := h.dial url e
  transmit s f _ _ h := h.transmit s f
  hangUp s p p' h :=
    (core_hangUp s p).trans (((h.detach s).record _).core_eq.trans (core_hangUp s p').symm)
  release s _ _ h := h.detach s
  schedule delay e p p' h := by
    change Alike SameCore (p.schedule delay e) (p'.schedule delay e)
    unfold schedule
    rw [h.timers, h.nextTimer]
    exact .same _ ((h.withNextTimer _ _).record _)
  cancel t _ _ h := h.cancel t

end Page

end Browser

end WebTerminal
