import WebTerminal.Proofs.Browser.Core
import WebTerminal.Proofs.Session.Indicator

/-! # What is drawn on a page

Of the calls on a screen it is known what they come to: the spans appended since the last clear, and
the status reported last. A page on which nothing that is to be shown throws shows just that, and
calls on the network do not change what it shows. -/

namespace WebTerminal

namespace Call

/-- What a call on the screen makes of the output. -/
def draw (spans : List Browser.Span) : Call → List Browser.Span
  | append text style => spans ++ [⟨style.class?, text⟩]
  | clear => []
  | _ => spans

/-- A span for each append since the output was last cleared. -/
def drawn (calls : List Call) : List Browser.Span := calls.foldl draw []

/-- The status that was reported last. -/
def lastReport? (calls : List Call) : Option Session.Status := (calls.filterMap status?).getLast?

theorem drawn_concat (calls : List Call) (call : Call) :
    drawn (calls ++ [call]) = draw (drawn calls) call := List.foldl_append

theorem lastReport_concat (calls : List Call) (call : Call) :
    lastReport? (calls ++ [call]) = call.status?.or (lastReport? calls) := by
  unfold lastReport?
  rw [List.filterMap_append, List.getLast?_append]
  cases h : call.status? <;> simp [h]

end Call

namespace Browser

/-- Whether the call is one of those that show output and the status. -/
def Hazard.isDisplay : Hazard → Bool
  | .createElement | .appendChild | .classList => true
  | _ => false

namespace Element

theorem mem_addClass (c : String) (e : Element) : c ∈ (e.addClass c).classes := by
  unfold addClass
  split
  case isTrue h => exact h
  case isFalse h => exact List.mem_append_right _ List.mem_cons_self

theorem not_mem_removeClass (c : String) (e : Element) : c ∉ (e.removeClass c).classes := by
  simp [removeClass]

end Element

namespace Page

/-- Nothing that is to be shown throws, nor will it by a whim. -/
structure Able (p : Page) : Prop where
  throws : ∀ h : Hazard, h.isDisplay = true → p.throws h = none
  whims : ∀ throws ∈ p.whims, ∀ h : Hazard, h.isDisplay = true → throws h = none

/-- The page shows what these calls come to, and the line that is typed. -/
structure Depicts (calls : List WebTerminal.Call) (line : String) (p : Page) : Prop where
  output : (p.elements .output).children = Call.drawn calls
  status : ∀ s, Call.lastReport? calls = some s → (p.elements .statusText).text = s.phase
  indicator : connectedClass ∈ (p.elements .statusIndicator).classes ↔
    Call.lastReport? calls = some .connected
  line : (p.elements .inputLine).text = line

variable {p p' p'' : Page} {calls : List WebTerminal.Call} {line : String}

theorem Able.setThrow (h : p.Able) {hazard : Hazard} {v? : Option Thrown}
    (hv : hazard.isDisplay = false ∨ v? = none) : (p.setThrow hazard v?).Able where
  throws i hi := by
    change (if i = hazard then v? else p.throws i) = none
    split
    case isTrue he =>
      rcases hv with hd | hv
      · rw [he, hd] at hi
        cases hi
      · exact hv
    case isFalse => exact h.throws i hi
  whims := h.whims

/-- The same elements, on which the same is thrown. -/
structure SameView (p p' : Page) : Prop where
  elements : p'.elements = p.elements
  throws : p'.throws = p.throws
  whims : p'.whims = p.whims

theorem SameView.refl (p : Page) : SameView p p := ⟨rfl, rfl, rfl⟩

theorem SameView.trans (h : SameView p p') (h' : SameView p' p'') : SameView p p'' where
  elements := h'.elements.trans h.elements
  throws := h'.throws.trans h.throws
  whims := h'.whims.trans h.whims

theorem Able.congr (h : p.Able) (ht : p'.throws = p.throws) (hw : p'.whims = p.whims) :
    p'.Able where
  throws := by
    rw [ht]
    exact h.throws
  whims := by
    rw [hw]
    exact h.whims

/-- What is shown is shown by the elements. -/
theorem Depicts.congr (h : Depicts calls line p) (he : p'.elements = p.elements) :
    Depicts calls line p' := by
  constructor
  all_goals rw [he]
  · exact h.output
  · exact h.status
  · exact h.indicator
  · exact h.line

/-- Of a call that shows nothing there is nothing to be seen. -/
theorem Depicts.concat (h : Depicts calls line p) {call : WebTerminal.Call}
    (hd : ∀ spans, call.draw spans = spans) (hs : call.status? = none) :
    Depicts (calls ++ [call]) line p := by
  have hl : Call.lastReport? (calls ++ [call]) = Call.lastReport? calls := by
    rw [Call.lastReport_concat, hs, Option.none_or]
  constructor
  · rw [Call.drawn_concat, hd]
    exact h.output
  · rw [hl]
    exact h.status
  · rw [hl]
    exact h.indicator
  · exact h.line

/-! ## Calls on the screen -/

theorem Able.whim (h : p.Able) : p.whim.2.Able := by
  unfold Page.whim
  split
  · exact h
  case h_2 throws whims hw =>
    refine ⟨h.throws, fun throws hmem => h.whims throws ?_⟩
    rw [hw]
    exact List.mem_cons_of_mem _ hmem

theorem Able.whim_eq_none (h : p.Able) (hazard : Hazard) (hd : hazard.isDisplay = true) :
    p.whim.1 hazard = none := by
  unfold Page.whim
  split
  · exact h.throws hazard hd
  case h_2 throws whims hw =>
    apply h.whims throws _ hazard hd
    rw [hw]
    exact List.mem_cons_self

theorem elements_whim (p : Page) : p.whim.2.elements = p.elements := by
  unfold whim
  split <;> rfl

theorem append_eq (h : p.Able) (text : String) (style : Session.Style) :
    p.append text style = (p.whim.2.modify .output fun e =>
      { e with children := e.children ++ [⟨style.class?, text⟩] }).record
        (.append .output ⟨style.class?, text⟩) := by
  have hcreate := h.whim_eq_none .createElement rfl
  have happend := h.whim_eq_none .appendChild rfl
  simp only [append, hcreate, happend]

theorem indicate_eq (h : p.Able) (connected : Bool) :
    p.indicate connected = p.whim.2.modify .statusIndicator
      (if connected then .addClass connectedClass else .removeClass connectedClass) := by
  have hclass := h.whim_eq_none .classList rfl
  simp only [indicate, hclass]

namespace Depicts

variable (h : Depicts calls line p)
include h

theorem append (text : String) (style : Session.Style) :
    Depicts (calls ++ [.append text style]) line (p.modify .output fun e =>
      { e with children := e.children ++ [⟨style.class?, text⟩] }) := by
  have hl : Call.lastReport? (calls ++ [.append text style]) = Call.lastReport? calls :=
    Call.lastReport_concat _ _
  refine ⟨?_, hl ▸ h.status, hl ▸ h.indicator, h.line⟩
  rw [Call.drawn_concat, ← h.output]
  rfl

theorem clear : Depicts (calls ++ [.clear]) line
    (p.modify .output ({ · with children := [] })) := by
  have hl : Call.lastReport? (calls ++ [.clear]) = Call.lastReport? calls :=
    Call.lastReport_concat _ _
  refine ⟨?_, hl ▸ h.status, hl ▸ h.indicator, h.line⟩
  rw [Call.drawn_concat]
  rfl

theorem report (s : Session.Status) : Depicts (calls ++ [.report s]) line
    ((p.modify .statusIndicator
      (if s.isConnected then .addClass connectedClass else .removeClass connectedClass)).modify
        .statusText ({ · with text := s.phase })) := by
  have hl : Call.lastReport? (calls ++ [.report s]) = some s := Call.lastReport_concat _ _
  constructor
  · rw [Call.drawn_concat]
    exact h.output
  · rw [hl]
    intro s' hs
    cases hs
    rfl
  · rw [hl]
    change connectedClass ∈ ((if s.isConnected then Element.addClass connectedClass
      else .removeClass connectedClass) (p.elements .statusIndicator)).classes ↔ _
    cases s with
    | connected => simpa [Session.Status.isConnected] using Element.mem_addClass _ _
    | _ => simpa [Session.Status.isConnected] using Element.not_mem_removeClass _ _
  · exact h.line

/-- An element that has left the page is still held by those who use it. -/
theorem remove (id : ElementId) : Depicts calls line (p.remove id) := by
  have hsame (i : ElementId) : (p.remove id).elements i =
      { p.elements i with onPage := ((p.remove id).elements i).onPage } := by
    by_cases hi : i = id
    · simp [Page.remove, modify, hi]
    · simp [Page.remove, modify, hi]
  constructor
  all_goals rw [hsame]
  · exact h.output
  · exact h.status
  · exact h.indicator
  · exact h.line

theorem setLine (text : String) : Depicts calls text (p.setText .inputLine text) :=
  ⟨h.output, h.status, h.indicator, rfl⟩

end Depicts

/-! ## What the page keeps -/

namespace SameView

theorem record (c : Call) (p : Page) : SameView p (p.record c) := ⟨rfl, rfl, rfl⟩

theorem focus (h : p.focus = .ok p') : SameView p p' := by
  unfold Page.focus at h
  split at h
  · cases h
  · cases h
    exact record _ p

theorem takeTimer {taken : Timer × Page} (h : p.takeTimer = some taken) : SameView p taken.2 := by
  unfold Page.takeTimer at h
  split at h
  · cases h
  · cases h
    exact ⟨rfl, rfl, rfl⟩

theorem dial (url : String) (e : Epoch) (p : Page) : SameView p (p.dial url e).2 := by
  unfold Page.dial
  split <;> exact ⟨rfl, rfl, rfl⟩

theorem transmit (s : SocketId) (f : Frame) (p : Page) : SameView p (p.transmit s f).2 := by
  have hecho (p : Page) : SameView p (p.echo s) := by
    unfold echo
    split <;> exact ⟨rfl, rfl, rfl⟩
  unfold Page.transmit
  split
  · exact .refl p
  · exact (record _ p).trans (hecho _)

theorem hangUp (s : SocketId) (p : Page) : SameView p (p.hangUp s) := by
  unfold Page.hangUp
  dsimp only
  split <;> exact ⟨rfl, rfl, rfl⟩

theorem cancel (t : TimerId) (p : Page) : SameView p (p.cancel t) := by
  unfold Page.cancel
  split <;> exact ⟨rfl, rfl, rfl⟩

/-- Calls on the network show nothing. -/
theorem of_made (h : Made p calls p') : SameView p p' := by
  induction h with
  | nil p => exact .refl p
  | @note p _ _ n _ ih =>
    have hone : SameView p (p.note n) := ⟨rfl, rfl, rfl⟩
    exact hone.trans ih
  | @dial p _ _ url e r hr _ ih =>
    subst hr
    exact (dial url e p).trans ih
  | @transmit p _ _ s f r hr _ ih =>
    subst hr
    exact (transmit s f p).trans ih
  | @hangUp p _ _ s _ ih => exact (hangUp s p).trans ih
  | @release p _ _ s _ ih =>
    have hone : SameView p (p.detach s) := ⟨rfl, rfl, rfl⟩
    exact hone.trans ih
  | @schedule p _ _ delay e r hr _ ih =>
    subst hr
    have hone : SameView p (p.schedule delay e).2 := ⟨rfl, rfl, rfl⟩
    exact hone.trans ih
  | @cancel p _ _ t _ ih => exact (cancel t p).trans ih

end SameView

/-! ## A page beside one that is watched -/

/-- The pages have the same core, and the first shows the calls kept beside the second. What a
client does besides its session is done on the first page alone. -/
structure Mirrors (line : String) (p : Page) (w : Watched Page) : Prop where
  core : p.SameCore w.inner
  able : p.Able
  depicts : p.Depicts w.calls line

namespace Mirrors

variable {w w' : Watched Page}

/-- A call that shows nothing. -/
theorem call (h : Mirrors line p w) (call : WebTerminal.Call) (hv : SameView p p')
    (hc : p'.SameCore w'.inner) (hcalls : w'.calls = w.calls ++ [call])
    (hd : ∀ spans, call.draw spans = spans) (hs : call.status? = none) : Mirrors line p' w' := by
  refine ⟨hc, h.able.congr hv.throws hv.whims, ?_⟩
  rw [hcalls]
  exact (h.depicts.concat hd hs).congr hv.elements

/-- The page is another, that looks the same and has the same core. -/
theorem withPage (h : Mirrors line p w) (hv : SameView p p') (hc : p'.SameCore p) :
    Mirrors line p' w where
  core := hc.trans h.core
  able := h.able.congr hv.throws hv.whims
  depicts := h.depicts.congr hv.elements

end Mirrors

theorem network_mirrors (line : String) : Network.Respects (Mirrors line) where
  note _ _ _ h := ⟨h.core, h.able.congr rfl rfl, h.depicts.congr rfl⟩
  dial url e p w h := by
    obtain ⟨ha, hc⟩ := h.core.dial url e
    exact ⟨ha, h.call (.dial url e _) (.dial url e p) hc rfl (fun _ => rfl) rfl⟩
  transmit s f p w h := by
    obtain ⟨ha, hc⟩ := h.core.transmit s f
    exact ⟨ha, h.call (.transmit s f _) (.transmit s f p) hc rfl (fun _ => rfl) rfl⟩
  hangUp s p w h :=
    h.call (.hangUp s) (.hangUp s p) (network_respects.hangUp s h.core) rfl
      (fun _ => rfl) rfl
  release s p w h :=
    h.call (.release s) ⟨rfl, rfl, rfl⟩ (h.core.detach s) rfl (fun _ => rfl) rfl
  schedule delay e p w h := by
    obtain ⟨ha, hc⟩ := network_respects.schedule delay e h.core
    exact ⟨ha, h.call (.schedule delay e _) ⟨rfl, rfl, rfl⟩ hc rfl (fun _ => rfl) rfl⟩
  cancel t p w h :=
    h.call (.cancel t) (.cancel t p) (h.core.cancel t) rfl (fun _ => rfl) rfl

theorem screen_mirrors (line : String) : Screen.Respects (Mirrors line) where
  append text style p w h := by
    have hp : Screen.append text style p = _ := append_eq h.able text style
    have hd := (h.depicts.congr (elements_whim p)).append text style
    refine ⟨screen_respects.append text style h.core, ?_, ?_⟩
    · rw [hp]
      exact h.able.whim.congr rfl rfl
    · rw [hp]
      exact hd.congr rfl
  clear {p w} h := by
    have hd := h.depicts.clear
    refine ⟨screen_respects.clear h.core, h.able.congr rfl rfl, ?_⟩
    exact hd.congr rfl
  scrollToEnd {p w} h :=
    h.call .scrollToEnd ⟨rfl, rfl, rfl⟩ (screen_respects.scrollToEnd h.core) rfl
      (fun _ => rfl) rfl
  focus {p w} h := by
    have hv : SameView p (Screen.focus p) := by
      simp only [Screen.focus]
      split
      · rename_i hf
        exact .focus hf
      · exact ⟨rfl, rfl, rfl⟩
    exact h.call .focus hv (screen_respects.focus h.core) rfl (fun _ => rfl) rfl
  report s p w h := by
    have hp : Screen.report s p = (p.indicate s.isConnected).setText .statusText s.phase := rfl
    have hd := (h.depicts.congr (elements_whim p)).report s
    refine ⟨screen_respects.report s h.core, ?_, ?_⟩
    · rw [hp, indicate_eq h.able]
      exact h.able.whim.congr rfl rfl
    · rw [hp, indicate_eq h.able]
      exact hd.congr rfl

end Page

end Browser

end WebTerminal
