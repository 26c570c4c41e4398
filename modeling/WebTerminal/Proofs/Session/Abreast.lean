import WebTerminal.Proofs.Connection.Determinism
import WebTerminal.Proofs.Session.Sending

/-! # Sessions side by side

Two sessions in two worlds keep abreast as long as their connections do. What they show then is the
same, but for lines that tell why something failed, and those no session ever looks at again. -/

namespace WebTerminal

variable {ω ω' : Type}

/-- A relation of worlds that takes no notice of the wording of the terminal's own lines. -/
structure Screen.Tolerates [Network ω] [Screen ω] [Network ω'] [Screen ω'] (R : ω → ω' → Prop) :
    Prop where
  note (n : Notice) {w : ω} {w' : ω'} (h : R w w') : R (Journal.note n w) (Journal.note n w')
  line (text text' : String) {style : Session.Style} (hs : style ≠ .output) {w : ω} {w' : ω'}
    (h : R w w') : R (Screen.append text style w) (Screen.append text' style w')
  output (text : String) {w : ω} {w' : ω'} (h : R w w') :
    R (Screen.append text .output w) (Screen.append text .output w')
  clear {w : ω} {w' : ω'} (h : R w w') : R (Screen.clear w) (Screen.clear w')
  scrollToEnd {w : ω} {w' : ω'} (h : R w w') : R (Screen.scrollToEnd w) (Screen.scrollToEnd w')
  focus {w : ω} {w' : ω'} (h : R w w') : R (Screen.focus w) (Screen.focus w')
  report (s : Session.Status) {w : ω} {w' : ω'} (h : R w w') :
    R (Screen.report s w) (Screen.report s w')

namespace Connection

theorem Event.eq_or_refused {e e' : Event} (h : e.terse = e'.terse) :
    e = e' ∨ ∃ error error', e = .refused error ∧ e' = .refused error' := by
  cases e with
  | refused error =>
    cases e' with
    | refused error' => exact .inr ⟨error, error', rfl, rfl⟩
    | _ => cases h
  | _ =>
    cases e' with
    | refused error' => cases h
    | _ => exact .inl h

/-- Connections and worlds that are related. -/
structure Link.Abreast (P : Connection → Connection → Prop) (R : ω → ω' → Prop) (l : Link ω)
    (l' : Link ω') : Prop where
  connection : P l.connection l'.connection
  world : R l.world l'.world

/-- An operation leads from links that are abreast by the first relation to such by the second. -/
def Operation.Keeps [Network ω] [Network ω'] (P : Connection → Connection → Prop)
    (R R₁ : ω → ω' → Prop) (k : Operation) : Prop :=
  ∀ {l : Link ω} {l' : Link ω'}, l.Abreast P R l' →
    (l.perform k).1.terse = (l'.perform k).1.terse ∧
      (l.perform k).2.Abreast P R₁ (l'.perform k).2

end Connection

namespace Session.Console

open Connection (Event)

/-- Sessions that decode alike and reported the same status last. Their keyboards are left out. -/
structure Abreast (P : Connection → Connection → Prop) (R : ω → ω' → Prop) (c : Console ω)
    (c' : Console ω') : Prop where
  connection : P c.session.connection c'.session.connection
  decoder : c.session.decoder = c'.session.decoder
  lastStatus : c.session.lastStatus? = c'.session.lastStatus?
  world : R c.world c'.world

variable {P : Connection → Connection → Prop} {R R₁ : ω → ω' → Prop} {c : Console ω}
  {c' : Console ω'}

theorem Abreast.link (h : Abreast P R c c') : c.link.Abreast P R c'.link :=
  ⟨h.connection, h.world⟩

theorem Abreast.withLink (h : Abreast P R c c') {l : Connection.Link ω} {l' : Connection.Link ω'}
    (hl : l.Abreast P R₁ l') : Abreast P R₁ (c.withLink l) (c'.withLink l') :=
  ⟨hl.connection, h.decoder, h.lastStatus, hl.world⟩

theorem Abreast.withWorld (h : Abreast P R c c') {f : ω → ω} {f' : ω' → ω'}
    (hf : R (f c.world) (f' c'.world)) : Abreast P R (c.withWorld f) (c'.withWorld f') :=
  { h with world := hf }

theorem Abreast.withDecoder (h : Abreast P R c c') {d d' : Utf8.Decoder} (hd : d = d') :
    Abreast P R (c.withDecoder d) (c'.withDecoder d') := { h with decoder := hd }

theorem Abreast.withEncoder (h : Abreast P R c c') (e e' : Encoder) :
    Abreast P R (c.withEncoder e) (c'.withEncoder e') := { h with }

variable [Network ω] [Screen ω] [Network ω'] [Screen ω'] (hR : Screen.Tolerates R)

section Showing

include hR

theorem Abreast.noteAll (h : Abreast P R c c') (ns : List Notice) :
    Abreast P R (c.noteAll ns) (c'.noteAll ns) := by
  induction ns generalizing c c' with
  | nil => exact h
  | cons n ns ih => exact ih (h.withWorld (hR.note n h.world))

theorem Abreast.announce (h : Abreast P R c c') {style : Style} (hs : style ≠ .output)
    (text text' : String) : Abreast P R (c.announce style text) (c'.announce style text') :=
  h.withWorld (hR.line _ _ hs h.world)

theorem Abreast.report (h : Abreast P R c c') (s : Status) :
    Abreast P R (c.report s) (c'.report s) := by
  unfold Console.report
  rw [← h.lastStatus]
  by_cases hs : c.session.lastStatus? = some s
  · rw [if_pos hs, if_pos hs]
    exact h
  · rw [if_neg hs, if_neg hs]
    exact ⟨h.connection, h.decoder, rfl, hR.report s h.world⟩

theorem Abreast.receive (h : Abreast P R c c') (chunk : Bytes) :
    Abreast P R (c.receive chunk) (c'.receive chunk) := by
  have hd := h.withDecoder (congrArg (fun d => (d.push chunk).2) h.decoder)
  unfold Console.receive
  rw [← h.decoder] at hd ⊢
  by_cases he : (c.session.decoder.push chunk).1.isEmpty = true
  · simpa only [if_pos he] using hd
  · rw [if_neg he, if_neg he]
    have ho := hd.withWorld (hR.output (String.ofList (c.session.decoder.push chunk).1) hd.world)
    exact ho.withWorld (hR.scrollToEnd ho.world)

theorem Abreast.present (h : Abreast P R c c') (e : Event) :
    Abreast P R (c.present e) (c'.present e) := by
  have info : Style.info ≠ .output := by simp
  have error : Style.error ≠ .output := by simp
  cases e with
  | connecting url _ =>
    exact (h.withDecoder (congrArg Utf8.Decoder.reset h.decoder)).announce hR info _ _
  | refused _ | failed _ => exact h.announce hR error _ _
  | connected =>
    have hr := (h.announce hR info "Connected to remote shell" "Connected to remote shell").report
      hR .connected
    exact hr.withWorld (hR.focus hr.world)
  | received chunk => exact h.receive hR chunk
  | closed reason =>
    cases reason with
    | network | user => exact (h.announce hR info _ _).report hR _
  | retryScheduled _ _ _ => exact ((h.noteAll hR _).announce hR info _ _).report hR _
  | exhausted _ => exact (h.announce hR error _ _).report hR _

theorem Abreast.presentAll (h : Abreast P R c c') {es es' : List Event}
    (he : es.map Event.terse = es'.map Event.terse) :
    Abreast P R (c.presentAll es) (c'.presentAll es') := by
  induction es generalizing es' c c' with
  | nil =>
    obtain rfl : es' = [] := List.map_eq_nil_iff.mp he.symm
    exact h
  | cons e es ih =>
    obtain ⟨e', es', rfl, he', hes⟩ := List.map_eq_cons_iff.mp he.symm
    show Abreast P R ((c.present e).presentAll es) ((c'.present e').presentAll es')
    refine ih ?_ hes.symm
    rcases Event.eq_or_refused he'.symm with rfl | ⟨_, _, rfl, rfl⟩
    · exact h.present hR e
    · exact h.announce hR (by simp) _ _

end Showing

variable (hR₁ : Screen.Tolerates R₁)
include hR₁

/-- The connections act and what comes of it is shown. -/
theorem Abreast.act (h : Abreast P R c c') {k : Connection.Operation} (hk : k.Keeps P R R₁) :
    Abreast P R₁ ((c.withLink (c.link.perform k).2).presentAll (c.link.perform k).1.events?)
      ((c'.withLink (c'.link.perform k).2).presentAll (c'.link.perform k).1.events?) := by
  obtain ⟨ha, hl⟩ := hk h.link
  have hes := congrArg Connection.Answer.events? ha
  rw [Connection.Answer.events_terse, Connection.Answer.events_terse] at hes
  exact (h.withLink hl).presentAll hR₁ hes

theorem Abreast.send (h : Abreast P R c c') {f : Frame}
    (hk : (Connection.Operation.send f).Keeps P R R₁) :
    Abreast P R₁ (c.send f).2 (c'.send f).2 := by
  obtain ⟨ha, hl⟩ := hk h.link
  have hs := h.withLink hl
  simp only [Connection.Link.perform, Connection.Answer.terse,
    Connection.Answer.delivery.injEq] at ha hs
  unfold Console.send
  dsimp only
  generalize (c.link.send f).1 = d at ha
  generalize (c'.link.send f).1 = d' at ha
  cases d with
  | sent | dropped =>
    cases d' with
    | sent | dropped => exact hs
    | failed _ => cases ha
  | failed error =>
    cases d' with
    | sent | dropped => cases ha
    | failed error' => exact hs.announce hR₁ (by simp) _ _

include hR

theorem Abreast.input (h : Abreast P R c c') (hle : ∀ {w w'}, R w w' → R₁ w w')
    (he : c.session.encoder = c'.session.encoder)
    (hk : ∀ f, (Connection.Operation.send f).Keeps P R R₁) (i : Input) :
    Abreast P R₁ (c.input i).2 (c'.input i).2 := by
  have hn := h.noteAll hR ((c.session.encoder.encode i).1.notices c.session.encoder.line)
  have hi := hn.withEncoder (c.session.encoder.encode i).2 (c.session.encoder.encode i).2
  simp only [Console.input, ← he]
  generalize (c.session.encoder.encode i).1 = encoded at hi ⊢
  cases encoded with
  | frame f => exact hi.send hR₁ (hk f)
  | held | refused _ => exact { hi with world := hle hi.world }

/-- Operations keep sessions abreast. Only for typing the keyboards matter. -/
theorem Abreast.perform (h : Abreast P R c c') (hle : ∀ {w w'}, R w w' → R₁ w w') {o : Operation}
    (he : o.input?.isSome = true → c.session.encoder = c'.session.encoder)
    (hk : ∀ k : Connection.Operation, (k.frame?.isSome = true → o.input?.isSome = true) →
      k.Keeps P R R₁) :
    Abreast P R₁ (c.perform o).2 (c'.perform o).2 := by
  have h₁ : Abreast P R₁ c c' := { h with world := hle h.world }
  have hother (k : Connection.Operation) (hf : k.frame? = none) : k.Keeps P R R₁ := by
    refine hk k fun hs => ?_
    rw [hf] at hs
    cases hs
  cases o with
  | start => exact (h.report hR .disconnected).act hR₁ (hother .connect rfl)
  | close => exact h.act hR₁ (hother .close rfl)
  | reconnect => exact h.act hR₁ (hother .reconnect rfl)
  | shutdown =>
    have hs := h.withLink (hother .shutdown rfl h.link).2
    exact (hs.withEncoder _ _).withDecoder (congrArg Utf8.Decoder.reset h.decoder)
  | clear => exact (h₁.withWorld (hR₁.clear h₁.world)).announce hR₁ (by simp) _ _
  | press k =>
    simp only [Console.perform, Console.press]
    cases hi : k.action with
    | input i =>
      have hsome : (Operation.press k).input?.isSome = true := by simp [Operation.input?, hi]
      have hin := h.input hR hR₁ hle (he hsome) (fun f => hk (.send f) fun _ => hsome) i
      exact hin.withWorld (hR₁.scrollToEnd hin.world)
    | passThrough | ignore => exact h₁
  | input i => exact h.input hR hR₁ hle (he rfl) (fun f => hk (.send f) fun _ => rfl) i
  | append text style =>
    refine h₁.withWorld ?_
    cases style with
    | output => exact hR₁.output text h₁.world
    | info | error => exact hR₁.line _ _ (by simp) h₁.world
  | signal e s => exact h.act hR₁ (hother (.signal e s) rfl)
  | retryDue e => exact h.act hR₁ (hother (.retryDue e) rfl)

end Session.Console

end WebTerminal
