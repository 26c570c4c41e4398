import WebTerminal.Proofs.Session.Move

/-! # The parts of an operation on a session

In whatever world, an operation on a session first shows something, then lets the connection act,
and then shows what came of it. What is shown leaves the connection and the keyboard alone, and of
the session it changes only the decoder and the last status. -/

namespace WebTerminal

open Connection (Event)

/-- The status that is reported of an event. -/
def Connection.Event.status? : Event → Option Session.Status
  | .connected => some .connected
  | .closed _ => some .disconnected
  | .retryScheduled attempt maxAttempts _ => some (.reconnecting attempt maxAttempts)
  | .exhausted maxAttempts => some (.exhausted maxAttempts)
  | .connecting _ _ | .refused _ | .received _ | .failed _ => none

namespace Session

/-- The input that an operation brings. -/
def Operation.input? : Operation → Option Input
  | .input i => some i
  | .press k =>
    match k.action with
    | .input i => some i
    | .passThrough | .ignore => none
  | _ => none

/-- The frame that the encoder makes of an operation, if it makes one. -/
def Operation.typed? (o : Operation) (e : Encoder) : Option Frame :=
  o.input?.bind fun i => (e.encode i).1.frame?

/-- The status that is reported before the connection acts. -/
def Operation.greeting : Operation → List Status
  | .start => [.disconnected]
  | _ => []

/-- What an operation makes of the encoder. Only typing and a shutdown touch it. -/
def Operation.keyed (o : Operation) (e : Encoder) : Encoder :=
  match o, o.input? with
  | .shutdown, _ => e.clearLine
  | _, some i => (e.encode i).2
  | _, none => e

namespace Console

variable {ω : Type}

section Displays

variable [Network ω] [Screen ω]

/-- What is done to a world apart from calls on the network and reports of the status. -/
inductive Showing : (ω → ω) → Prop where
  | note (n : Notice) : Showing (Journal.note n)
  | append (text : String) (style : Style) : Showing (Screen.append text style)
  | clear : Showing Screen.clear
  | scrollToEnd : Showing Screen.scrollToEnd
  | focus : Showing Screen.focus

/-- The first console becomes the second by showing things, by decoding and by reporting these
statuses. -/
inductive Displays : List Status → Console ω → Console ω → Prop where
  | nil (c : Console ω) : Displays [] c c
  | view {f : ω → ω} (hf : Showing f) {ss : List Status} {c c' : Console ω}
      (h : Displays ss (c.withWorld f) c') : Displays ss c c'
  | decode (d : Utf8.Decoder) {ss : List Status} {c c' : Console ω}
      (h : Displays ss (c.withDecoder d) c') : Displays ss c c'
  | report (s : Status) {ss : List Status} {c c' : Console ω} (h : Displays ss (c.report s) c') :
      Displays (s :: ss) c c'

variable {ss ss' : List Status} {c c' c'' : Console ω}

theorem Displays.append (h : Displays ss c c') (h' : Displays ss' c' c'') :
    Displays (ss ++ ss') c c'' := by
  induction h with
  | nil => exact h'
  | view hf _ ih => exact .view hf (ih h')
  | decode d _ ih => exact .decode d (ih h')
  | report s _ ih => exact .report s (ih h')

theorem Displays.connection_eq (h : Displays ss c c') :
    c'.session.connection = c.session.connection := by
  induction h with
  | nil => rfl
  | view _ _ ih | decode _ _ ih => exact ih
  | @report s _ c _ _ ih =>
    rw [ih, Console.report]
    split <;> rfl

theorem Displays.encoder_eq (h : Displays ss c c') : c'.session.encoder = c.session.encoder := by
  induction h with
  | nil => rfl
  | view _ _ ih | decode _ _ ih => exact ih
  | report s _ ih =>
    rw [ih, Console.report]
    split <;> rfl

/-- One after another, statuses are reported. -/
theorem Displays.lastStatus_eq (h : Displays ss c c') :
    c'.session.lastStatus? = ss.foldl (fun _ s => some s) c.session.lastStatus? := by
  induction h with
  | nil => rfl
  | view _ _ ih | decode _ _ ih => exact ih
  | report s _ ih =>
    rw [ih, List.foldl_cons, Console.report]
    split
    case isTrue hs => rw [hs]
    case isFalse => rfl

theorem displays_view {f : ω → ω} (hf : Showing f) (c : Console ω) :
    Displays [] c (c.withWorld f) := .view hf (.nil _)

theorem displays_report (s : Status) (c : Console ω) : Displays [s] c (c.report s) :=
  .report s (.nil _)

theorem displays_noteAll (ns : List Notice) (c : Console ω) : Displays [] c (c.noteAll ns) := by
  induction ns generalizing c with
  | nil => exact .nil c
  | cons n ns ih => exact .view (.note n) (ih _)

theorem displays_announce (style : Style) (text : String) (c : Console ω) :
    Displays [] c (c.announce style text) := displays_view (.append _ _) c

theorem displays_receive (chunk : Bytes) (c : Console ω) : Displays [] c (c.receive chunk) := by
  refine .decode (c.session.decoder.push chunk).2 ?_
  simp only [receive]
  split
  · exact .nil _
  · exact .view (.append _ _) (displays_view .scrollToEnd _)

theorem displays_present (e : Event) (c : Console ω) :
    Displays e.status?.toList c (c.present e) := by
  cases e with
  | connecting url _ => exact .decode c.session.decoder.reset (displays_announce _ _ _)
  | refused _ | failed _ => exact displays_announce _ _ c
  | connected =>
    exact (displays_announce _ _ c).append (.report _ (displays_view .focus _))
  | received chunk => exact displays_receive chunk c
  | closed reason =>
    cases reason with
    | network | user => exact (displays_announce _ _ c).append (displays_report _ _)
  | retryScheduled _ _ _ =>
    exact ((displays_noteAll _ c).append (displays_announce _ _ _)).append (displays_report _ _)
  | exhausted _ => exact (displays_announce _ _ c).append (displays_report _ _)

theorem displays_presentAll (es : List Event) (c : Console ω) :
    Displays (es.filterMap Event.status?) c (c.presentAll es) := by
  induction es generalizing c with
  | nil => exact .nil c
  | cons e es ih =>
    have hcons : (e :: es).filterMap Event.status? =
        e.status?.toList ++ es.filterMap Event.status? := by
      cases h : e.status? <;> simp [h]
    rw [hcons]
    exact (displays_present e c).append (ih _)

end Displays

/-! ## The part of the connection -/

section Parts

variable [Network ω]

/-- Lets the connection perform its operation, if there is one. -/
def relink (k? : Option Connection.Operation) (c : Console ω) : Console ω :=
  match k? with
  | some k => c.withLink (c.link.perform k).2
  | none => c

/-- The events of that. -/
def linkEvents (k? : Option Connection.Operation) (c : Console ω) : List Event :=
  match k? with
  | some k => (c.link.perform k).1.events?
  | none => []

omit [Network ω] in
theorem sent_eq_map (i : Input) (c : Console ω) :
    c.sent? i = (c.session.encoder.encode i).1.frame?.map .send := by
  unfold sent?
  cases (c.session.encoder.encode i).1 <;> rfl

omit [Network ω] in
/-- Of the operations on the connection only the sending of a frame comes from the encoder. -/
theorem linked_send_iff (o : Operation) (c : Console ω) (f : Frame) :
    c.linked? o = some (.send f) ↔ o.typed? c.session.encoder = some f := by
  cases o with
  | press k =>
    dsimp only [linked?, Operation.typed?, Operation.input?]
    cases k.action with
    | input i => simp [sent_eq_map]
    | passThrough | ignore => simp
  | input i => simp [linked?, Operation.typed?, Operation.input?, sent_eq_map]
  | _ => simp [linked?, Operation.typed?, Operation.input?]

/-- Sending brings about no events. -/
theorem linkEvents_sent (i : Input) (c c' : Console ω) : c'.linkEvents (c.sent? i) = [] := by
  rw [sent_eq_map]
  cases (c.session.encoder.encode i).1.frame? <;> rfl

theorem relink_moves (k : Connection.Operation) (c : Console ω) :
    ∃ answer calls,
      Connection.Move c.session.connection k answer calls
          (c.relink (some k)).session.connection ∧
        c.linkEvents (some k) = answer.events? ∧ Made c.world calls (c.relink (some k)).world := by
  obtain ⟨calls, hm, hmade⟩ := c.link.perform_moves k
  exact ⟨_, calls, hm, rfl, hmade⟩

variable [Screen ω]

theorem displays_send (f : Frame) (c : Console ω) :
    Displays [] (c.relink (some (.send f))) (c.send f).2 := by
  unfold send relink
  dsimp only [Connection.Link.perform]
  cases (c.link.send f).1 with
  | sent | dropped => exact .nil _
  | failed error => exact displays_announce _ _ _

theorem displays_input (i : Input) (c : Console ω) :
    ∃ c₁, Displays [] c c₁ ∧
      Displays [] ((c₁.withEncoder (c.session.encoder.encode i).2).relink (c.sent? i))
        (c.input i).2 := by
  refine ⟨_, displays_noteAll ((c.session.encoder.encode i).1.notices c.session.encoder.line) c, ?_⟩
  simp only [input, sent?]
  cases (c.session.encoder.encode i).1 with
  | frame f => exact displays_send f _
  | held | refused _ => exact .nil _

/-- Every operation is a greeting, then what the keyboard and the connection make of it, then what
is shown of that. -/
theorem perform_parts (o : Operation) (c : Console ω) :
    ∃ c₁, Displays o.greeting c c₁ ∧
      let c₂ := c₁.withEncoder (o.keyed c.session.encoder)
      Displays ((c₂.linkEvents (c.linked? o)).filterMap Event.status?)
        (c₂.relink (c.linked? o)) (c.perform o).2 := by
  have acts (k : Connection.Operation) (c : Console ω) :
      Displays ((c.linkEvents (some k)).filterMap Event.status?) (c.relink (some k))
        ((c.relink (some k)).presentAll (c.linkEvents (some k))) := displays_presentAll _ _
  cases o with
  | start =>
    have he : (c.report .disconnected).session.encoder = c.session.encoder :=
      (displays_report _ c).encoder_eq
    refine ⟨_, displays_report .disconnected c, ?_⟩
    dsimp only [Operation.keyed, Operation.input?]
    rw [← he]
    exact acts .connect _
  | close => exact ⟨c, .nil c, acts .close c⟩
  | reconnect => exact ⟨c, .nil c, acts .reconnect c⟩
  | shutdown => exact ⟨c, .nil c, .decode _ (.nil _)⟩
  | clear => exact ⟨c, .nil c, .view .clear (displays_announce _ _ _)⟩
  | press k =>
    simp only [perform, press, linked?, Operation.keyed, Operation.input?, Operation.greeting]
    cases k.action with
    | input i =>
      obtain ⟨c₁, h, h'⟩ := displays_input i c
      refine ⟨c₁, h, ?_⟩
      rw [linkEvents_sent]
      exact h'.append (displays_view .scrollToEnd _)
    | passThrough | ignore => exact ⟨c, .nil c, .nil c⟩
  | input i =>
    obtain ⟨c₁, h, h'⟩ := displays_input i c
    refine ⟨c₁, h, ?_⟩
    dsimp only [linked?, Operation.keyed, Operation.input?, perform]
    rw [linkEvents_sent]
    exact h'
  | append text style => exact ⟨c, .nil c, displays_view (.append _ _) c⟩
  | signal e s => exact ⟨c, .nil c, acts (.signal e s) c⟩
  | retryDue e => exact ⟨c, .nil c, acts (.retryDue e) c⟩

/-- The keyboard goes its own way, whatever the connection does. -/
theorem encoder_perform (o : Operation) (c : Console ω) :
    (c.perform o).2.session.encoder = o.keyed c.session.encoder := by
  obtain ⟨c₁, -, hd⟩ := perform_parts o c
  rw [hd.encoder_eq]
  cases c.linked? o <;> rfl

/-- What a world keeps while things are shown on it. -/
structure Unshown {α : Type} (π : ω → α) : Prop where
  showing {f : ω → ω} (hf : Showing f) (w : ω) : π (f w) = π w
  report (s : Status) (w : ω) : π (Screen.report s w) = π w

theorem Displays.unshown {α : Type} {π : ω → α} (hπ : Unshown π) {ss : List Status}
    {c c' : Console ω} (h : Displays ss c c') : π c'.world = π c.world := by
  induction h with
  | nil => rfl
  | view hf _ ih => exact ih.trans (hπ.showing hf _)
  | decode _ _ ih => exact ih
  | @report s _ c _ _ ih =>
    rw [ih, Console.report]
    split
    · rfl
    · exact hπ.report s c.world

/-- As far as showing does not matter, an operation does what it comes to for the connection. -/
theorem perform_link {α : Type} {π : ω → α} (hπ : Unshown π) (o : Operation) (c : Console ω) :
    ∃ l : Connection.Link ω, l.connection = c.session.connection ∧ π l.world = π c.world ∧
      let l' := (c.linked? o).elim l fun k => (l.perform k).2
      (c.perform o).2.session.connection = l'.connection ∧
        π (c.perform o).2.world = π l'.world := by
  obtain ⟨c₁, hg, hd⟩ := perform_parts o c
  refine ⟨(c₁.withEncoder (o.keyed c.session.encoder)).link, hg.connection_eq, hg.unshown hπ, ?_⟩
  rw [hd.connection_eq, hd.unshown hπ]
  cases c.linked? o <;> exact ⟨rfl, rfl⟩

theorem coherent_perform (o : Operation) {c : Console ω}
    (h : Connection.Coherent c.session.connection) :
    Connection.Coherent (c.perform o).2.session.connection := by
  obtain ⟨c₁, hg, hd⟩ := perform_parts o c
  rw [← hg.connection_eq] at h
  rw [hd.connection_eq]
  cases c.linked? o with
  | none => exact h
  | some k =>
    obtain ⟨_, _, hm, -⟩ := relink_moves k (c₁.withEncoder (o.keyed c.session.encoder))
    exact hm.coherent h

end Parts

end Console

end Session

end WebTerminal
