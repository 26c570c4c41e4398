import WebTerminal.Bench
import WebTerminal.Proofs.Connection.Coherence
import WebTerminal.Proofs.Session.Display

/-! # What a session sends

On the bench a frame that the keyboard makes goes out whole and at once, or never: what was sent in
a run are the frames that were made while the connection was open and the pipe was not broken, in
the order in which they were made. The answer to an input says what became of its frame. -/

namespace WebTerminal

/-- Whether a frame is offered to a socket. -/
def Call.isTransmit : Call → Bool
  | transmit _ _ _ => true
  | _ => false

theorem Call.any_isTransmit_of_letsGo {calls : List Call}
    (h : ∀ call ∈ calls, call.letsGo = true) : calls.any isTransmit = false :=
  List.any_eq_false.mpr (forall_letsGo (fun _ => nofun) (fun _ => nofun) (fun _ => nofun) h)

namespace Connection

variable {c c' : Connection} {es : List Event} {calls : List Call}

/-- The frame that an operation sends. -/
def Operation.frame? : Operation → Option Frame
  | send f => some f
  | _ => none

theorem Operation.frame_eq_some_iff {o : Operation} {f : Frame} :
    o.frame? = some f ↔ o = send f := by
  cases o <;> simp [frame?]

theorem Loss.any_isTransmit (h : Loss c es calls c') : calls.any Call.isTransmit = false := by
  cases h with
  | retry timer _ =>
    rw [List.any_append, Call.any_isTransmit_of_letsGo c.letsGo_cancelling]
    rfl
  | giveUp | again => rfl

theorem Attempt.any_isTransmit (h : Attempt c es calls c') :
    calls.any Call.isTransmit = false := by
  cases h with
  | dialled s =>
    rw [List.any_append, Call.any_isTransmit_of_letsGo c.letsGo_clearing]
    rfl
  | refused error hl =>
    rw [List.any_append, Call.any_isTransmit_of_letsGo c.letsGo_clearing]
    exact hl.any_isTransmit

/-- Only sending offers a frame to a socket. -/
theorem Move.any_isTransmit {o : Operation} {a : Answer} (h : Move c o a calls c')
    (ho : o.frame? = none) : calls.any Call.isTransmit = false := by
  cases h with
  | connectAnew _ _ ha | connect _ _ ha | reconnect _ ha | retry _ _ ha => exact ha.any_isTransmit
  | replace _ ha =>
    rw [List.any_append, Call.any_isTransmit_of_letsGo c.letsGo_clearing, ha.any_isTransmit]
    rfl
  | closeIgnored | close | shutdown => exact Call.any_isTransmit_of_letsGo c.letsGo_clearing
  | lost _ hl =>
    rw [List.any_append, Call.any_isTransmit_of_letsGo c.letsGo_releasing, hl.any_isTransmit]
    rfl
  | dropped | sent | unsent => cases ho
  | _ => rfl

end Connection

namespace Bench

theorem sent_dial (url : String) (e : Epoch) (b : Bench) :
    (Network.dial url e b).2.sent = b.sent := by
  show (b.dial url e).2.sent = b.sent
  unfold dial
  split <;> rfl

theorem sent_takeTimer {t : Timer} {b b' : Bench} (h : b.takeTimer = some (t, b')) :
    b'.sent = b.sent := by
  obtain ⟨_, _, ht⟩ := Option.map_eq_some_iff.mp h
  rw [← (Prod.mk.inj ht).2]

/-- Where no frame is offered, none is sent. -/
theorem sent_of_made {b b' : Bench} {calls : List Call} (h : Made b calls b')
    (hc : calls.any Call.isTransmit = false) : b'.sent = b.sent := by
  induction h with
  | nil => rfl
  | note _ _ ih | hangUp _ ih | release _ ih | cancel _ ih => exact ih hc
  | dial hr _ ih =>
    subst hr
    exact (ih hc).trans (sent_dial _ _ _)
  | transmit => cases hc
  | schedule hr _ ih =>
    subst hr
    exact ih hc

end Bench

/-! ## What becomes of a frame -/

theorem Connection.Coherent.exists_socket {c : Connection} (h : c.Coherent)
    (hl : c.state.isLive = true) : ∃ s, c.socket? = some s :=
  Option.isSome_iff_exists.mp (h.socket_iff.mpr hl)

namespace Connection.Link

variable {f : Frame} {l : Link Bench}

theorem send_eq_drop (hs : l.connection.state ≠ .opened) : l.send f = l.drop f := by
  unfold send
  split
  case h_1 ho _ => exact absurd ho hs
  case h_2 => rfl

theorem send_eq_failed (hc : Coherent l.connection) (hs : l.connection.state = .opened)
    (hb : l.world.brokenPipe = true) :
    l.send f = (.failed (.send "mock: broken pipe"),
      l.note (.sendFailed l.connection.epoch (.send "mock: broken pipe"))) := by
  obtain ⟨s, hk⟩ := hc.exists_socket (by rw [hs]; rfl)
  have ht : Network.transmit s f l.world = (.error (.send "mock: broken pipe"), l.world) :=
    if_pos hb
  simp only [send, hs, hk, ht]

theorem send_eq_sent (hc : Coherent l.connection) (hs : l.connection.state = .opened)
    (hb : l.world.brokenPipe = false) :
    l.send f = (.sent,
      (⟨l.connection, { l.world with sent := l.world.sent ++ [f] }⟩ : Link Bench).update
        fun c => { c with counters := c.counters.countSent f.size }) := by
  obtain ⟨s, hk⟩ := hc.exists_socket (by rw [hs]; rfl)
  have ht : Network.transmit s f l.world =
      (.ok (), { l.world with sent := l.world.sent ++ [f] }) := if_neg (by simp [hb])
  simp only [send, hs, hk, ht]

end Connection.Link

namespace Bench

/-- What a step makes of the encoder. -/
def Step.keyed (s : Step Session.Operation) (e : Encoder) : Encoder :=
  match s with
  | .perform o => o.keyed e
  | _ => e

/-- The frame that the encoder makes of a step, if it makes one. -/
def Step.typed? (s : Step Session.Operation) (e : Encoder) : Option Frame :=
  match s with
  | .perform o => o.typed? e
  | _ => none

/-- What the encoder makes of each of the steps, when it is left to itself. -/
def typed : List (Step Session.Operation) → Encoder → List (Option Frame)
  | [], _ => []
  | s :: ss, e => s.typed? e :: typed ss (s.keyed e)

/-- The frames that were made while the way was clear. -/
def passed (frames : List (Option Frame)) (ways : List Bool) : List Frame :=
  (frames.zip ways).filterMap fun (frame?, clear) => if clear then frame? else none

theorem passed_cons (frame? : Option Frame) (frames : List (Option Frame)) (clear : Bool)
    (ways : List Bool) : passed (frame? :: frames) (clear :: ways) =
      (if clear then frame? else none).toList ++ passed frames ways := by
  unfold passed
  cases clear <;> cases frame? <;> simp

end Bench

namespace Session.Console

/-- A frame would be sent: the connection is open and the pipe is not broken. -/
def isClear (c : Console Bench) : Bool := c.session.connection.isOpen && !c.world.brokenPipe

/-- Whether the way is clear before each of the steps. -/
def ways : List (Bench.Step Operation) → Console Bench → List Bool
  | [], _ => []
  | s :: ss, c => c.isClear :: ways ss (c.step s).2

variable {c c' : Console Bench} {ss : List Status}

theorem Displays.sent_eq (h : Displays ss c c') :
    c'.world.sent = c.world.sent ∧ c'.world.brokenPipe = c.world.brokenPipe := by
  induction h with
  | nil => exact ⟨rfl, rfl⟩
  | decode _ _ ih => exact ih
  | @view f hf _ c _ _ ih =>
    have hs : (f c.world).sent = c.world.sent ∧ (f c.world).brokenPipe = c.world.brokenPipe := by
      cases hf with
      | focus =>
        simp only [Screen.focus]
        split <;> exact ⟨rfl, rfl⟩
      | note | append | clear | scrollToEnd => exact ⟨rfl, rfl⟩
    exact ⟨ih.1.trans hs.1, ih.2.trans hs.2⟩
  | @report s _ c _ _ ih =>
    have hs : (c.report s).world.sent = c.world.sent ∧
        (c.report s).world.brokenPipe = c.world.brokenPipe := by
      unfold Console.report
      split <;> exact ⟨rfl, rfl⟩
    exact ⟨ih.1.trans hs.1, ih.2.trans hs.2⟩

/-- A frame goes out at once when the way is clear, and nothing else does. -/
theorem sent_relink (k? : Option Connection.Operation)
    (hc : Connection.Coherent c.session.connection) :
    (c.relink k?).world.sent = c.world.sent ++
      (if c.isClear then k?.bind Connection.Operation.frame? else none).toList := by
  cases k? with
  | none => simp [relink]
  | some k =>
    cases hk : k.frame? with
    | none =>
      obtain ⟨_, _, hm, _, hmade⟩ := relink_moves k c
      rw [Bench.sent_of_made hmade (hm.any_isTransmit hk)]
      simp [hk]
    | some f =>
      obtain rfl : k = .send f := Connection.Operation.frame_eq_some_iff.mp hk
      by_cases hs : c.session.connection.state = .opened
      · cases hb : c.world.brokenPipe with
        | true =>
          have hclear : c.isClear = false := by simp [isClear, hb]
          simp only [relink, Connection.Link.perform, hclear,
            Connection.Link.send_eq_failed (l := c.link) hc hs hb]
          exact (List.append_nil _).symm
        | false =>
          have hclear : c.isClear = true := by simp [isClear, Connection.isOpen, hs, hb]
          simp only [relink, Connection.Link.perform, hclear,
            Connection.Link.send_eq_sent (l := c.link) hc hs hb]
          rfl
      · have hclear : c.isClear = false := by simp [isClear, Connection.isOpen, hs]
        simp only [relink, Connection.Link.perform, hclear,
          Connection.Link.send_eq_drop (l := c.link) hs]
        exact (List.append_nil _).symm

/-- The frame that an operation makes is what it sends. -/
theorem frame_linked (o : Operation) (c : Console Bench) :
    (c.linked? o).bind Connection.Operation.frame? = o.typed? c.session.encoder := by
  refine Option.ext fun f => ?_
  rw [← linked_send_iff, Option.bind_eq_some_iff]
  constructor
  · rintro ⟨k, hk, hf⟩
    rw [hk, Connection.Operation.frame_eq_some_iff.mp hf]
  · exact fun hk => ⟨.send f, hk, rfl⟩

theorem sent_perform (o : Operation) (hc : Connection.Coherent c.session.connection) :
    (c.perform o).2.world.sent = c.world.sent ++
      (if c.isClear then o.typed? c.session.encoder else none).toList := by
  obtain ⟨c₁, hg, hd⟩ := perform_parts o c
  generalize hc₂ : c₁.withEncoder (o.keyed c.session.encoder) = c₂ at hd
  have hcon : c₂.session.connection = c.session.connection := by
    rw [← hc₂]
    exact hg.connection_eq
  obtain ⟨hs, hb⟩ : c₂.world.sent = c.world.sent ∧ c₂.world.brokenPipe = c.world.brokenPipe := by
    rw [← hc₂]
    exact hg.sent_eq
  have hclear : c₂.isClear = c.isClear := by rw [isClear, isClear, hcon, hb]
  rw [hd.sent_eq.1, sent_relink _ (hcon ▸ hc), hs, hclear, frame_linked]

/-! ## Steps -/

/-- A step sends the frame that it makes, if the way is clear, and no other. -/
theorem step_sends (s : Bench.Step Operation) (hc : Connection.Coherent c.session.connection) :
    (c.step s).2.world.sent = c.world.sent ++
        (if c.isClear then s.typed? c.session.encoder else none).toList ∧
      (c.step s).2.session.encoder = s.keyed c.session.encoder ∧
      Connection.Coherent (c.step s).2.session.connection := by
  have still {c' : Console Bench} (hs : c'.world.sent = c.world.sent)
      (he : c'.session.encoder = c.session.encoder)
      (hc' : Connection.Coherent c'.session.connection) :
      c'.world.sent = c.world.sent ++ (if c.isClear then none else none : Option Frame).toList ∧
        c'.session.encoder = c.session.encoder ∧ Connection.Coherent c'.session.connection := by
    rw [ite_self]
    exact ⟨hs.trans (List.append_nil _).symm, he, hc'⟩
  cases s with
  | perform o => exact ⟨sent_perform o hc, encoder_perform o c, coherent_perform o hc⟩
  | refuse | breakPipe => exact still rfl rfl hc
  | lose =>
    dsimp only [step]
    cases h : c.world.takeTimer with
    | none => exact still rfl rfl hc
    | some taken => exact still (Bench.sent_takeTimer h) rfl hc
  | fire =>
    dsimp only [step]
    cases h : c.world.takeTimer with
    | none => exact still rfl rfl hc
    | some taken =>
      obtain ⟨t, b⟩ := taken
      let c₀ : Console Bench := { c with world := b }
      have hs := sent_perform (c := c₀) (.retryDue t.epoch) hc
      rw [show (Operation.retryDue t.epoch).typed? c₀.session.encoder = none from rfl, ite_self,
        Option.toList_none, List.append_nil] at hs
      exact still (hs.trans (Bench.sent_takeTimer h)) (encoder_perform (.retryDue t.epoch) c₀)
        (coherent_perform (.retryDue t.epoch) hc)

theorem runSteps_sends (steps : List (Bench.Step Operation))
    (hc : Connection.Coherent c.session.connection) :
    (runSteps steps c).2.world.sent = c.world.sent ++
        Bench.passed (Bench.typed steps c.session.encoder) (ways steps c) ∧
      Connection.Coherent (runSteps steps c).2.session.connection := by
  induction steps generalizing c with
  | nil => exact ⟨(List.append_nil _).symm, hc⟩
  | cons s steps ih =>
    obtain ⟨hs, he, hc'⟩ := step_sends s hc
    obtain ⟨hss, hcs⟩ := ih hc'
    refine ⟨?_, hcs⟩
    rw [runSteps, hss, hs, he, List.append_assoc, Bench.typed, ways, Bench.passed_cons]

/-! ## Answers -/

/-- What becomes of the frame of an input, if it makes one. -/
def fate (frame? : Option Frame) (c : Console Bench) : Outcome :=
  match frame? with
  | none => .buffered
  | some _ =>
    if c.session.connection.state ≠ .opened then .dropped
    else if c.world.brokenPipe then .failed
    else .sent

/-- To be sent, a frame has to be made while the way is clear. -/
theorem sent_of_fate (frame? : Option Frame) (c : Console Bench) :
    (if c.fate frame? = .sent then frame? else none) = if c.isClear then frame? else none := by
  cases frame? with
  | none => rw [ite_self, ite_self]
  | some f =>
    unfold fate isClear Connection.isOpen
    by_cases hs : c.session.connection.state = .opened <;> cases c.world.brokenPipe <;> simp [hs]

theorem world_noteAll (ns : List Notice) (c : Console Bench) :
    (c.noteAll ns).world = { c.world with journal := c.world.journal ++ ns } := by
  unfold noteAll withWorld
  dsimp only
  generalize c.world = b
  induction ns generalizing b with
  | nil => simp
  | cons n ns ih =>
    rw [List.foldl_cons, ih]
    simp [Journal.note]

/-- The line that a failure shows. -/
def failureLine : Bench.Shown :=
  .append "[ERROR] Failed to send frame: mock: broken pipe\n" .error

theorem send_fate (f : Frame) (hc : Connection.Coherent c.session.connection) :
    (c.send f).1 = c.fate (some f) ∧
      ((c.send f).1 = .failed → (c.send f).2.session = c.session ∧
        (c.send f).2.world = { c.world with
          shown := c.world.shown ++ [failureLine], journal := (c.send f).2.world.journal }) := by
  by_cases hs : c.session.connection.state = .opened
  · cases hb : c.world.brokenPipe with
    | true =>
      simp only [send, Connection.Link.send_eq_failed (l := c.link) hc hs hb]
      exact ⟨by simp [fate, hs, hb], fun _ => ⟨rfl, rfl⟩⟩
    | false =>
      simp only [send, Connection.Link.send_eq_sent (l := c.link) hc hs hb]
      exact ⟨by simp [fate, hs, hb], fun h => by cases h⟩
  · simp only [send, Connection.Link.send_eq_drop (l := c.link) hs, fate]
    exact ⟨(if_pos hs).symm, fun h => by cases h⟩

/-- What the answer to an input stands for: a frame that was sent is the only one that was, and a
failure leaves all but the encoder as it was and shows one line. -/
structure Handled (i : Input) (c : Console Bench) (outcome : Outcome) (c' : Console Bench) :
    Prop where
  fate : outcome = c.fate (c.session.encoder.encode i).1.frame?
  sent : c'.world.sent = c.world.sent ++
    (if outcome = .sent then (c.session.encoder.encode i).1.frame? else none).toList
  failed : outcome = .failed →
    c'.session = { c.session with encoder := (c.session.encoder.encode i).2 } ∧
    c'.world = { c.world with
      shown := c.world.shown ++ [failureLine], journal := c'.world.journal }

/-- The session once it has encoded an input. -/
def encoded (i : Input) (c : Console Bench) : Console Bench :=
  (c.noteAll ((c.session.encoder.encode i).1.notices c.session.encoder.line)).withEncoder
    (c.session.encoder.encode i).2

theorem world_encoded (i : Input) (c : Console Bench) : (c.encoded i).world = { c.world with
    journal := c.world.journal ++
      (c.session.encoder.encode i).1.notices c.session.encoder.line } :=
  world_noteAll _ c

theorem fate_encoded (frame? : Option Frame) (i : Input) (c : Console Bench) :
    (c.encoded i).fate frame? = c.fate frame? := by
  have hcon : (c.encoded i).session.connection = c.session.connection := rfl
  unfold fate
  rw [hcon, world_encoded]

theorem input_eq_send {i : Input} {f : Frame} (h : (c.session.encoder.encode i).1 = .frame f) :
    c.input i = (c.encoded i).send f := by
  simp only [input, encoded, h]

theorem input_eq_buffered {i : Input} (h : (c.session.encoder.encode i).1.frame? = none) :
    c.input i = (.buffered, c.encoded i) := by
  cases he : (c.session.encoder.encode i).1 with
  | frame f => simp [he, Encoded.frame?] at h
  | held | refused _ => simp only [input, encoded, he]

theorem handled_input (i : Input) (hc : Connection.Coherent c.session.connection) :
    Handled i c (c.input i).1 (c.input i).2 := by
  have hfate : (c.input i).1 = c.fate (c.session.encoder.encode i).1.frame? := by
    cases he : (c.session.encoder.encode i).1 with
    | frame f =>
      rw [input_eq_send he, (send_fate (c := c.encoded i) f hc).1, fate_encoded]
      rfl
    | held | refused _ =>
      rw [input_eq_buffered (by rw [he]; rfl)]
      rfl
  refine ⟨hfate, ?_, fun hfail => ?_⟩
  · rw [hfate, sent_of_fate]
    exact sent_perform (.input i) hc
  · cases he : (c.session.encoder.encode i).1 with
    | frame f =>
      rw [input_eq_send he] at hfail ⊢
      obtain ⟨hs, hw⟩ := (send_fate (c := c.encoded i) f hc).2 hfail
      refine ⟨hs, hw.trans ?_⟩
      rw [world_encoded]
    | held | refused _ =>
      rw [input_eq_buffered (by rw [he]; rfl)] at hfail
      cases hfail

/-- In whatever run, the frames sent are those that the encoder made while the connection was open
and the pipe was not broken, each once and in order. And whatever the run has come to, the answer to
an input says what became of its frame. -/
theorem run_sent (config : Config) (url : String) (b : Bench)
    (steps : List (Bench.Step Operation)) :
    let start : Console Bench := ⟨config.session url, b⟩
    let c := (runSteps steps start).2
    c.world.sent = b.sent ++
        Bench.passed (Bench.typed steps start.session.encoder) (ways steps start) ∧
      ∀ i : Input, Handled i c (c.input i).1 (c.input i).2 := by
  intro start c
  have hstart : Connection.Coherent start.session.connection :=
    Connection.coherent_new url config.policy
  obtain ⟨hsent, hc⟩ := runSteps_sends steps hstart
  exact ⟨hsent, fun i => handled_input i hc⟩

end Session.Console

end WebTerminal
