import WebTerminal.Config.Reader
import WebTerminal.Proofs.Connection.Backoff
import WebTerminal.Proofs.Session.Display
import WebTerminal.Proofs.Session.Output

/-! # Delays of a session

A session made from a configuration that was read and checked sets its timers as the checks promise:
within the bounds, from the base on after each reset, and never less than before until the next. -/

namespace WebTerminal

theorem Config.valid_of_ofJson {text : String} {config : Config}
    (h : ofJson text = .ok config) : config.policy.Valid := by
  have checked : config.invalid? = none := by
    unfold ofJson at h
    split at h
    · cases h
    · split at h
      · cases h
      · rename_i hi
        obtain rfl := Except.ok.inj h
        exact hi
  unfold invalid? at checked
  split at checked
  · cases checked
  · rename_i delays
    split at checked
    · cases checked
    · rename_i multiplier
      rw [not_or, ← UInt32.toNat_inj, UInt32.lt_iff_toNat_lt] at delays
      rw [← UInt32.toNat_inj] at multiplier
      exact ⟨Nat.pos_of_ne_zero delays.1, UInt32.le_iff_toNat_le.mpr (Nat.not_lt.mp delays.2),
        Nat.pos_of_ne_zero multiplier⟩

namespace Connection

variable {c c' : Connection} {es : List Event} {calls : List Call} {k : Operation} {a : Answer}

theorem Loss.connected_notMem (h : Loss c es calls c') : .connected ∉ es := by
  cases h <;> simp

theorem Attempt.connected_notMem (h : Attempt c es calls c') : .connected ∉ es := by
  cases h with
  | dialled s => simp
  | refused error hl => simp [hl.connected_notMem]

/-- Only the opening of the present socket says that it is connected. -/
theorem Move.connected_mem_iff (h : Move c k a calls c') :
    .connected ∈ a.events? ↔ k = .signal c.epoch .opened ∧ c.state = .connecting := by
  cases h with
  | connectAnew _ _ ha | connect _ _ ha | reconnect _ ha | retry _ _ ha =>
    simp [Answer.events?, ha.connected_notMem]
  | replace _ ha => simp [Answer.events?, ha.connected_notMem]
  | lost _ hl => simp [Answer.events?, hl.connected_notMem]
  | signalIgnored e s hs =>
    simp only [Answer.events?, List.not_mem_nil, false_iff]
    rintro ⟨hk, hc⟩
    obtain ⟨rfl, rfl⟩ := Operation.signal.inj hk
    simp [heeds, hc] at hs
  | opened hs => simp [Answer.events?, hs]
  | _ => simp [Answer.events?]

end Connection

namespace Session

open Connection (Mark Paces Due)

namespace Deed

/-- Whether the policy counts from its beginning after this: the connection opened, or the session
was started after the user had closed it or when no attempt was left, or was reconnected or shut
down. -/
def resets (d : Deed) : Bool :=
  d.events.contains .connected ||
    match d.operation with
    | .reconnect | .shutdown => true
    | .start =>
      d.before.connection.state = .closed .user || d.before.connection.policy.isExhausted
    | _ => false

/-- The reset that an operation brings about, and then the delays of the timers that it sets. -/
def marks (d : Deed) : List Mark :=
  (if d.resets then [.reset] else []) ++ Connection.delays d.calls

end Deed

namespace Console

variable {ω : Type} [Network ω] [Screen ω] {c c' : Console (Watched ω)} {ss : List Status}

theorem Showing.delays_eq {f : Watched ω → Watched ω} (hf : Showing f) (w : Watched ω) :
    ∃ calls, (f w).calls = w.calls ++ calls ∧ Connection.delays calls = [] := by
  cases hf with
  | note n => exact ⟨[], (List.append_nil _).symm, rfl⟩
  | append | clear | scrollToEnd | focus => exact ⟨_, rfl, rfl⟩

/-- Showing things sets no timers. -/
theorem Displays.delays_eq (h : Displays ss c c') :
    ∃ calls, c'.world.calls = c.world.calls ++ calls ∧ Connection.delays calls = [] := by
  induction h with
  | nil => exact ⟨[], (List.append_nil _).symm, rfl⟩
  | @view f hf _ c _ _ ih =>
    obtain ⟨calls, hc, hd⟩ := hf.delays_eq c.world
    obtain ⟨calls', hc', hd'⟩ := ih
    refine ⟨calls ++ calls', ?_, by rw [Connection.delays_append, hd, hd', List.append_nil]⟩
    rw [hc', ← List.append_assoc, ← hc]
    rfl
  | decode _ _ ih => exact ih
  | @report s _ c _ _ ih =>
    obtain ⟨calls, hc, hd⟩ := ih
    unfold Console.report at hc
    split at hc
    · exact ⟨calls, hc, hd⟩
    · refine ⟨.report s :: calls, ?_, hd⟩
      rw [hc]
      exact List.append_assoc _ _ _

omit [Screen ω] in
theorem relink_delays (k? : Option Connection.Operation) (c : Console (Watched ω)) :
    ∃ calls, (c.relink k?).world.calls = c.world.calls ++ calls ∧
      match k? with
      | none => (c.relink k?).session.connection = c.session.connection ∧ calls = []
      | some k => ∃ answer,
        Connection.Move c.session.connection k answer calls (c.relink k?).session.connection := by
  cases k? with
  | none => exact ⟨[], (List.append_nil _).symm, rfl, rfl⟩
  | some k =>
    obtain ⟨answer, calls, hm, -, hmade⟩ := relink_moves k c
    exact ⟨calls, Watched.calls_of_made hmade, answer, hm⟩

/-- The timers that an operation sets are those of its move. -/
theorem perform_delays (o : Operation) (c : Console (Watched ω)) : ∃ calls,
    (c.perform o).2.world.calls = c.world.calls ++ (c.deed o).calls ∧
    Connection.delays (c.deed o).calls = Connection.delays calls ∧
    match c.linked? o with
    | none => (c.perform o).2.session.connection = c.session.connection ∧ calls = []
    | some k => ∃ answer,
      Connection.Move c.session.connection k answer calls
        (c.perform o).2.session.connection := by
  obtain ⟨c₁, hg, hd⟩ := perform_parts o c
  obtain ⟨greeting, hcg, hdg⟩ := hg.delays_eq
  obtain ⟨calls, hck, hk⟩ :=
    relink_delays (c.linked? o) (c₁.withEncoder (o.keyed c.session.encoder))
  obtain ⟨shown, hcs, hds⟩ := hd.delays_eq
  have all : (c.perform o).2.world.calls = c.world.calls ++ (greeting ++ (calls ++ shown)) := by
    rw [hcs, hck]
    show c₁.world.calls ++ calls ++ shown = _
    rw [hcg, List.append_assoc, List.append_assoc]
  have deed : (c.deed o).calls = greeting ++ (calls ++ shown) := by
    simp only [Console.deed, all, List.drop_left]
  refine ⟨calls, by rw [deed, all], ?_, ?_⟩
  · rw [deed, Connection.delays_append, Connection.delays_append, hdg, hds, List.nil_append,
      List.append_nil]
  · rw [hd.connection_eq, ← hg.connection_eq]
    exact hk

omit [Screen ω] in
theorem contains_connected {k : Connection.Operation} {es : List Connection.Event}
    {l : Connection.Link ω} (he : (l.perform k).1 = .events es) : es.contains .connected =
      decide (k = .signal l.connection.epoch .opened ∧ l.connection.state = .connecting) := by
  obtain ⟨calls, hm, -⟩ := l.perform_moves k
  rw [he] at hm
  rw [List.contains_eq_mem]
  exact decide_eq_decide.mpr hm.connected_mem_iff

theorem resets_eq (o : Operation) (c : Console (Watched ω)) :
    (c.deed o).resets = (c.linked? o).any (·.resets c.session.connection) := by
  cases o with
  | start =>
    have he := contains_connected (k := .connect) (l := (c.report .disconnected).link) rfl
    have ignored : decide (Connection.Operation.connect =
        .signal (c.report .disconnected).link.connection.epoch .opened ∧
          (c.report .disconnected).link.connection.state = .connecting) = false := by simp
    simp only [Deed.resets, deed, events, he, ignored, Bool.false_or]
    exact Bool.or_comm _ _
  | close =>
    have he := contains_connected (k := .close) (l := c.link) rfl
    simp only [Deed.resets, deed, events, he]
    simp [linked?, Connection.Operation.resets]
  | signal e s =>
    have he := contains_connected (k := .signal e s) (l := c.link) rfl
    simp only [Deed.resets, deed, events, he]
    simp [linked?, Connection.Operation.resets, link]
  | retryDue e =>
    have he := contains_connected (k := .retryDue e) (l := c.link) rfl
    simp only [Deed.resets, deed, events, he]
    simp [linked?, Connection.Operation.resets]
  | reconnect | shutdown => simp [Deed.resets, deed, linked?, Connection.Operation.resets]
  | clear | append => rfl
  | input i =>
    simp only [linked?, sent_eq_map]
    cases (c.session.encoder.encode i).1.frame? <;> rfl
  | press k =>
    simp only [linked?, sent_eq_map]
    cases k.action with
    | input i =>
      dsimp only
      cases (c.session.encoder.encode i).1.frame? <;> rfl
    | passThrough | ignore => rfl

variable {p : RetryPolicy} {last : Mark}

theorem paces_perform (o : Operation) (hp : p.Valid) (hd : Due p last c.session.connection) :
    Paces p (c.perform o).2.session.connection last (c.deed o).marks := by
  obtain ⟨calls, -, hc, hm⟩ := perform_delays o c
  rw [Deed.marks, resets_eq, hc]
  cases hk : c.linked? o with
  | none =>
    rw [hk] at hm
    obtain ⟨hcon, rfl⟩ := hm
    exact hd.congr (by rw [hcon])
  | some k =>
    rw [hk] at hm
    obtain ⟨answer, hm⟩ := hm
    exact hm.paces hp hd

/-- The marks of a whole run follow each other. -/
theorem paces_run (os : List Operation) (hp : p.Valid) (hd : Due p last c.session.connection) :
    Paces p (run os c).2.session.connection last ((history os c).flatMap Deed.marks) := by
  induction os generalizing c last with
  | nil => exact hd
  | cons o os ih => exact (paces_perform o hp hd).append fun _ h => ih h

theorem Deed.marks_delay? (d : Deed) :
    d.marks.filterMap Mark.delay? = (d.calls.filterMap Call.scheduled?).map Prod.fst := by
  have delays : (Connection.delays d.calls).filterMap Mark.delay? =
      (d.calls.filterMap Call.scheduled?).map Prod.fst := by
    rw [Connection.delays, List.filterMap_map, ← List.filterMap_eq_map]
    rfl
  rw [Deed.marks, List.filterMap_append, delays]
  split <;> rfl

theorem scheduled_run (os : List Operation) (c : Console (Watched ω)) :
    ((run os c).2.world.calls.filterMap Call.scheduled?).map Prod.fst =
      (c.world.calls.filterMap Call.scheduled?).map Prod.fst ++
        ((history os c).flatMap Deed.marks).filterMap Mark.delay? := by
  induction os generalizing c with
  | nil => simp [history, run]
  | cons o os ih =>
    obtain ⟨_, hc, -⟩ := perform_delays o c
    simp [run, history, ih, hc, Deed.marks_delay?]

/-- Whatever configuration is read and whatever is then done, each timer is set for a delay within
the bounds, for the base after a reset or at the beginning, and for no less than the timer before it
otherwise. Without attempts there are no timers. -/
theorem run_delays {text : String} {config : Config} (h : Config.ofJson text = .ok config)
    (url : String) (w : ω) (os : List Operation) :
    let start : Console (Watched ω) := ⟨config.session url, { inner := w }⟩
    let ms := (history os start).flatMap Deed.marks
    ((run os start).2.world.calls.filterMap Call.scheduled?).map Prod.fst =
        ms.filterMap Mark.delay? ∧
      (∀ d, .delay d ∈ ms → config.baseDelay ≤ d ∧ d ≤ config.maxDelay ∧ 1 ≤ d) ∧
      (∀ before d after, .reset :: ms = before ++ .reset :: .delay d :: after →
        d = config.baseDelay) ∧
      (∀ before d d' after, ms = before ++ .delay d :: .delay d' :: after → d ≤ d') ∧
      (config.maxAttempts = 0 → ∀ d, .delay d ∉ ms) := by
  intro start ms
  have hp := Config.valid_of_ofJson h
  have hd : Due config.policy .reset start.session.connection := ⟨rfl, .inl rfl⟩
  have hms : Paces config.policy (run os start).2.session.connection .reset ms := paces_run os hp hd
  refine ⟨scheduled_run os start, fun d hm => ?_, fun before d after hs => ?_,
    fun before d d' after hs => ?_, fun h0 d hm => ?_⟩
  · obtain ⟨m, -, hb, hc, -⟩ := hms.follows_of_mem hm
    refine ⟨hb, hc, ?_⟩
    have := hp.base_pos
    rw [UInt32.le_iff_toNat_le] at hb ⊢
    exact Nat.le_trans this hb
  · exact (hms.follows hs).2.2.2
  · have hs' : Mark.reset :: ms = (.reset :: before) ++ .delay d :: .delay d' :: after :=
      congrArg (Mark.reset :: ·) hs
    exact (hms.follows hs').2.2.2
  · obtain ⟨m, hn, -⟩ := hms.follows_of_mem hm
    exact hn h0

/-- Delays double up to their bound, and a reconnect goes back to the base. -/
theorem run_delays_doubling :
    let text := "\x7b\"baseDelayMs\":100,\"maxDelayMs\":250\x7d"
    let config : Config := { baseDelay := 100, maxDelay := 250 }
    let os : List Operation := [.start, .signal ⟨1⟩ .closed, .retryDue ⟨1⟩, .signal ⟨2⟩ .closed,
      .retryDue ⟨2⟩, .signal ⟨3⟩ .closed, .reconnect, .signal ⟨4⟩ .closed]
    let start : Console (Watched Bench) := ⟨config.session "ws://h/ws", { inner := {} }⟩
    let ms := (history os start).flatMap Deed.marks
    Config.ofJson text = .ok config ∧
      ms = [.delay 100, .delay 200, .delay 250, .reset, .delay 100] ∧
      (∀ d, .delay d ∈ ms → config.baseDelay ≤ d ∧ d ≤ config.maxDelay ∧ 1 ≤ d) :=
  have h : Config.ofJson "\x7b\"baseDelayMs\":100,\"maxDelayMs\":250\x7d" =
      .ok { baseDelay := 100, maxDelay := 250 } := Config.ofJson_eq_ok (by decide +kernel)
  ⟨h, by decide +kernel, (run_delays h _ _ _).2.1⟩

end Console

end Session

end WebTerminal

