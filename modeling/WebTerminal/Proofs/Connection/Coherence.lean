import Mathlib.Logic.Basic
import WebTerminal.Bench
import WebTerminal.Proofs.Connection.Move
import WebTerminal.Proofs.Connection.RetryPolicy

/-! # Coherent connections

State, socket, retry, policy and report of a connection belong together. Every move keeps them so,
and therefore every run from a new connection. -/

namespace WebTerminal.Connection

/-- A socket is held while the connection is live. A retry is waited for only after a loss in the
present epoch, and a loss without one has exhausted the policy and said so. -/
structure Coherent (c : Connection) : Prop where
  socket_iff : c.socket?.isSome = true ↔ c.state.isLive = true
  retry_lost : ∀ r, c.retry? = some r → c.state = .closed .network ∧ r.epoch = c.epoch
  retry_or_exhausted : c.state = .closed .network →
    Xor (c.retry?.isSome = true) (c.policy.isExhausted = true ∧ c.exhaustionReported = true)
  reported : c.exhaustionReported = true →
    (∃ reason, c.state = .closed reason) ∧ c.policy.isExhausted = true ∧ c.retry? = none

variable {c c' : Connection} {es : List Event} {calls : List Call}

theorem coherent_new (url : String) (policy : RetryPolicy) : Coherent { url, policy } where
  socket_iff := by simp [State.isLive]
  retry_lost := by simp
  retry_or_exhausted := by simp
  reported := by simp

namespace Coherent

theorem retry_none (h : Coherent c) (hs : c.state ≠ .closed .network) : c.retry? = none := by
  cases hr : c.retry? with
  | none => rfl
  | some r => exact absurd (h.retry_lost r hr).1 hs

theorem unreported_of_live (h : Coherent c) (hl : c.state.isLive = true) :
    c.exhaustionReported = false := by
  refine Bool.eq_false_iff.mpr fun hr => ?_
  obtain ⟨⟨reason, hs⟩, _⟩ := h.reported hr
  simp [hs, State.isLive] at hl

theorem unreported_of_waiting (h : Coherent c) {r : Retry} (ht : c.retry? = some r) :
    c.exhaustionReported = false := by
  refine Bool.eq_false_iff.mpr fun hr => ?_
  simp [(h.reported hr).2.2] at ht

/-- A connection that goes on counting has retries left. -/
theorem unreported_of_continuing (h : Coherent c) (hn : c.startsAnew = false) :
    c.exhaustionReported = false := by
  refine Bool.eq_false_iff.mpr fun hr => ?_
  simp [startsAnew, (h.reported hr).2.1] at hn

/-- The user may leave a connection from any state. -/
theorem leave (h : Coherent c) {s : State} (hl : s.isLive = false) (hs : s ≠ .closed .network)
    (hr : c.exhaustionReported = true → ∃ reason, s = .closed reason) :
    Coherent { c.cleared with state := s } where
  socket_iff := by simp [cleared, hl]
  retry_lost := by simp [cleared]
  retry_or_exhausted := fun h => absurd h hs
  reported := fun h' => ⟨hr h', (h.reported h').2.1, rfl⟩

end Coherent

theorem Loss.coherent (h : Loss c es calls c') (hk : c.socket? = none) (ht : c.retry? = none)
    (hr : c.exhaustionReported = false) : Coherent c' := by
  cases h with
  | retry timer hx => constructor <;> simp [State.isLive, hk, hr, Xor]
  | giveUp hx _ => constructor <;> simp [State.isLive, hk, ht, hx, Xor]
  | again hx hr' => rw [hr] at hr'; cases hr'

theorem Attempt.coherent (h : Attempt c es calls c') (hr : c.exhaustionReported = false) :
    Coherent c' := by
  cases h with
  | dialled s => constructor <;> simp [cleared, beginAttempt, State.isLive, hr]
  | refused error hl => exact hl.coherent rfl rfl hr

theorem awaits_retry {e : Epoch} (h : c.awaits e = true) :
    c.state = .closed .network ∧ ∃ r, c.retry? = some r ∧ r.epoch = e := by
  simpa [awaits, Option.any_eq_true] using h

theorem Move.coherent {o : Operation} {a : Answer} (h : Move c o a calls c') (hc : Coherent c) :
    Coherent c' := by
  cases h with
  | connectIgnored | unsent | signalIgnored | failed | timerIgnored => exact hc
  | connectAnew _ _ ha | reconnect _ ha | replace _ ha => exact ha.coherent rfl
  | connect _ hn ha => exact ha.coherent (hc.unreported_of_continuing hn)
  | retry e h ha =>
    obtain ⟨_, r, hr, _⟩ := awaits_retry h
    exact ha.coherent (hc.unreported_of_waiting hr)
  | lost h hl =>
    have hs : c.state ≠ .closed .network := fun hs => by simp [hs, State.isLive] at h
    exact hl.coherent rfl (hc.retry_none hs) (hc.unreported_of_live h)
  | closeIgnored h =>
    refine hc.leave (s := c.state) ?_ ?_ fun hr => (hc.reported hr).1
    · rcases h with h | h <;> simp [h, State.isLive]
    · rcases h with h | h <;> simp [h]
  | close => exact hc.leave rfl (by simp) fun _ => ⟨.user, rfl⟩
  | shutdown => constructor <;> simp [cleared, resetPolicy, State.isLive]
  | opened h =>
    have hk : c.socket?.isSome = true := hc.socket_iff.mpr (by simp [h, State.isLive])
    have ht : c.retry? = none := hc.retry_none (by simp [h])
    constructor <;> simp [resetPolicy, State.isLive, hk, ht]
  | dropped | sent | received =>
    exact ⟨hc.socket_iff, hc.retry_lost, hc.retry_or_exhausted, hc.reported⟩

/-! ## Policies along a run -/

theorem Loss.attainable (h : Loss c es calls c') (hp : c.policy.Attainable) :
    c'.policy.Attainable := by
  cases h with
  | retry timer hx => exact hp.advance hx
  | giveUp | again => exact hp

theorem Attempt.attainable (h : Attempt c es calls c') (hp : c.policy.Attainable) :
    c'.policy.Attainable := by
  cases h with
  | dialled s => exact hp
  | refused error hl => exact hl.attainable hp

theorem Move.attainable {o : Operation} {a : Answer} (h : Move c o a calls c')
    (hp : c.policy.Attainable) : c'.policy.Attainable := by
  cases h with
  | connectAnew _ _ ha | reconnect _ ha | replace _ ha => exact ha.attainable hp.reset
  | connect _ _ ha | retry _ _ ha => exact ha.attainable hp
  | lost _ hl => exact hl.attainable hp
  | shutdown | opened => exact hp.reset
  | _ => exact hp

namespace Link

variable {ω : Type} [Network ω]

theorem coherent_perform {l : Link ω} (o : Operation) (h : Coherent l.connection) :
    Coherent (l.perform o).2.connection := by
  obtain ⟨_, hm, _⟩ := l.perform_moves o
  exact hm.coherent h

theorem attainable_perform {l : Link ω} (o : Operation) (h : l.connection.policy.Attainable) :
    (l.perform o).2.connection.policy.Attainable := by
  obtain ⟨_, hm, _⟩ := l.perform_moves o
  exact hm.attainable h

/-- What every operation keeps, a run keeps. -/
theorem run_keeps {P : Connection → Prop}
    (hP : ∀ (o : Operation) (l : Link ω), P l.connection → P (l.perform o).2.connection)
    (os : List Operation) {l : Link ω} (h : P l.connection) : P (run os l).2.connection := by
  induction os generalizing l with
  | nil => exact h
  | cons o os ih => exact ih (hP o l h)

/-- On a coherent connection a frame is dropped just when the connection is not open. -/
theorem send_eq_dropped_iff {l : Link ω} (h : Coherent l.connection) (f : Frame) :
    (l.send f).1 = .dropped ↔ l.connection.state ≠ .opened := by
  obtain ⟨_, hm, _⟩ := l.send_moves f
  simp only [perform] at hm
  generalize (l.send f).1 = d at hm
  generalize (l.send f).2.connection = c at hm
  cases hm with
  | dropped _ hs =>
    refine ⟨fun _ ho => ?_, fun _ => rfl⟩
    have hk := h.socket_iff.mpr (by simp [ho, State.isLive])
    rw [hs ho] at hk
    cases hk
  | sent _ ho | unsent _ _ ho => simp [ho]

/-- Whatever the world does, every run from a new connection ends in a coherent one, with no more
attempts counted than the policy allows, and drops a frame just when it is not open. -/
theorem run_coherent {policy : RetryPolicy} (hp : policy.Attainable) (url : String) (w : ω)
    (os : List Operation) :
    let l := (run os ⟨{ url, policy }, w⟩).2
    Coherent l.connection ∧ l.connection.policy.attempt ≤ l.connection.policy.maxAttempts ∧
      ∀ f, (l.send f).1 = .dropped ↔ l.connection.state ≠ .opened := by
  have hc := run_keeps (fun o _ h => coherent_perform o h) os
    (l := (⟨{ url, policy }, w⟩ : Link ω)) (coherent_new url policy)
  have ha := run_keeps (P := fun c => c.policy.Attainable)
    (fun o _ h => attainable_perform o h) os (l := (⟨{ url, policy }, w⟩ : Link ω)) hp
  exact ⟨hc, ha.attempt_le, send_eq_dropped_iff hc⟩

/-- Two losses use up a policy of one retry. -/
theorem run_coherent_used_up :
    let policy : RetryPolicy :=
      { maxAttempts := 1, baseDelay := 100, maxDelay := 1000, multiplier := 2 }
    let l := (run [.connect, .signal ⟨1⟩ .closed, .retryDue ⟨1⟩, .signal ⟨2⟩ .closed]
      (⟨{ url := "ws://h/ws", policy }, {}⟩ : Link Bench)).2
    policy.Attainable ∧ l.connection.state = .closed .network ∧
      l.connection.exhaustionReported = true ∧ Coherent l.connection ∧
      l.connection.policy.attempt ≤ l.connection.policy.maxAttempts ∧
      ∀ f, (l.send f).1 = .dropped ↔ l.connection.state ≠ .opened :=
  ⟨.fresh 1 100 1000 2, by decide +kernel, by decide +kernel,
    run_coherent (.fresh 1 100 1000 2) _ _ _⟩

end Link

end WebTerminal.Connection
