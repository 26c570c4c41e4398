import WebTerminal.Bench
import WebTerminal.Proofs.Connection.Coherence

/-! # Dormant connections

Closing a connection, shutting it down and giving it up all leave it dormant: nothing is under way
and no retry is waited for. From then on callbacks of any epoch find nothing to act upon and frames
are dropped, until more is asked of the connection. -/

namespace WebTerminal.Connection

/-- Neither an attempt nor a retry is under way. -/
structure Dormant (c : Connection) : Prop where
  still : c.state.isLive = false
  retry : c.retry? = none

/-- The connection with more dropped frames counted, and else as it was. -/
def dropping (n : Nat) (c : Connection) : Connection :=
  { c with counters.framesDropped := c.counters.framesDropped + UInt64.ofNat n }

namespace Operation

def isSend : Operation → Bool
  | send _ => true
  | _ => false

/-- A frame is offered, or a socket or a timer calls back. All else asks for something. -/
def isPassive : Operation → Bool
  | send _ | signal _ _ | retryDue _ => true
  | connect | reconnect | close | shutdown => false

/-- What a passive operation is answered then. -/
def dormantAnswer : Operation → Answer
  | send _ => .delivery .dropped
  | _ => .events []

/-- The operation closes the connection, shuts it down, or sees it given up. -/
def Ends (o : Operation) (a : Answer) : Prop :=
  o = close ∨ o = shutdown ∨ ∃ maxAttempts, .exhausted maxAttempts ∈ a.events?

end Operation

variable {c c' : Connection} {es : List Event} {calls : List Call}

theorem dropping_dropping (m n : Nat) (c : Connection) :
    (c.dropping m).dropping n = c.dropping (m + n) := by
  simp [dropping, UInt64.ofNat_add, UInt64.add_assoc]

theorem dropping_zero (c : Connection) : c.dropping 0 = c := by
  simp [dropping]

theorem Dormant.dropping (h : Dormant c) (n : Nat) : Dormant (c.dropping n) := ⟨h.still, h.retry⟩

theorem Loss.dormant (h : Loss c es calls c') (ht : c.retry? = none) {n : UInt32}
    (hx : .exhausted n ∈ es) : Dormant c' := by
  cases h with
  | retry | again => simp at hx
  | giveUp => exact ⟨rfl, ht⟩

theorem Attempt.dormant (h : Attempt c es calls c') {n : UInt32} (hx : .exhausted n ∈ es) :
    Dormant c' := by
  cases h with
  | dialled s => simp at hx
  | refused error hl => exact hl.dormant rfl (by simpa using hx)

theorem Move.dormant {o : Operation} {a : Answer} (h : Move c o a calls c') (hc : Coherent c)
    (he : o.Ends a) : Dormant c' := by
  rcases he with rfl | rfl | ⟨n, hx⟩
  · cases h with
    | closeIgnored hs =>
      refine ⟨?_, rfl⟩
      show c.state.isLive = false
      rcases hs with hs | hs <;> rw [hs] <;> rfl
    | close => exact ⟨rfl, rfl⟩
  · cases h with
    | shutdown => exact ⟨rfl, rfl⟩
  · cases h with
    | connectAnew _ _ ha | connect _ _ ha | reconnect _ ha | retry _ _ ha => exact ha.dormant hx
    | replace _ ha => exact ha.dormant (by simpa [Answer.events?] using hx)
    | lost hl hloss =>
      have hs : c.state ≠ .closed .network := fun hs => by simp [hs, State.isLive] at hl
      exact hloss.dormant (hc.retry_none hs) hx
    | _ => simp [Answer.events?] at hx

/-- Callbacks and frames do not wake a dormant connection. -/
theorem Move.of_dormant {o : Operation} {a : Answer} (h : Move c o a calls c') (hr : Dormant c)
    (ho : o.isPassive = true) :
    a = o.dormantAnswer ∧ calls = [] ∧ c' = c.dropping ([o].countP Operation.isSend) := by
  have awake {s : State} (hs : c.state = s) (hl : s.isLive = true) : False := by
    have hstill := hr.still
    rw [hs, hl] at hstill
    cases hstill
  cases h with
  | dropped => exact ⟨rfl, rfl, rfl⟩
  | signalIgnored | timerIgnored => exact ⟨rfl, rfl, (dropping_zero c).symm⟩
  | sent _ hs | unsent _ _ hs | opened hs | received _ hs => exact (awake hs rfl).elim
  | failed _ hl | lost hl => exact (awake rfl hl).elim
  | retry e hw =>
    obtain ⟨_, r, ht, _⟩ := awaits_retry hw
    rw [hr.retry] at ht
    cases ht
  | connectIgnored | connectAnew | connect | replace | reconnect | closeIgnored | close
  | shutdown => cases ho

namespace Link

variable {ω : Type} [Network ω]

theorem run_of_dormant (os : List Operation) {l : Link ω} (hr : Dormant l.connection)
    (ho : ∀ o ∈ os, o.isPassive = true) :
    (run os l).1 = os.map Operation.dormantAnswer ∧
      (run os l).2.connection = l.connection.dropping (os.countP Operation.isSend) ∧
      Made l.world [] (run os l).2.world := by
  induction os generalizing l with
  | nil => exact ⟨rfl, (dropping_zero _).symm, .nil _⟩
  | cons o os ih =>
    obtain ⟨calls, hm, hmade⟩ := l.perform_moves o
    obtain ⟨ha, rfl, hc⟩ := hm.of_dormant hr (ho o List.mem_cons_self)
    obtain ⟨has, hcs, hmades⟩ := ih (l := (l.perform o).2) (hc ▸ hr.dropping _)
      fun o ho' => ho o (List.mem_cons_of_mem _ ho')
    refine ⟨?_, ?_, hmade.append hmades⟩
    · rw [run, ha, has, List.map_cons]
    · rw [run, hcs, hc, dropping_dropping, ← List.countP_append, List.singleton_append]

/-- After a connection was closed, shut down or given up, callbacks of whatever epoch and frames
offered to it, in any number and order, bring about no event and no call but to the log: every frame
is dropped, and nothing but their count changes. -/
theorem run_dormant (url : String) (policy : RetryPolicy) (w : ω) (past : List Operation)
    (o : Operation) (later : List Operation) :
    let ended := (run past ⟨{ url, policy }, w⟩).2.perform o
    o.Ends ended.1 → (∀ o' ∈ later, o'.isPassive = true) →
      (run later ended.2).1 = later.map Operation.dormantAnswer ∧
        (run later ended.2).2.connection =
          ended.2.connection.dropping (later.countP Operation.isSend) ∧
        Made ended.2.world [] (run later ended.2).2.world := by
  intro ended he ho
  have hc : Coherent (run past ⟨{ url, policy }, w⟩).2.connection :=
    run_keeps (fun o _ h => coherent_perform o h) past (coherent_new url policy)
  obtain ⟨_, hm, _⟩ := (run past ⟨{ url, policy }, w⟩).2.perform_moves o
  exact run_of_dormant later (hm.dormant hc he) ho

/-- The socket and both timers of a connection that was given up call back in vain. -/
theorem run_dormant_given_up :
    let past : List Operation := [.connect, .signal ⟨1⟩ .closed, .retryDue ⟨1⟩]
    let later : List Operation :=
      [.signal ⟨2⟩ .opened, .retryDue ⟨2⟩, .send ⟨[104]⟩, .signal ⟨2⟩ (.message [104]),
        .retryDue ⟨1⟩, .signal ⟨2⟩ (.error "late"), .signal ⟨2⟩ .closed]
    let start : Link Bench := ⟨{ url := "ws://h/ws", policy := { maxAttempts := 1 } }, {}⟩
    let ended := (run past start).2.perform (.signal ⟨2⟩ .closed)
    Operation.Ends (.signal ⟨2⟩ .closed) ended.1 ∧ (∀ o' ∈ later, o'.isPassive = true) ∧
      (run later ended.2).1 = later.map Operation.dormantAnswer ∧
        (run later ended.2).2.connection =
          ended.2.connection.dropping (later.countP Operation.isSend) ∧
        Made ended.2.world [] (run later ended.2).2.world :=
  ⟨.inr (.inr ⟨1, by decide +kernel⟩), by decide,
    run_dormant _ _ _ _ _ _ (.inr (.inr ⟨1, by decide +kernel⟩)) (by decide)⟩

end Link

end WebTerminal.Connection
