import WebTerminal.Proofs.Connection.Spell

/-! # Delays between resets

Along the life of a connection the resets of its policy and the timers it sets make up one sequence.
After a reset the first delay is the base, and from there to the next reset delays do not fall. The
last of the sequence tells where the policy stands. -/

namespace WebTerminal

namespace RetryPolicy

/-- The checks that a configuration makes of its policy. -/
structure Valid (p : RetryPolicy) : Prop where
  base_pos : 0 < p.baseDelay.toNat
  base_le : p.baseDelay ≤ p.maxDelay
  multiplier_pos : 0 < p.multiplier.toNat

variable {p : RetryPolicy}

theorem delay_le (p : RetryPolicy) (attempt : UInt32) : p.delay attempt ≤ p.maxDelay := by
  rw [UInt32.le_iff_toNat_le, toNat_delay]
  exact Nat.min_le_right _ _

theorem Valid.le_delay (h : p.Valid) (attempt : UInt32) : p.baseDelay ≤ p.delay attempt := by
  rw [UInt32.le_iff_toNat_le, toNat_delay]
  exact Nat.le_min.mpr ⟨Nat.le_mul_of_pos_right _ (Nat.pow_pos h.multiplier_pos),
    UInt32.le_iff_toNat_le.mp h.base_le⟩

theorem Valid.delay_one (h : p.Valid) {attempt : UInt32} (ha : attempt.toNat = 1) :
    p.delay attempt = p.baseDelay := by
  rw [← UInt32.toNat_inj, toNat_delay, ha, Nat.sub_self, Nat.pow_zero, Nat.mul_one]
  exact Nat.min_eq_left (UInt32.le_iff_toNat_le.mp h.base_le)

end RetryPolicy

namespace Connection

/-- What happens to the delays of a connection: its policy is reset, or a timer is set. -/
inductive Mark where
  | reset
  | delay (d : UInt32)
  deriving DecidableEq, Repr

def Mark.delay? : Mark → Option UInt32
  | delay d => some d
  | reset => none

def delays (calls : List Call) : List Mark :=
  (calls.filterMap Call.scheduled?).map fun timer => .delay timer.1

/-- Whether an operation resets the policy. Connecting does so after a closing by the user or when
no attempt is left. -/
def Operation.resets (o : Operation) (c : Connection) : Bool :=
  match o with
  | .reconnect | .shutdown => true
  | .connect => c.startsAnew
  | .signal e s => e = c.epoch && s = .opened && c.state = .connecting
  | _ => false

/-- A reset comes before the delays of its own operation. -/
def marks (o : Operation) (c : Connection) (calls : List Call) : List Mark :=
  (if o.resets c then [.reset] else []) ++ delays calls

/-- What the terms of a policy ask of a mark, after the mark before it. -/
def Mark.Follows (p : RetryPolicy) (last m : Mark) : Prop :=
  match m with
  | .reset => True
  | .delay d => p.maxAttempts ≠ 0 ∧ p.baseDelay ≤ d ∧ d ≤ p.maxDelay ∧
    match last with
    | .reset => d = p.baseDelay
    | .delay d' => d' ≤ d

/-- Where a policy stands after a mark. After a reset it is also possible that nothing is left. -/
structure Due (p : RetryPolicy) (last : Mark) (c : Connection) : Prop where
  terms : c.policy.reset = p
  stands : match last with
    | .reset => c.policy.attempt = 0 ∨ c.policy.isExhausted = true
    | .delay d => c.policy.attempt ≠ 0 ∧ d = p.delay c.policy.attempt

/-- Each mark follows the one before it, and the policy stands as the last one tells. -/
def Paces (p : RetryPolicy) (c : Connection) : Mark → List Mark → Prop
  | last, [] => Due p last c
  | last, m :: ms => Mark.Follows p last m ∧ Paces p c m ms

variable {p : RetryPolicy} {last : Mark} {ms ms' : List Mark} {c c' : Connection} {o : Operation}
  {a : Answer} {es : List Event} {calls : List Call}

theorem Paces.append (h : Paces p c last ms)
    (h' : ∀ last, Due p last c → Paces p c' last ms') : Paces p c' last (ms ++ ms') := by
  induction ms generalizing last with
  | nil => exact h' last h
  | cons m ms ih => exact ⟨h.1, ih h.2⟩

theorem Paces.follows {m m' : Mark} {before after : List Mark} (h : Paces p c last ms)
    (hs : last :: ms = before ++ m :: m' :: after) : m.Follows p m' := by
  induction before generalizing last ms with
  | nil =>
    obtain ⟨rfl, rfl⟩ := List.cons.inj hs
    exact h.1
  | cons b before ih =>
    obtain ⟨rfl, rfl⟩ := List.cons.inj hs
    cases before with
    | nil => exact ih h.2 rfl
    | cons b before => exact ih h.2 rfl

theorem Paces.follows_of_mem {m : Mark} (h : Paces p c last ms) (hm : m ∈ ms) :
    ∃ m', Mark.Follows p m' m := by
  induction ms generalizing last with
  | nil => cases hm
  | cons m' ms ih =>
    rcases List.mem_cons.mp hm with rfl | hm
    · exact ⟨last, h.1⟩
    · exact ih h.2 hm

theorem Due.delay_eq (h : Due p last c) (attempt : UInt32) :
    c.policy.delay attempt = p.delay attempt := by
  rw [← h.terms]
  rfl

theorem Due.maxAttempts (h : Due p last c) : c.policy.maxAttempts = p.maxAttempts := by
  rw [← h.terms]
  rfl

theorem Due.congr (h : Due p last c) (hp : c'.policy = c.policy) : Due p last c' where
  terms := hp ▸ h.terms
  stands := by
    rw [hp]
    exact h.stands

theorem Due.reset (h : Due p last c) (hp : c'.policy = c.policy.reset) : Due p .reset c' where
  terms := by rw [hp, ← h.terms]; rfl
  stands := .inl (by rw [hp]; rfl)

theorem delays_append (a b : List Call) : delays (a ++ b) = delays a ++ delays b := by
  simp [delays]

theorem delays_clearing (c : Connection) : delays c.clearing = [] := by
  simp [delays, Call.filterMap_scheduled_of_letsGo c.letsGo_clearing]

theorem delays_releasing (c : Connection) : delays c.releasing = [] := by
  simp [delays, Call.filterMap_scheduled_of_letsGo c.letsGo_releasing]

theorem Loss.paces (h : Loss c es calls c') (hp : p.Valid) (hd : Due p last c) :
    Paces p c' last (delays calls) := by
  cases h with
  | retry timer hx =>
    have next := RetryPolicy.toNat_advance_attempt hx
    have left := RetryPolicy.isExhausted_eq_false.mp hx
    have cancelled : delays (c.cancelling ++
        [.schedule (c.policy.delay c.policy.advance.attempt) c.epoch timer]) =
        [.delay (p.delay c.policy.advance.attempt)] := by
      rw [hd.delay_eq]
      unfold cancelling
      cases c.retry? <;> rfl
    have some : p.maxAttempts ≠ 0 := by
      rintro h0
      rw [hd.maxAttempts, h0] at left
      exact absurd left (Nat.not_lt_zero _)
    rw [cancelled]
    refine ⟨⟨some, hp.le_delay _, p.delay_le _, ?_⟩, hd.terms, ?_, rfl⟩
    · cases last with
      | reset =>
        have zero : c.policy.attempt = 0 := hd.stands.resolve_right (by simp [hx])
        exact hp.delay_one (by rw [next, zero]; rfl)
      | delay d =>
        obtain ⟨-, rfl⟩ := hd.stands
        exact RetryPolicy.delay_mono hp.multiplier_pos (by omega)
    · intro h0
      have := congrArg UInt32.toNat h0
      rw [next] at this
      exact absurd this (Nat.succ_ne_zero _)
  | giveUp | again => exact hd.congr rfl

theorem Attempt.paces (h : Attempt c es calls c') (hp : p.Valid) (hd : Due p last c) :
    Paces p c' last (delays calls) := by
  cases h with
  | dialled s =>
    rw [delays_append, delays_clearing]
    exact hd.congr rfl
  | refused error hl =>
    rw [delays_append, delays_clearing]
    exact hl.paces hp (hd.congr rfl)

theorem Move.paces (h : Move c o a calls c') (hp : p.Valid) (hd : Due p last c) :
    Paces p c' last (marks o c calls) := by
  have quiet {calls : List Call} {c' : Connection} (ho : o.resets c = false)
      (hc : delays calls = []) (hpol : c'.policy = c.policy) :
      Paces p c' last (marks o c calls) := by
    rw [marks, ho, hc]
    exact hd.congr hpol
  have anew {calls : List Call} {c' : Connection} (ho : o.resets c = true)
      (h : Paces p c' .reset (delays calls)) : Paces p c' last (marks o c calls) := by
    rw [marks, ho]
    exact ⟨trivial, h⟩
  cases h with
  | connectIgnored hl =>
    cases ho : Operation.connect.resets c with
    | false => exact quiet ho rfl rfl
    | true =>
      -- A connection that is live was not closed by the user, so no attempt is left.
      have spent : c.policy.isExhausted = true := by
        have user : c.state ≠ .closed .user := fun hs => by simp [hs, State.isLive] at hl
        simpa [Operation.resets, startsAnew, user] using ho
      exact anew ho ⟨hd.terms, .inr spent⟩
  | connectAnew _ hn ha => exact anew hn (ha.paces hp (hd.reset rfl))
  | connect _ hn ha =>
    rw [marks, show Operation.connect.resets c = false from hn]
    exact ha.paces hp hd
  | replace _ ha =>
    refine anew rfl ?_
    rw [delays_append, delays_clearing]
    exact ha.paces hp (hd.reset rfl)
  | reconnect _ ha => exact anew rfl (ha.paces hp (hd.reset rfl))
  | closeIgnored | close => exact quiet rfl (delays_clearing c) rfl
  | shutdown =>
    refine anew rfl ?_
    rw [delays_clearing]
    exact hd.reset rfl
  | dropped | sent | unsent | timerIgnored => exact quiet rfl rfl rfl
  | received | failed => exact quiet (by simp [Operation.resets]) rfl rfl
  | signalIgnored e s hs =>
    refine quiet (Bool.eq_false_iff.mpr fun ho => ?_) rfl rfl
    obtain ⟨⟨he, rfl⟩, hc⟩ : (e = c.epoch ∧ s = .opened) ∧ c.state = .connecting := by
      simpa [Operation.resets] using ho
    simp [heeds, hc] at hs
    exact absurd he hs
  | opened hs => exact anew (by simp [Operation.resets, hs]) (hd.reset rfl)
  | lost _ hl =>
    rw [marks, delays_append, delays_releasing]
    simpa [Operation.resets] using hl.paces hp (hd.congr rfl)
  | retry _ _ ha => exact ha.paces hp (hd.congr rfl)

end Connection

end WebTerminal
