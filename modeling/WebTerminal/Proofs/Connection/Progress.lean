import WebTerminal.Proofs.Connection.Coherence

/-! # Attempts and epochs

A move either stays in its epoch, where a connection never comes back to an earlier state of its
life, or dials once in the next one. So the epoch counts the attempts, and what a callback did to
the connection of its epoch can not be done again. -/

namespace WebTerminal.Connection

/-- The connection is still in the same epoch, and no less far in it. -/
structure Stays (c c' : Connection) : Prop where
  epoch : c'.epoch = c.epoch
  connecting : c'.state = .connecting → c.state = .connecting
  live : c'.state.isLive = true → c.state.isLive = true

variable {c c' : Connection} {es : List Event} {calls : List Call}

theorem Stays.of_eq (he : c'.epoch = c.epoch) (hs : c'.state = c.state) : Stays c c' :=
  ⟨he, fun h => hs ▸ h, fun h => hs ▸ h⟩

theorem dials_cancelling (c : Connection) : c.cancelling.countP Call.isDial = 0 := by
  unfold cancelling
  cases c.retry? <;> rfl

theorem dials_clearing (c : Connection) : c.clearing.countP Call.isDial = 0 := by
  unfold clearing hangingUp
  rw [List.countP_append, dials_cancelling]
  cases c.socket? <;> rfl

theorem dials_releasing (c : Connection) : c.releasing.countP Call.isDial = 0 := by
  unfold releasing
  cases c.socket? <;> rfl

theorem Loss.epoch_eq (h : Loss c es calls c') : c'.epoch = c.epoch := by
  cases h <;> rfl

theorem Loss.state_eq (h : Loss c es calls c') : c'.state = .closed .network := by
  cases h <;> rfl

theorem Loss.dials_eq (h : Loss c es calls c') : calls.countP Call.isDial = 0 := by
  cases h with
  | retry timer _ =>
    rw [List.countP_append, dials_cancelling]
    rfl
  | giveUp | again => rfl

theorem Attempt.epoch_eq (h : Attempt c es calls c') : c'.epoch = c.epoch.next := by
  cases h with
  | dialled s => rfl
  | refused error hl => exact hl.epoch_eq

theorem Attempt.dials_eq (h : Attempt c es calls c') : calls.countP Call.isDial = 1 := by
  cases h with
  | dialled s =>
    rw [List.countP_append, dials_clearing]
    rfl
  | refused error hl =>
    rw [List.countP_append, dials_clearing, List.countP_cons, hl.dials_eq]
    rfl

theorem Move.progress {o : Operation} {a : Answer} (h : Move c o a calls c') :
    Stays c c' ∧ calls.countP Call.isDial = 0 ∨
      c'.epoch = c.epoch.next ∧ calls.countP Call.isDial = 1 := by
  cases h with
  | connectAnew _ _ ha | connect _ _ ha | reconnect _ ha | retry _ _ ha =>
    exact .inr ⟨ha.epoch_eq, ha.dials_eq⟩
  | replace _ ha =>
    refine .inr ⟨ha.epoch_eq, ?_⟩
    rw [List.countP_append, dials_clearing, ha.dials_eq]
  | closeIgnored => exact .inl ⟨.of_eq rfl rfl, dials_clearing c⟩
  | close => exact .inl ⟨⟨rfl, by simp [left], by simp [left, State.isLive]⟩, dials_clearing c⟩
  | shutdown => exact .inl ⟨⟨rfl, by simp, by simp [State.isLive]⟩, dials_clearing c⟩
  | opened hs => exact .inl ⟨⟨rfl, by simp, fun _ => by rw [hs]; rfl⟩, rfl⟩
  | lost hl hloss =>
    have hs := hloss.state_eq
    refine .inl ⟨⟨hloss.epoch_eq, by simp [hs], by simp [hs, State.isLive]⟩, ?_⟩
    rw [List.countP_append, dials_releasing, hloss.dials_eq]
  | _ => exact .inl ⟨.of_eq rfl rfl, rfl⟩

/-! ## Epochs count attempts -/

/-- The epoch is the number of attempts, as far as it can be told in 64 bits. -/
def Paced (c : Connection) (dials : Nat) : Prop := c.epoch.raw = UInt64.ofNat dials

variable {n : Nat}

theorem Paced.toNat_epoch (h : Paced c n) (hn : n < 2 ^ 64) : c.epoch.raw.toNat = n := by
  rw [show c.epoch.raw = UInt64.ofNat n from h]
  exact UInt64.toNat_ofNat_of_lt' hn

theorem Move.paced {o : Operation} {a : Answer} (h : Move c o a calls c') (hp : Paced c n) :
    Paced c' (n + calls.countP Call.isDial) := by
  rcases h.progress with ⟨hs, hd⟩ | ⟨he, hd⟩
  · rw [Paced, hs.epoch, hd]
    exact hp
  · rw [Paced, he, hd, UInt64.ofNat_add, ← show c.epoch.raw = UInt64.ofNat n from hp]
    rfl

/-! ## What an epoch sees once -/

/-- Whether a callback is acted upon. -/
def actsOn (c : Connection) : Operation → Bool
  | .signal e s => e = c.epoch && c.heeds s
  | .retryDue e => c.awaits e
  | _ => true

/-- A callback that the connection has left behind. -/
def Spent (c : Connection) : Operation → Prop
  | .signal e .opened =>
    e.raw.toNat ≤ c.epoch.raw.toNat ∧ (e = c.epoch → c.state ≠ .connecting)
  | .signal e .closed =>
    e.raw.toNat ≤ c.epoch.raw.toNat ∧ (e = c.epoch → c.state.isLive = false)
  | .retryDue e => e.raw.toNat < c.epoch.raw.toNat
  | _ => False

theorem Spent.ignored {o : Operation} (h : Spent c o) (hc : Coherent c) : c.actsOn o = false := by
  cases o with
  | signal e s =>
    cases s with
    | opened =>
      have hs := h.2
      simpa [actsOn, heeds] using hs
    | closed =>
      have hs := h.2
      simpa [actsOn, heeds] using hs
    | message | error => exact absurd h id
  | retryDue e =>
    refine Bool.eq_false_iff.mpr fun ha => ?_
    obtain ⟨_, r, hr, rfl⟩ := awaits_retry ha
    have hlt : r.epoch.raw.toNat < c.epoch.raw.toNat := h
    rw [(hc.retry_lost r hr).2] at hlt
    exact Nat.lt_irrefl _ hlt
  | _ => exact absurd h id

/-- Before the epochs wrap, a later one is not an earlier one. -/
theorem Spent.move {o o' : Operation} {a : Answer} (h : Move c o' a calls c') (hp : Paced c n)
    (hn : n + calls.countP Call.isDial < 2 ^ 64) (hs : Spent c o) : Spent c' o := by
  have he := hp.toNat_epoch (by omega)
  have he' := (h.paced hp).toNat_epoch hn
  rcases h.progress with ⟨hstays, _⟩ | ⟨_, hd⟩
  · cases o with
    | signal e s =>
      cases s with
      | opened =>
        refine ⟨by rw [hstays.epoch]; exact hs.1, fun heq hst => ?_⟩
        exact hs.2 (heq.trans hstays.epoch) (hstays.connecting hst)
      | closed =>
        refine ⟨by rw [hstays.epoch]; exact hs.1, fun heq => Bool.eq_false_iff.mpr fun hl => ?_⟩
        exact Bool.eq_false_iff.mp (hs.2 (heq.trans hstays.epoch)) (hstays.live hl)
      | message | error => exact absurd hs id
    | retryDue e =>
      show e.raw.toNat < c'.epoch.raw.toNat
      rw [hstays.epoch]
      exact hs
    | connect | reconnect | close | shutdown | send _ => exact absurd hs id
  · have past {e : Epoch} (hle : e.raw.toNat ≤ c.epoch.raw.toNat) :
        e.raw.toNat < c'.epoch.raw.toNat := by omega
    have apart {e : Epoch} (hle : e.raw.toNat ≤ c.epoch.raw.toNat) : e ≠ c'.epoch := by
      rintro rfl
      exact Nat.lt_irrefl _ (past hle)
    cases o with
    | signal e s =>
      cases s with
      | opened => exact ⟨Nat.le_of_lt (past hs.1), fun heq => absurd heq (apart hs.1)⟩
      | closed => exact ⟨Nat.le_of_lt (past hs.1), fun heq => absurd heq (apart hs.1)⟩
      | message | error => exact absurd hs id
    | retryDue e => exact past (Nat.le_of_lt hs)
    | connect | reconnect | close | shutdown | send _ => exact absurd hs id

/-- A callback that comes but once. -/
def Operation.isOnce : Operation → Bool
  | .signal _ .opened | .signal _ .closed | .retryDue _ => true
  | _ => false

/-- A callback of that kind is left behind as soon as it has been acted upon. -/
theorem Move.spent {o : Operation} {a : Answer} (h : Move c o a calls c') (hc : Coherent c)
    (ho : o.isOnce = true) (ha : c.actsOn o = true) (hp : Paced c n)
    (hn : n + calls.countP Call.isDial < 2 ^ 64) : Spent c' o := by
  cases h with
  | signalIgnored e s hi =>
    simp only [actsOn, Bool.and_eq_true, decide_eq_true_eq] at ha
    rw [hi ha.1] at ha
    cases ha.2
  | opened => exact ⟨Nat.le_refl _, by simp⟩
  | lost _ hl =>
    rw [Spent, hl.epoch_eq, hl.state_eq]
    exact ⟨Nat.le_refl _, fun _ => rfl⟩
  | timerIgnored e hi =>
    rw [actsOn, hi] at ha
    cases ha
  | retry e hw hat =>
    obtain ⟨_, r, hr, rfl⟩ := awaits_retry hw
    have he := hp.toNat_epoch (by omega)
    have he' := ((Move.retry r.epoch hw hat).paced hp).toNat_epoch hn
    have hd := hat.dials_eq
    show r.epoch.raw.toNat < _
    rw [(hc.retry_lost r hr).2]
    omega
  | _ => cases ho

end WebTerminal.Connection
