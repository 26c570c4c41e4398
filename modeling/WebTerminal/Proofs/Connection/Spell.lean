import WebTerminal.Proofs.Connection.Coherence

/-! # Retries between resets

A spell counts what has happened since the count of attempts last began anew. Its number of retries
is the policy's own count, so the events of a run keep to the terms that its policy was made with:
every loss is told and followed by a retry with its number and its delay, or after the last one by
giving up, which happens once. -/

namespace WebTerminal.Connection

/-- The timer that an event tells of, with the epoch it is set in. -/
def Event.timer? (e : Epoch) : Event → Option (UInt32 × Epoch)
  | .retryScheduled _ _ delay => some (delay, e)
  | _ => none

/-- An operation as it was done: on which connection, with what answer and calls, and what the
connection was after it. -/
structure Deed where
  operation : Operation
  before : Connection
  answer : Answer
  calls : List Call
  after : Connection

namespace Deed

def events (d : Deed) : List Event := d.answer.events?

/-- The timers that were set. -/
def scheduled (d : Deed) : List (UInt32 × Epoch) := d.calls.filterMap Call.scheduled?

/-- Whether the operation itself begins the count of attempts anew. -/
def isReset (d : Deed) : Bool :=
  match d.operation with
  | .reconnect | .shutdown => true
  | .connect =>
    d.before.state = .closed .user ||
      (!d.before.state.isLive && d.before.policy.maxAttempts ≤ d.before.policy.attempt)
  | _ => false

/-- Whether a timer began an attempt. -/
def isRetry (d : Deed) : Bool :=
  match d.operation with
  | .retryDue _ => d.calls.any Call.isDial
  | _ => false

/-- Whether the network closes the connection that was there, or refuses the one that is tried. -/
def isLoss (d : Deed) : Bool :=
  (d.operation = .signal d.before.epoch .closed &&
    (d.before.state = .connecting || d.before.state = .opened)) || d.calls.any Call.isRefused

end Deed

namespace Link

variable {ω : Type} [Network ω]

def deed (o : Operation) (l : Link (Watched ω)) : Deed where
  operation := o
  before := l.connection
  answer := (l.perform o).1
  calls := (l.perform o).2.world.calls.drop l.world.calls.length
  after := (l.perform o).2.connection

/-- What a run does, deed by deed. -/
def history : List Operation → Link (Watched ω) → List Deed
  | [], _ => []
  | o :: os, l => l.deed o :: history os (l.perform o).2

end Link

/-! ## What has to be told -/

section

variable {c c' : Connection} {es : List Event} {calls : List Call}

theorem State.isLive_iff {s : State} : s.isLive = true ↔ s = .connecting ∨ s = .opened := by
  cases s <;> simp [State.isLive]

/-- A loss is told first of all. -/
theorem Loss.exists_cons (h : Loss c es calls c') : ∃ rest, es = .closed .network :: rest := by
  cases h <;> exact ⟨_, rfl⟩

theorem Attempt.any_isDial (h : Attempt c es calls c') : calls.any Call.isDial = true := by
  cases h <;> simp [Call.isDial]

theorem Attempt.lost_iff (h : Attempt c es calls c') :
    .closed .network ∈ es ↔ calls.any Call.isRefused = true := by
  cases h with
  | dialled s =>
    rw [List.any_append, Call.any_isRefused_of_letsGo c.letsGo_clearing]
    simp [Call.isRefused]
  | refused error hl =>
    obtain ⟨rest, rfl⟩ := hl.exists_cons
    simp [Call.isRefused]

/-- A loss is told, and nothing else is told as one. -/
theorem Move.lost_iff {o : Operation} {a : Answer} (h : Move c o a calls c') :
    .closed .network ∈ a.events? ↔ Deed.isLoss ⟨o, c, a, calls, c'⟩ = true := by
  have cleared : c.clearing.any Call.isRefused = false :=
    Call.any_isRefused_of_letsGo c.letsGo_clearing
  cases h with
  | connectAnew _ _ ha | connect _ _ ha | reconnect _ ha | retry _ _ ha =>
    simpa [Deed.isLoss, Answer.events?] using ha.lost_iff
  | replace _ ha => simpa [Deed.isLoss, Answer.events?, cleared] using ha.lost_iff
  | lost hl hloss =>
    obtain ⟨rest, rfl⟩ := hloss.exists_cons
    simpa [Deed.isLoss, Answer.events?] using Or.inl (State.isLive_iff.mp hl)
  | signalIgnored e s hi =>
    have hn : ¬ (e = c.epoch ∧ s = .closed ∧ c.state.isLive = true) := by
      rintro ⟨he, rfl, hl⟩
      exact Bool.false_ne_true ((hi he).symm.trans hl)
    rw [State.isLive_iff] at hn
    simpa [Deed.isLoss, Answer.events?, and_assoc] using hn
  | closeIgnored | close | shutdown => simpa [Deed.isLoss, Answer.events?] using cleared
  | _ => simp [Deed.isLoss, Answer.events?, Call.isRefused]

theorem Loss.scheduled_eq (h : Loss c es calls c') :
    calls.filterMap Call.scheduled? = es.filterMap (Event.timer? c'.epoch) := by
  cases h with
  | retry =>
    rw [List.filterMap_append, Call.filterMap_scheduled_of_letsGo c.letsGo_cancelling]
    rfl
  | giveUp | again => rfl

theorem Attempt.scheduled_eq (h : Attempt c es calls c') :
    calls.filterMap Call.scheduled? = es.filterMap (Event.timer? c'.epoch) := by
  cases h with
  | dialled =>
    rw [List.filterMap_append, Call.filterMap_scheduled_of_letsGo c.letsGo_clearing]
    rfl
  | refused _ hl =>
    rw [List.filterMap_append, Call.filterMap_scheduled_of_letsGo c.letsGo_clearing]
    exact hl.scheduled_eq

/-- The timers that are set are those that are told. -/
theorem Move.scheduled_eq {o : Operation} {a : Answer} (h : Move c o a calls c') :
    calls.filterMap Call.scheduled? = a.events?.filterMap (Event.timer? c'.epoch) := by
  cases h with
  | connectAnew _ _ ha | connect _ _ ha | reconnect _ ha | retry _ _ ha => exact ha.scheduled_eq
  | replace _ ha =>
    rw [List.filterMap_append, Call.filterMap_scheduled_of_letsGo c.letsGo_clearing]
    exact ha.scheduled_eq
  | lost _ hl =>
    rw [List.filterMap_append, Call.filterMap_scheduled_of_letsGo c.letsGo_releasing]
    exact hl.scheduled_eq
  | closeIgnored | close | shutdown => exact Call.filterMap_scheduled_of_letsGo c.letsGo_clearing
  | _ => rfl

end

/-- What has happened since the last reset: retries scheduled, attempts begun by a timer, and
reports of exhaustion. -/
structure Spell where
  retries : Nat := 0
  attempts : Nat := 0
  exhaustions : Nat := 0
  deriving DecidableEq, Repr

namespace Spell

/-- A connection that opens begins a new spell. -/
def count (s : Spell) : Event → Spell
  | .connected => {}
  | .retryScheduled _ _ _ => { s with retries := s.retries + 1 }
  | .exhausted _ => { s with exhaustions := s.exhaustions + 1 }
  | _ => s

/-- A reset comes before the events of its own deed. -/
def enter (s : Spell) (d : Deed) : Spell :=
  if d.isReset then {} else if d.isRetry then { s with attempts := s.attempts + 1 } else s

def extend (s : Spell) (d : Deed) : Spell := d.events.foldl count (s.enter d)

def ofHistory (ds : List Deed) : Spell := ds.foldl extend {}

/-- The spell just before an event: after the deeds before its own and the events before it. -/
def before (past : List Deed) (d : Deed) (es : List Event) : Spell :=
  es.foldl count ((ofHistory past).enter d)

/-- What the terms of a policy ask of an event of a deed, given the spell before it and the rest of
the events after it. -/
def Asks (p : RetryPolicy) (d : Deed) (s : Spell) (e : Event) (rest : List Event) : Prop :=
  match e with
  | .retryScheduled attempt maxAttempts delay =>
    attempt.toNat = s.retries + 1 ∧ attempt ≤ p.maxAttempts ∧ maxAttempts = p.maxAttempts ∧
      delay.toNat =
        min (p.baseDelay.toNat * p.multiplier.toNat ^ (attempt.toNat - 1)) p.maxDelay.toNat ∧
      rest = [] ∧ d.scheduled = [(delay, d.after.epoch)]
  | .refused _ => ∃ rest', rest = .closed .network :: rest'
  | .closed .network =>
    (s.retries < p.maxAttempts.toNat ∧
      ∃ attempt maxAttempts delay, rest = [.retryScheduled attempt maxAttempts delay]) ∨
    (s.retries = p.maxAttempts.toNat ∧ rest = [.exhausted p.maxAttempts] ∧ d.scheduled = [])
  | .exhausted maxAttempts =>
    maxAttempts = p.maxAttempts ∧ s.retries = p.maxAttempts.toNat ∧ s.exhaustions = 0 ∧ rest = []
  | _ => True

/-- Every event of the rest of a deed is as the terms ask. -/
def Fair (p : RetryPolicy) (d : Deed) : Spell → List Event → Prop
  | _, [] => True
  | s, e :: rest => s.Asks p d e rest ∧ Fair p d (s.count e) rest

theorem Fair.asks {p : RetryPolicy} {d : Deed} {s : Spell} {es rest : List Event} {e : Event}
    (h : Fair p d s (es ++ e :: rest)) : (es.foldl count s).Asks p d e rest := by
  induction es generalizing s with
  | nil => exact h.1
  | cons _ _ ih => exact ih h.2

/-- The spell and the connection count alike, and a retry waited for has not been taken yet. -/
structure Balances (p : RetryPolicy) (s : Spell) (c : Connection) : Prop where
  terms : c.policy.reset = p.reset
  retries : s.retries = c.policy.attempt.toNat
  retries_le : s.retries ≤ p.maxAttempts.toNat
  unreported : c.exhaustionReported = false → s.exhaustions = 0
  attempts_le : s.attempts ≤ s.retries
  attempts_lt : c.retry?.isSome = true → s.attempts < s.retries

variable {p : RetryPolicy} {s : Spell} {c c' : Connection} {es : List Event} {calls : List Call}

namespace Balances

theorem maxAttempts (h : s.Balances p c) : c.policy.maxAttempts = p.maxAttempts := by
  show c.policy.reset.maxAttempts = p.reset.maxAttempts
  rw [h.terms]

theorem delay (h : s.Balances p c) (attempt : UInt32) :
    c.policy.delay attempt = p.delay attempt := by
  show c.policy.reset.delay attempt = p.reset.delay attempt
  rw [h.terms]

theorem fresh (h : c.policy.reset = p.reset) (ht : c.retry? = none) (ha : c.policy.attempt = 0) :
    Balances p {} c where
  terms := h
  retries := by simp [ha]
  retries_le := Nat.zero_le _
  unreported _ := rfl
  attempts_le := Nat.le_refl _
  attempts_lt := by simp [ht]

/-- Of a connection the balance sees only the policy, the report and the retry. -/
theorem congr (h : s.Balances p c) (hp : c'.policy = c.policy)
    (hr : c'.exhaustionReported = c.exhaustionReported) (ht : c'.retry? = c.retry?) :
    s.Balances p c' where
  terms := by rw [hp, h.terms]
  retries := by rw [hp, h.retries]
  retries_le := h.retries_le
  unreported := by rw [hr]; exact h.unreported
  attempts_le := h.attempts_le
  attempts_lt := by rw [ht]; exact h.attempts_lt

theorem cleared (h : s.Balances p c) : s.Balances p c.cleared where
  terms := h.terms
  retries := h.retries
  retries_le := h.retries_le
  unreported := h.unreported
  attempts_le := h.attempts_le
  attempts_lt := by simp [Connection.cleared]

/-- A retry that was waited for has room among the attempts of the spell. -/
theorem retried (h : s.Balances p c) (ht : c.retry?.isSome = true) :
    Balances p { s with attempts := s.attempts + 1 } c.cleared where
  terms := h.terms
  retries := h.retries
  retries_le := h.retries_le
  unreported := h.unreported
  attempts_le := h.attempts_lt ht
  attempts_lt := by simp [Connection.cleared]

theorem retries_lt (h : s.Balances p c) (hx : c.policy.isExhausted = false) :
    s.retries < p.maxAttempts.toNat := by
  rw [h.retries, ← h.maxAttempts]
  exact RetryPolicy.isExhausted_eq_false.mp hx

theorem retries_eq (h : s.Balances p c) (hx : c.policy.isExhausted = true) :
    s.retries = p.maxAttempts.toNat := by
  refine Nat.le_antisymm h.retries_le (Nat.not_lt.mp fun hlt => ?_)
  rw [h.retries, ← h.maxAttempts] at hlt
  rw [RetryPolicy.isExhausted_eq_false.mpr hlt] at hx
  cases hx

theorem toNat_advance (h : s.Balances p c) (hx : c.policy.isExhausted = false) :
    c.policy.advance.attempt.toNat = s.retries + 1 := by
  rw [RetryPolicy.toNat_advance_attempt hx, h.retries]

/-- A retry that is scheduled is one more, and not begun. -/
theorem scheduled (h : s.Balances p c) (hx : c.policy.isExhausted = false) (state : State)
    (r : Retry) : Balances p { s with retries := s.retries + 1 }
      { c with state, policy := c.policy.advance, retry? := some r } where
  terms := h.terms
  retries := (h.toNat_advance hx).symm
  retries_le := h.retries_lt hx
  unreported := h.unreported
  attempts_le := Nat.le_succ_of_le h.attempts_le
  attempts_lt _ := Nat.lt_succ_of_le h.attempts_le

end Balances

/-- The events are as the terms ask, and at the end spell and connection balance again. -/
def Keeps (p : RetryPolicy) (d : Deed) (s : Spell) (es : List Event) (c : Connection) : Prop :=
  Fair p d s es ∧ Balances p (es.foldl count s) c

theorem Keeps.cons {d : Deed} {e : Event} (h : s.Asks p d e es)
    (hk : Keeps p d (s.count e) es c) : Keeps p d s (e :: es) c :=
  ⟨⟨h, hk.1⟩, hk.2⟩

theorem Keeps.loss {d : Deed} (h : Loss c es calls c') (hr : c.exhaustionReported = false)
    (hb : s.Balances p c) (hs : d.scheduled = calls.filterMap Call.scheduled?)
    (ha : d.after = c') : Keeps p d s es c' := by
  have timers : d.scheduled = es.filterMap (Event.timer? d.after.epoch) := by
    rw [hs, ha]
    exact h.scheduled_eq
  cases h with
  | retry timer hx =>
    have next := hb.toNat_advance hx
    have left := hb.retries_lt hx
    have told : Asks p d s (.closed .network) [.retryScheduled c.policy.advance.attempt
        c.policy.maxAttempts (c.policy.delay c.policy.advance.attempt)] :=
      .inl ⟨left, _, _, _, rfl⟩
    refine .cons told (.cons ⟨next, ?_, hb.maxAttempts, ?_, rfl, timers⟩
      ⟨trivial, hb.scheduled hx _ _⟩)
    · rw [UInt32.le_iff_toNat_le, next]
      exact left
    · rw [hb.delay, RetryPolicy.toNat_delay]
  | giveUp hx _ =>
    have used := hb.retries_eq hx
    have told : Asks p d s (.closed .network) [.exhausted c.policy.maxAttempts] :=
      .inr ⟨used, by rw [hb.maxAttempts], timers⟩
    refine .cons told (.cons ⟨hb.maxAttempts, used, hb.unreported hr, rfl⟩ ⟨trivial, ?_⟩)
    exact ⟨hb.terms, hb.retries, hb.retries_le, by simp, hb.attempts_le, hb.attempts_lt⟩
  | again _ hr' => rw [hr] at hr'; cases hr'

theorem Keeps.attempt {d : Deed} (h : Attempt c es calls c') (hr : c.exhaustionReported = false)
    (hb : s.Balances p c.cleared) (hs : d.scheduled = calls.filterMap Call.scheduled?)
    (ha : d.after = c') : Keeps p d s es c' := by
  cases h with
  | dialled k => exact .cons trivial ⟨trivial, hb.congr rfl rfl rfl⟩
  | refused error hl =>
    refine .cons trivial (.cons hl.exists_cons (.loss hl hr (hb.congr rfl rfl rfl) ?_ ha))
    rw [hs, List.filterMap_append, Call.filterMap_scheduled_of_letsGo c.letsGo_clearing]
    rfl

/-- Every move of a coherent connection is a deed as the terms ask. -/
theorem Keeps.move {o : Operation} {r : Answer} (h : Move c o r calls c') (hc : Coherent c)
    (hb : s.Balances p c) :
    let d : Deed := ⟨o, c, r, calls, c'⟩
    Keeps p d (s.enter d) d.events c' := by
  intro d
  have fresh : Balances p {} c.resetPolicy.cleared := .fresh hb.terms rfl rfl
  have stay (hd : d.isReset = false) (hd' : d.isRetry = false) : s.enter d = s := by
    simp [enter, hd, hd']
  have anew (hd : d.isReset = true) : s.enter d = {} := if_pos hd
  cases h with
  | connectIgnored hl =>
    have hd : d.isReset = false := by
      have hs : c.state ≠ .closed .user := fun hs => by simp [hs, State.isLive] at hl
      simp [Deed.isReset, d, hl, hs]
    rw [stay hd rfl]
    exact ⟨trivial, hb⟩
  | connectAnew hl hn ha =>
    have hd : d.isReset = true := by
      simp only [startsAnew, RetryPolicy.isExhausted, Bool.or_eq_true] at hn
      simpa [Deed.isReset, d, hl] using hn.symm
    rw [anew hd]
    exact .attempt ha rfl fresh rfl rfl
  | connect hl hn ha =>
    have hr := hc.unreported_of_continuing hn
    have hd : d.isReset = false := by
      simp only [startsAnew, RetryPolicy.isExhausted, Bool.or_eq_false_iff] at hn
      simpa [Deed.isReset, d, hl] using hn.symm
    rw [stay hd rfl]
    exact .attempt ha hr hb.cleared rfl rfl
  | replace hl ha =>
    rw [anew rfl]
    refine .cons trivial (.attempt ha rfl (.fresh hb.terms rfl rfl) ?_ rfl)
    show (c.clearing ++ _).filterMap Call.scheduled? = _
    rw [List.filterMap_append, Call.filterMap_scheduled_of_letsGo c.letsGo_clearing]
    rfl
  | reconnect hl ha =>
    rw [anew rfl]
    exact .attempt ha rfl fresh rfl rfl
  | closeIgnored _ =>
    rw [stay rfl rfl]
    exact ⟨trivial, hb.cleared⟩
  | close _ =>
    rw [stay rfl rfl]
    exact .cons trivial ⟨trivial, hb.cleared.congr rfl rfl rfl⟩
  | shutdown =>
    rw [anew rfl]
    exact ⟨trivial, .fresh hb.terms rfl rfl⟩
  | dropped _ _ | sent _ _ _ =>
    rw [stay rfl rfl]
    exact ⟨trivial, hb.congr rfl rfl rfl⟩
  | received _ _ =>
    rw [stay rfl rfl]
    exact .cons trivial ⟨trivial, hb.congr rfl rfl rfl⟩
  | unsent _ _ _ _ | signalIgnored _ _ _ =>
    rw [stay rfl rfl]
    exact ⟨trivial, hb⟩
  | failed _ _ =>
    rw [stay rfl rfl]
    exact .cons trivial ⟨trivial, hb⟩
  | timerIgnored e _ =>
    rw [stay rfl rfl]
    exact ⟨trivial, hb⟩
  | opened hs =>
    rw [stay rfl rfl]
    refine .cons trivial ⟨trivial, .fresh hb.terms ?_ rfl⟩
    exact hc.retry_none (by simp [hs])
  | lost hl hloss =>
    rw [stay rfl rfl]
    refine .loss hloss (hc.unreported_of_live hl) (hb.congr rfl rfl rfl) ?_ rfl
    show (c.releasing ++ _).filterMap Call.scheduled? = _
    rw [List.filterMap_append, Call.filterMap_scheduled_of_letsGo c.letsGo_releasing]
    rfl
  | retry e haw ha =>
    obtain ⟨_, r, hr, _⟩ := awaits_retry haw
    have hd : s.enter d = { s with attempts := s.attempts + 1 } := by
      have hd' : d.isRetry = true := by
        simp [Deed.isRetry, d, ha.any_isDial]
      simp only [enter, hd', d]
      rfl
    rw [hd]
    exact .attempt ha (hc.unreported_of_waiting hr)
      ((hb.retried (by rw [hr]; rfl)).congr rfl rfl rfl) rfl rfl

end Spell

namespace Link

variable {ω : Type} [Network ω]

theorem deed_eq {l : Link (Watched ω)} {o : Operation} {calls : List Call}
    (h : Made l.world calls (l.perform o).2.world) :
    l.deed o = ⟨o, l.connection, (l.perform o).1, calls, (l.perform o).2.connection⟩ := by
  simp [deed, Watched.calls_of_made h]

theorem deed_lost_iff (l : Link (Watched ω)) (o : Operation) :
    .closed .network ∈ (l.deed o).events ↔ (l.deed o).isLoss = true := by
  obtain ⟨calls, hm, hmade⟩ := l.perform_moves o
  rw [deed_eq hmade]
  exact hm.lost_iff

theorem deed_scheduled (l : Link (Watched ω)) (o : Operation) : (l.deed o).scheduled =
    (l.deed o).events.filterMap (Event.timer? (l.deed o).after.epoch) := by
  obtain ⟨calls, hm, hmade⟩ := l.perform_moves o
  rw [deed_eq hmade]
  exact hm.scheduled_eq

theorem keeps_deed {p : RetryPolicy} {l : Link (Watched ω)} {s : Spell} (o : Operation)
    (hc : Coherent l.connection) (hb : s.Balances p l.connection) :
    Spell.Keeps p (l.deed o) (s.enter (l.deed o)) (l.deed o).events (l.perform o).2.connection := by
  obtain ⟨calls, hm, hmade⟩ := l.perform_moves o
  rw [deed_eq hmade]
  exact Spell.Keeps.move hm hc hb

/-- After any beginning of a history the spell balances with the connection that goes on. -/
theorem history_balances {p : RetryPolicy} {os : List Operation} {l : Link (Watched ω)} {s : Spell}
    (hc : Coherent l.connection) (hb : s.Balances p l.connection) {past future : List Deed}
    (hh : history os l = past ++ future) :
    ∃ (os' : List Operation) (l' : Link (Watched ω)), history os' l' = future ∧
      Coherent l'.connection ∧ (past.foldl Spell.extend s).Balances p l'.connection := by
  induction past generalizing os l s with
  | nil => exact ⟨os, l, hh, hc, hb⟩
  | cons d past ih =>
    cases os with
    | nil => cases hh
    | cons o os =>
      obtain ⟨rfl, ht⟩ := List.cons.inj hh
      exact ih (coherent_perform o hc) (keeps_deed o hc hb).2 ht

theorem history_append (os os' : List Operation) (l : Link (Watched ω)) :
    history (os ++ os') l = history os l ++ history os' (run os l).2 := by
  induction os generalizing l with
  | nil => rfl
  | cons o os ih =>
    rw [List.cons_append, history, ih]
    rfl

/-- In every run from a new connection a deed tells of a loss just when it is one, and of each timer
it sets. Each event is as the terms of the policy ask after the spell it ends, and no spell holds
more attempts begun by a timer than the policy allows. -/
theorem run_keeps_terms (maxAttempts baseDelay maxDelay multiplier : UInt32) (url : String) (w : ω)
    (os : List Operation) :
    let p : RetryPolicy := { maxAttempts, baseDelay, maxDelay, multiplier }
    let ds := history os ⟨{ url, policy := p }, { inner := w }⟩
    (∀ past d future, ds = past ++ d :: future →
      (.closed .network ∈ d.events ↔ d.isLoss = true) ∧
      d.scheduled = d.events.filterMap (Event.timer? d.after.epoch) ∧
      ∀ es e rest, d.events = es ++ e :: rest →
        Spell.Asks p d (Spell.before past d es) e rest) ∧
    ∀ past future, ds = past ++ future →
      (Spell.ofHistory past).attempts ≤ maxAttempts.toNat := by
  intro p ds
  have hc : Coherent { url, policy := p } := coherent_new url p
  have hb : Spell.Balances p {} { url, policy := p } := .fresh rfl rfl rfl
  constructor
  · intro past d future hh
    obtain ⟨os', l', hh', hc', hb'⟩ := history_balances hc hb hh
    cases os' with
    | nil => cases hh'
    | cons o os' =>
      obtain ⟨rfl, -⟩ := List.cons.inj hh'
      refine ⟨l'.deed_lost_iff o, l'.deed_scheduled o, fun es e rest he => ?_⟩
      have hf := (keeps_deed o hc' hb').1
      rw [he] at hf
      exact hf.asks
  · intro past future hh
    obtain ⟨_, _, _, _, hb'⟩ := history_balances hc hb hh
    exact Nat.le_trans hb'.attempts_le hb'.retries_le

/-- A refusal is followed by a retry. A connection that opens begins anew, and when both retries are
taken the next loss gives up. -/
theorem run_keeps_terms_used_up :
    let p : RetryPolicy := { maxAttempts := 2, baseDelay := 100, maxDelay := 250, multiplier := 3 }
    let start : Link (Watched Bench) :=
      ⟨{ url := "ws://h/ws", policy := p }, { inner := { refusals := 1 } }⟩
    let os : List Operation := [.connect, .retryDue ⟨1⟩, .signal ⟨2⟩ .opened, .signal ⟨2⟩ .closed,
      .retryDue ⟨2⟩, .signal ⟨3⟩ .closed, .retryDue ⟨3⟩]
    let past := history os start
    let d := (run os start).2.deed (.signal ⟨4⟩ .closed)
    past.flatMap Deed.scheduled = [(100, ⟨1⟩), (100, ⟨2⟩), (250, ⟨3⟩)] ∧
      (Spell.ofHistory past).attempts = 2 ∧ (Spell.ofHistory past).attempts ≤ 2 ∧
      d.isLoss = true ∧ .closed .network ∈ d.events ∧ (Spell.before past d []).retries = 2 ∧
      d.events = [.closed .network, .exhausted 2] ∧ d.scheduled = [] := by
  intro p start os past d
  have hh : history (os ++ [.signal ⟨4⟩ .closed]) start = past ++ [d] :=
    history_append os [.signal ⟨4⟩ .closed] start
  obtain ⟨hd, hp⟩ := run_keeps_terms 2 100 250 3 "ws://h/ws" ({ refusals := 1 } : Bench)
    (os ++ [.signal ⟨4⟩ .closed])
  obtain ⟨hloss, -, hasks⟩ := hd past d [] hh
  have loss : d.isLoss = true := by decide +kernel
  have retries : (Spell.before past d []).retries = 2 := by decide +kernel
  have events : d.events = [] ++ .closed .network :: [.exhausted 2] := by decide +kernel
  have hn : ¬ (Spell.before past d []).retries < p.maxAttempts.toNat := by
    rw [retries]
    decide
  obtain ⟨-, -, unscheduled⟩ := (hasks [] _ _ events).resolve_left fun h => hn h.1
  exact ⟨by decide +kernel, by decide +kernel, hp past [d] hh, loss, hloss.mpr loss, retries, events,
    unscheduled⟩

end Link

end WebTerminal.Connection
