import WebTerminal.Proofs.Connection.Anew
import WebTerminal.Proofs.Connection.Dormancy
import WebTerminal.Proofs.Connection.Sockets

/-! # What the statistics count

An account of a run is counted from outside: from what its operations were answered and from the
frames that the world took. The statistics of a connection are such an account of all it has done,
so nothing that is done later takes anything off them. -/

namespace WebTerminal

/-- The frame that a world took to send. -/
def Call.taken? : Call → Option Frame
  | transmit _ f (.ok _) => some f
  | _ => none

theorem Call.filterMap_taken_letsGo {calls : List Call} (h : ∀ call ∈ calls, call.letsGo = true) :
    calls.filterMap taken? = [] :=
  List.filterMap_eq_nil_iff.mpr
    (forall_letsGo (fun _ => rfl) (fun _ => rfl) (fun _ => rfl) h)

namespace Connection

def Event.chunk? : Event → Option Bytes
  | .received chunk => some chunk
  | _ => none

def Answer.isFailure : Answer → Bool
  | .delivery (.failed _) => true
  | _ => false

structure Account where
  attempts : Nat := 0
  opened : Nat := 0
  sent : Nat := 0
  dropped : Nat := 0
  failed : Nat := 0
  bytesSent : Nat := 0
  bytesReceived : Nat := 0
  deriving DecidableEq, Repr

namespace Account

/-- The account of some answers and of the calls that were made meanwhile. -/
def count (answers : List Answer) (calls : List Call) : Account :=
  let es := answers.flatMap Answer.events?
  { attempts := (es.filterMap Event.attempted?).length
    opened := List.count .connected es
    sent := answers.count (.delivery .sent)
    dropped := answers.count (.delivery .dropped)
    failed := answers.countP Answer.isFailure
    bytesSent := ((calls.filterMap Call.taken?).flatMap Frame.bytes).length
    bytesReceived := (es.filterMap Event.chunk?).flatten.length }

def add (a b : Account) : Account where
  attempts := a.attempts + b.attempts
  opened := a.opened + b.opened
  sent := a.sent + b.sent
  dropped := a.dropped + b.dropped
  failed := a.failed + b.failed
  bytesSent := a.bytesSent + b.bytesSent
  bytesReceived := a.bytesReceived + b.bytesReceived

instance : Add Account := ⟨add⟩

/-- Every frame that was to be sent, whatever became of it. -/
def sends (a : Account) : Nat := a.sent + a.dropped + a.failed

theorem sends_add (a b : Account) : (a + b).sends = a.sends + b.sends := by
  change (add a b).sends = _
  simp only [sends, add]
  omega

/-- The counts that are kept can be told in 64 bits. -/
def Fits (a : Account) : Prop :=
  a.attempts < 2 ^ 64 ∧ a.opened < 2 ^ 64 ∧ a.sent < 2 ^ 64 ∧ a.dropped < 2 ^ 64 ∧
    a.bytesSent < 2 ^ 64 ∧ a.bytesReceived < 2 ^ 64

instance (a : Account) : Decidable a.Fits := inferInstanceAs (Decidable (_ ∧ _))

/-- The counters of a connection that has done as much. -/
def counters (a : Account) : Counters where
  connectsStarted := .ofNat a.attempts
  connectionsOpened := .ofNat a.opened
  framesSent := .ofNat a.sent
  framesDropped := .ofNat a.dropped
  bytesSent := .ofNat a.bytesSent
  bytesReceived := .ofNat a.bytesReceived

/-- What the statistics should tell of a connection with this policy. -/
def fields (policy : RetryPolicy) (a : Account) : List (String × Nat) := [
  ("epoch", a.attempts),
  ("attempt", policy.attempt.toNat),
  ("maxAttempts", policy.maxAttempts.toNat),
  ("connectsStarted", a.attempts),
  ("connectionsOpened", a.opened),
  ("framesSent", a.sent),
  ("framesDropped", a.dropped),
  ("bytesSent", a.bytesSent),
  ("bytesReceived", a.bytesReceived)]

theorem zero_add (a : Account) : ({} : Account) + a = a := by
  change add {} a = a
  simp only [add, Nat.zero_add]

theorem add_assoc (a b c : Account) : a + b + c = a + (b + c) := by
  change add (add a b) c = add a (add b c)
  simp only [add, Nat.add_assoc]

theorem count_append (answers answers' : List Answer) (calls calls' : List Call) :
    count (answers ++ answers') (calls ++ calls') =
      count answers calls + count answers' calls' := by
  change _ = add _ _
  simp [count, add]

/-- Events that are answered together count as those of two answers. -/
theorem count_events_append (es es' : List Event) (calls calls' : List Call) :
    count [.events (es ++ es')] (calls ++ calls') =
      count [.events es] calls + count [.events es'] calls' := by
  change _ = add _ _
  simp [count, add, Answer.events?, Answer.isFailure]

theorem count_letsGo (answers : List Answer) {calls : List Call}
    (h : ∀ call ∈ calls, call.letsGo = true) (calls' : List Call) :
    count answers (calls ++ calls') = count answers calls' := by
  unfold count
  rw [List.filterMap_append, Call.filterMap_taken_letsGo h]
  rfl

theorem counters_add (a b : Account) :
    (a + b).counters =
      ⟨a.counters.connectsStarted + b.counters.connectsStarted,
        a.counters.connectionsOpened + b.counters.connectionsOpened,
        a.counters.framesSent + b.counters.framesSent,
        a.counters.framesDropped + b.counters.framesDropped,
        a.counters.bytesSent + b.counters.bytesSent,
        a.counters.bytesReceived + b.counters.bytesReceived⟩ := by
  change counters (add a b) = _
  simp only [counters, add, UInt64.ofNat_add]

theorem Fits.of_add {a b : Account} (h : (a + b).Fits) : a.Fits := by
  obtain ⟨h₁, h₂, h₃, h₄, h₅, h₆⟩ := h
  exact ⟨Nat.lt_of_add_right_lt h₁, Nat.lt_of_add_right_lt h₂, Nat.lt_of_add_right_lt h₃,
    Nat.lt_of_add_right_lt h₄, Nat.lt_of_add_right_lt h₅, Nat.lt_of_add_right_lt h₆⟩

end Account

/-! ## The books of a connection -/

/-- The connection has kept its books for an account. An attempt under way has not been opened. -/
structure Booked (c : Connection) (a : Account) : Prop where
  epoch : Paced c a.attempts
  counters : c.counters = a.counters
  opened_le : a.opened ≤ a.attempts
  opened_lt : c.state = .connecting → a.opened < a.attempts

variable {c c' : Connection} {es : List Event} {calls : List Call} {a b : Account}

theorem Loss.account (h : Loss c es calls c') :
    Account.count [.events es] calls = {} ∧ c'.counters = c.counters := by
  cases h with
  | retry => exact ⟨Account.count_letsGo _ c.letsGo_cancelling _, rfl⟩
  | giveUp | again => exact ⟨rfl, rfl⟩

theorem Attempt.account (h : Attempt c es calls c') :
    Account.count [.events es] calls = { attempts := 1 } ∧
      c'.counters = c.counters.countStarted := by
  cases h with
  | dialled => exact ⟨Account.count_letsGo _ c.letsGo_clearing _, rfl⟩
  | @refused error es calls _ hl =>
    obtain ⟨ha, hc⟩ := hl.account
    refine ⟨?_, hc⟩
    rw [Account.count_letsGo _ c.letsGo_clearing]
    have h := Account.count_events_append [.connecting c.url c.epoch.next, .refused error] es
      [.dial c.url c.epoch.next (.error error)] calls
    rw [ha] at h
    exact h

theorem Booked.of_eq (h : Booked c a) (he : c'.epoch = c.epoch) (hk : c'.counters = c.counters)
    (hs : c'.state = .connecting → c.state = .connecting) : Booked c' a where
  epoch := (congrArg Epoch.raw he).trans h.epoch
  counters := hk.trans h.counters
  opened_le := h.opened_le
  opened_lt hs' := h.opened_lt (hs hs')

theorem Attempt.booked (ha : Attempt c es calls c') (h : Booked c a) :
    Booked c' (a + Account.count [.events es] calls) := by
  obtain ⟨hcount, hk⟩ := ha.account
  rw [hcount]
  constructor
  · change c'.epoch.raw = UInt64.ofNat (a.attempts + 1)
    rw [ha.epoch_eq, UInt64.ofNat_add, ← show c.epoch.raw = UInt64.ofNat a.attempts from h.epoch]
    rfl
  · rw [hk, h.counters, Account.counters_add]
    simp [Account.counters, Counters.countStarted]
  · exact Nat.le_succ_of_le h.opened_le
  · intro _
    exact Nat.lt_succ_of_le h.opened_le

theorem Loss.booked (hl : Loss c es calls c') (h : Booked c a) :
    Booked c' (a + Account.count [.events es] calls) := by
  obtain ⟨hcount, hk⟩ := hl.account
  rw [hcount]
  apply h.of_eq hl.epoch_eq hk
  intro hs
  rw [hl.state_eq] at hs
  cases hs

/-- A frame that is sent or dropped, or a chunk that is received, is all there is to count. -/
theorem Booked.count (h : Booked c a) (ha : b.attempts = 0) (ho : b.opened = 0) {k : Counters}
    (hk : k = (a + b).counters) : Booked { c with counters := k } (a + b) where
  epoch := by
    change c.epoch.raw = UInt64.ofNat (a.attempts + b.attempts)
    rw [ha]
    exact h.epoch
  counters := hk
  opened_le := by
    change a.opened + b.opened ≤ a.attempts + b.attempts
    have hle := h.opened_le
    omega
  opened_lt hs := by
    change a.opened + b.opened < a.attempts + b.attempts
    have hlt := h.opened_lt hs
    omega

/-- Whatever the world answers, the books are kept for all that is done. -/
theorem Move.booked {o : Operation} {r : Answer} (h : Move c o r calls c') (hb : Booked c a) :
    Booked c' (a + Account.count [r] calls) := by
  have letsGo (es : List Event) {calls : List Call} (hl : ∀ call ∈ calls, call.letsGo = true) :
      Account.count [.events es] calls = Account.count [.events es] [] := by
    rw [← Account.count_letsGo [.events es] hl [], List.append_nil]
  cases h with
  | connectAnew _ _ ha | reconnect _ ha | retry _ _ ha =>
    exact ha.booked (hb.of_eq rfl rfl id)
  | connect _ _ ha => exact ha.booked hb
  | @replace _ es calls _ ha =>
    have hcount := Account.count_events_append [.closed .user] es [] calls
    rw [Account.count_letsGo _ c.letsGo_clearing]
    change Booked c' (a + Account.count [.events ([.closed .user] ++ es)] ([] ++ calls))
    rw [hcount, show Account.count [.events [.closed .user]] [] = {} from rfl, Account.zero_add]
    exact ha.booked (hb.of_eq rfl rfl nofun)
  | closeIgnored =>
    rw [letsGo _ c.letsGo_clearing]
    exact hb.of_eq rfl rfl id
  | close =>
    rw [letsGo _ c.letsGo_clearing]
    exact hb.of_eq rfl rfl nofun
  | shutdown =>
    have hcount := Account.count_letsGo [.none] c.letsGo_clearing []
    rw [List.append_nil] at hcount
    rw [hcount]
    exact hb.of_eq rfl rfl nofun
  | dropped f =>
    change Booked _ (a + { dropped := 1 })
    apply hb.count rfl rfl
    rw [hb.counters, Account.counters_add]
    simp [Account.counters, Counters.countDropped]
  | sent f =>
    change Booked _ (a + { sent := 1, bytesSent := (f.bytes ++ []).length })
    apply hb.count rfl rfl
    rw [hb.counters, Account.counters_add]
    simp [Account.counters, Counters.countSent, Frame.size]
  | unsent f error =>
    change Booked { c with counters := c.counters } (a + { failed := 1 })
    exact hb.count rfl rfl hb.counters
  | received chunk =>
    change Booked _ (a + { bytesReceived := (chunk ++ []).length })
    apply hb.count rfl rfl
    rw [hb.counters, Account.counters_add]
    simp [Account.counters, Counters.countReceived]
  | opened hs =>
    change Booked _ (a + { opened := 1 })
    refine ⟨hb.epoch, ?_, hb.opened_lt hs, nofun⟩
    change c.counters.countOpened = _
    rw [hb.counters, Account.counters_add]
    simp [Account.counters, Counters.countOpened]
  | lost _ hl =>
    rw [Account.count_letsGo _ c.letsGo_releasing]
    exact hl.booked (hb.of_eq rfl rfl id)
  | _ => exact hb

/-- Whoever sends a frame is told what became of it, and nobody else is. -/
theorem Move.sends {o : Operation} {r : Answer} (h : Move c o r calls c') :
    (Account.count [r] calls).sends = [o].countP Operation.isSend := by
  cases h <;> rfl

theorem Booked.fields_eq (h : Booked c a) (hf : a.Fits) :
    c.statistics.fields = a.fields c.policy := by
  obtain ⟨ha, ho, hs, hd, hbs, hbr⟩ := hf
  unfold Statistics.fields statistics
  simp only [h.counters, Account.counters, h.epoch.toNat_epoch ha, UInt64.toNat_ofNat_of_lt' ha,
    UInt64.toNat_ofNat_of_lt' ho, UInt64.toNat_ofNat_of_lt' hs, UInt64.toNat_ofNat_of_lt' hd,
    UInt64.toNat_ofNat_of_lt' hbs, UInt64.toNat_ofNat_of_lt' hbr]
  rfl

/-- No field is less than before, the count of attempts that the policy may reset apart. -/
def Statistics.NoLess (before after : Statistics) : Prop :=
  List.Forall₂ (fun field field' =>
    field.1 = field'.1 ∧ (field.1 ≠ "attempt" → field.2 ≤ field'.2)) before.fields after.fields

theorem SameTerms.maxAttempts_eq (h : SameTerms c c') :
    c'.policy.maxAttempts = c.policy.maxAttempts := by
  change c'.policy.reset.maxAttempts = c.policy.reset.maxAttempts
  rw [h.2]

theorem Booked.noLess (h : Booked c a) (h' : Booked c' (a + b)) (hf : (a + b).Fits)
    (ht : SameTerms c c') : c.statistics.NoLess c'.statistics := by
  unfold Statistics.NoLess
  rw [h.fields_eq hf.of_add, h'.fields_eq hf]
  have grown (name : String) (m n : Nat) : name = name ∧ (name ≠ "attempt" → m ≤ m + n) :=
    ⟨rfl, fun _ => Nat.le_add_right m n⟩
  refine .cons (grown _ _ _) (.cons ⟨rfl, fun hn => absurd rfl hn⟩ (.cons ⟨rfl, fun _ => ?_⟩
    (.cons (grown _ _ _) (.cons (grown _ _ _) (.cons (grown _ _ _) (.cons (grown _ _ _)
    (.cons (grown _ _ _) (.cons (grown _ _ _) .nil))))))))
  exact Nat.le_of_eq (congrArg UInt32.toNat ht.maxAttempts_eq.symm)

namespace Link

variable {ω : Type} [Network ω]

theorem run_append (os os' : List Operation) (l : Link ω) :
    run (os ++ os') l =
      ((run os l).1 ++ (run os' (run os l).2).1, (run os' (run os l).2).2) := by
  induction os generalizing l with
  | nil => rfl
  | cons o os ih =>
    rw [List.cons_append, run, ih]
    rfl

theorem run_booked (os : List Operation) {l : Link ω} {a : Account} (hb : Booked l.connection a) :
    ∃ calls, Made l.world calls (run os l).2.world ∧
      Booked (run os l).2.connection (a + Account.count (run os l).1 calls) ∧
      (Account.count (run os l).1 calls).sends = os.countP Operation.isSend := by
  induction os generalizing l a with
  | nil => exact ⟨[], .nil _, hb, rfl⟩
  | cons o os ih =>
    obtain ⟨calls, hmove, hmade⟩ := l.perform_moves o
    obtain ⟨calls', hmade', hb', hs⟩ := ih (hmove.booked hb)
    have hcount := Account.count_append [(l.perform o).1] (run os (l.perform o).2).1 calls calls'
    refine ⟨calls ++ calls', hmade.append hmade', ?_, ?_⟩
    · change Booked _ (a + Account.count ([_] ++ _) _)
      rw [hcount, ← Account.add_assoc]
      exact hb'
    · change (Account.count ([_] ++ _) _).sends = ([o] ++ os).countP Operation.isSend
      rw [hcount, List.countP_append, ← hmove.sends, ← hs]
      exact Account.sends_add _ _

theorem run_noLess (past future : List Operation) {l : Link (Watched ω)}
    (hb : Booked l.connection {}) (hw : l.world.calls = [])
    (hf : (Account.count (run (past ++ future) l).1
      (run (past ++ future) l).2.world.calls).Fits) :
    (run past l).2.connection.statistics.NoLess
      (run (past ++ future) l).2.connection.statistics := by
  obtain ⟨calls, hmade, hpast, -⟩ := run_booked past hb
  obtain ⟨calls', hmade', hfuture, -⟩ := run_booked future hpast
  have hcalls := Watched.calls_of_made (hmade.append hmade')
  rw [hw, List.nil_append] at hcalls
  rw [run_append] at hf ⊢
  change (Account.count _ (run future (run past l).2).2.world.calls).Fits at hf
  rw [hcalls, Account.count_append] at hf
  rw [Account.zero_add] at hpast hfuture
  exact hpast.noLess hfuture hf (run_sameTerms future _)

/-- The statistics of a connection are an exact account of its run, and nothing that is done
afterwards takes anything off them. -/
theorem run_statistics (url : String) (policy : RetryPolicy) (w : ω) (os : List Operation) :
    let l : Link (Watched ω) := ⟨{ url, policy }, { inner := w }⟩
    let l' := (run os l).2
    let a := Account.count (run os l).1 l'.world.calls
    a.Fits →
      l'.connection.statistics.fields = [
          ("epoch", a.attempts),
          ("attempt", l'.connection.policy.attempt.toNat),
          ("maxAttempts", policy.maxAttempts.toNat),
          ("connectsStarted", a.attempts),
          ("connectionsOpened", a.opened),
          ("framesSent", a.sent),
          ("framesDropped", a.dropped),
          ("bytesSent", a.bytesSent),
          ("bytesReceived", a.bytesReceived)] ∧
        a.opened ≤ a.attempts ∧
        a.sent + a.dropped + a.failed = os.countP Operation.isSend ∧
        ∀ past future, os = past ++ future →
          (run past l).2.connection.statistics.NoLess l'.connection.statistics := by
  intro l l' a hf
  have hnew : Booked l.connection {} := ⟨rfl, rfl, Nat.le_refl _, nofun⟩
  obtain ⟨calls, hmade, hb, hs⟩ := run_booked os hnew
  obtain rfl : l'.world.calls = calls := Watched.calls_of_made hmade
  rw [Account.zero_add] at hb
  refine ⟨?_, hb.opened_le, hs, ?_⟩
  · rw [hb.fields_eq hf, Account.fields, (run_sameTerms os l).maxAttempts_eq]
  · rintro past future rfl
    exact run_noLess past future hnew rfl hf

/-- A frame too early, a connection that opens, takes a frame and a chunk and is lost, a shutdown
and another attempt. -/
theorem run_statistics_of_two_attempts :
    let os : List Operation := [.send (.byte 1), .connect, .signal ⟨1⟩ .opened, .send ⟨[2, 3]⟩,
      .signal ⟨1⟩ (.message [4, 5, 6]), .signal ⟨1⟩ .closed, .shutdown, .reconnect]
    let l : Link (Watched Bench) := ⟨{ url := "", policy := {} }, { inner := {} }⟩
    (Account.count (run os l).1 (run os l).2.world.calls).Fits ∧
      (run os l).2.connection.statistics.fields = [("epoch", 2), ("attempt", 0),
        ("maxAttempts", 5), ("connectsStarted", 2), ("connectionsOpened", 1), ("framesSent", 1),
        ("framesDropped", 1), ("bytesSent", 2), ("bytesReceived", 3)] := by
  intro os l
  have h := run_statistics "" {} ({} : Bench) os
  dsimp only [l] at h ⊢
  refine ⟨?_, (h ?_).1.trans ?_⟩
  all_goals decide +kernel

end Link

end Connection

end WebTerminal
