import WebTerminal.Bench
import WebTerminal.Proofs.Connection.Coherence
import WebTerminal.Proofs.World.Likeness

/-! # Timers on the bench

A connection knows the timer of its retry, and the bench knows the timers that may still run out.
As long as no timer is reported that did not run out, the two agree: what may run out is the timer
of the retry to come, and no other was ever forgotten. -/

namespace WebTerminal

/-- The retry that a timer was set for. -/
def Timer.retry (t : Timer) : Retry := ⟨t.epoch, t.id⟩

/-- What became of the timers. `found` are the timers that were live whenever one was set. -/
structure Timers where
  scheduled : List Timer := []
  live : List Timer := []
  cancelled : List TimerId := []
  found : List (List Timer) := []

def Timers.after (ts : Timers) : Call → Timers
  | .schedule delay epoch id =>
    { ts with
      scheduled := ts.scheduled ++ [⟨id, delay, epoch⟩], live := ts.live ++ [⟨id, delay, epoch⟩]
      found := ts.found ++ [ts.live] }
  | .cancel id =>
    { ts with live := ts.live.filter (·.id ≠ id), cancelled := ts.cancelled ++ [id] }
  | _ => ts

/-- Timers are numbered in the order in which they are set. -/
def Timers.Numbered (ts : Timers) : Prop :=
  ts.scheduled.map Timer.id = (List.range ts.scheduled.length).map TimerId.mk

theorem Timers.Numbered.nodup {ts : Timers} (h : ts.Numbered) :
    (ts.scheduled.map Timer.id).Nodup := by
  rw [show ts.scheduled.map Timer.id = _ from h]
  exact List.Pairwise.map _ (fun i j hne he => hne (TimerId.mk.inj he)) List.nodup_range

/-! ## A bench that is watched for its timers -/

/-- A bench that also keeps, for every timer that is set, those that were live just before. -/
structure Attended where
  bench : Bench
  found : List (List Timer) := []

namespace Attended

def ask {α : Type} (f : Bench → α × Bench) (w : Attended) : α × Attended :=
  ((f w.bench).1, { w with bench := (f w.bench).2 })

def tell (f : Bench → Bench) (w : Attended) : Attended := { w with bench := f w.bench }

def schedule (delay : UInt32) (e : Epoch) (w : Attended) : TimerId × Attended :=
  ask (Network.schedule delay e) { w with found := w.found ++ [w.bench.live] }

instance : Network Attended where
  note n := tell (Journal.note n)
  dial url e := ask (Network.dial url e)
  transmit s f := ask (Network.transmit s f)
  hangUp s := tell (Network.hangUp s)
  release s := tell (Network.release s)
  schedule := schedule
  cancel t := tell (Network.cancel t)

/-- The bench inside goes the way it would by itself. -/
theorem network_respects : Network.Respects fun (w : Attended) b => w.bench = b where
  note n _ _ h := congrArg (Journal.note n) h
  dial _ _ _ _ h := h ▸ .same _ rfl
  transmit _ _ _ _ h := h ▸ .same _ rfl
  hangUp s _ _ h := congrArg (Network.hangUp s) h
  release s _ _ h := congrArg (Network.release s) h
  schedule _ _ _ _ h := h ▸ .same _ rfl
  cancel t _ _ h := congrArg (Network.cancel t) h

def timers (w : Attended) : Timers where
  scheduled := w.bench.scheduled
  live := w.bench.live
  cancelled := w.bench.cancelled
  found := w.found

theorem timers_dial (url : String) (e : Epoch) (w : Attended) :
    (Network.dial url e w).2.timers = w.timers := by
  show (ask (Bench.dial url e) w).2.timers = w.timers
  unfold ask Bench.dial
  split <;> rfl

theorem timers_transmit (s : SocketId) (f : Frame) (w : Attended) :
    (Network.transmit s f w).2.timers = w.timers := by
  show (ask (Bench.transmit f) w).2.timers = w.timers
  unfold ask Bench.transmit
  split <;> rfl

theorem timers_of_made {w w' : Attended} {calls : List Call} (h : Made w calls w') :
    w'.timers = calls.foldl Timers.after w.timers := by
  induction h with
  | nil => rfl
  | note _ _ ih | hangUp _ ih | release _ ih | cancel _ ih => exact ih
  | dial hr _ ih =>
    subst hr
    rw [ih, timers_dial]
    rfl
  | transmit hr _ ih =>
    subst hr
    rw [ih, timers_transmit]
    rfl
  | schedule hr _ ih =>
    subst hr
    exact ih

theorem numbered_of_made {w w' : Attended} {calls : List Call} (h : Made w calls w')
    (hn : w.timers.Numbered) : w'.timers.Numbered := by
  induction h with
  | nil => exact hn
  | note _ _ ih | hangUp _ ih | release _ ih | cancel _ ih => exact ih hn
  | dial hr _ ih =>
    subst hr
    exact ih (by rwa [timers_dial])
  | transmit hr _ ih =>
    subst hr
    exact ih (by rwa [timers_transmit])
  | @schedule w _ _ delay e _ hr _ ih =>
    subst hr
    refine ih ?_
    show (w.bench.scheduled ++ [_]).map Timer.id =
      (List.range (w.bench.scheduled ++ [_]).length).map TimerId.mk
    rw [List.length_append, List.length_singleton, List.range_succ, List.map_append,
      List.map_append, show w.bench.scheduled.map Timer.id = _ from hn]
    rfl

end Attended

/-! ## What a connection keeps of its timers -/

namespace Connection

/-- `fired` are the timers that ran out. With `whole`, no timer was lost. -/
structure Tended (whole : Prop) (fired : List TimerId) (c : Connection) (ts : Timers) : Prop where
  single : ts.live.length ≤ 1
  awaited : ∀ t ∈ ts.live, c.retry? = some t.retry
  present : whole → c.retry?.isSome = true → ts.live ≠ []
  settled : (c.retry?.toList.map Retry.timer ++ fired ++ ts.cancelled).Perm
    (ts.scheduled.map Timer.id)
  found : ∀ live ∈ ts.found, live = []

variable {whole : Prop} {fired : List TimerId} {c c' : Connection} {ts : Timers} {es : List Event}
  {calls : List Call}

namespace Tended

/-- Of a connection nothing matters to its timers but the retry to come. -/
theorem congr (h : Tended whole fired c ts) (hr : c'.retry? = c.retry?) :
    Tended whole fired c' ts where
  single := h.single
  awaited := hr ▸ h.awaited
  present := hr ▸ h.present
  settled := hr ▸ h.settled
  found := h.found

theorem imp {whole' : Prop} (h : Tended whole fired c ts) (hw : whole' → whole) :
    Tended whole' fired c ts :=
  { h with present := fun h' => h.present (hw h') }

theorem forget (h : Tended whole fired c ts) : Tended whole fired c { ts with found := [] } :=
  { h with found := by simp }

theorem live_eq_nil (h : Tended whole fired c ts) (hr : c.retry? = none) : ts.live = [] := by
  refine List.eq_nil_iff_forall_not_mem.mpr fun t ht => ?_
  have ha := h.awaited t ht
  rw [hr] at ha
  cases ha

theorem cancelRetry (h : Tended whole fired c ts) :
    Tended whole fired { c with retry? := none } (c.cancelling.foldl Timers.after ts) := by
  unfold cancelling
  cases hr : c.retry? with
  | none => exact h.congr hr.symm
  | some r =>
    have hlive : ts.live.filter (·.id ≠ r.timer) = [] := by
      refine List.filter_eq_nil_iff.mpr fun t ht => ?_
      have ha := h.awaited t ht
      rw [hr] at ha
      cases ha
      simp [Timer.retry]
    have hafter : ts.after (.cancel r.timer) =
        { ts with live := [], cancelled := ts.cancelled ++ [r.timer] } := by
      rw [Timers.after, hlive]
    have hs := h.settled
    rw [hr] at hs
    rw [Option.map_some, Option.toList, List.foldl_cons, List.foldl_nil, hafter]
    refine ⟨by simp, by simp, by simp, List.Perm.trans ?_ hs, h.found⟩
    simp only [Option.toList, List.map_nil, List.map_cons, List.nil_append]
    rw [← List.append_assoc]
    exact List.perm_append_singleton _ _

theorem setRetry (h : Tended whole fired c ts) (hr : c.retry? = none) (delay : UInt32) (e : Epoch)
    (timer : TimerId) :
    Tended whole fired { c with retry? := some ⟨e, timer⟩ }
      (ts.after (.schedule delay e timer)) := by
  have hlive := h.live_eq_nil hr
  have hs := h.settled
  rw [hr] at hs
  refine ⟨?_, ?_, ?_, ?_, ?_⟩
  · simp [Timers.after, hlive]
  · simp [Timers.after, hlive, Timer.retry]
  · simp [Timers.after]
  · simp only [Timers.after, Option.toList, List.map_cons, List.map_nil, List.map_append]
    exact (List.Perm.cons timer hs).trans (List.perm_append_singleton _ _).symm
  · simpa [Timers.after, hlive, or_imp, forall_and] using h.found

/-- At most one timer may run out, and the connection waits for it. -/
theorem live_cases (h : Tended whole fired c ts) :
    ts.live = [] ∨ ∃ t, ts.live = [t] ∧ c.retry? = some t.retry := by
  cases hl : ts.live with
  | nil => exact .inl rfl
  | cons t rest =>
    have hs := h.single
    obtain rfl : rest = [] := by
      rw [hl, List.length_cons] at hs
      exact List.eq_nil_of_length_eq_zero (by omega)
    refine .inr ⟨t, rfl, h.awaited t ?_⟩
    rw [hl]
    exact List.mem_singleton_self t

/-- A timer that runs out is no longer live, and no longer waited for. -/
theorem popped (h : Tended whole fired c ts) {t : Timer} (hr : c.retry? = some t.retry) :
    Tended whole (fired ++ [t.id]) { c with retry? := none } { ts with live := [] } where
  single := by simp
  awaited := by simp
  present := by simp
  settled := by
    have hs := h.settled
    rw [hr] at hs
    exact ((List.perm_append_singleton t.id fired).append_right _).trans hs
  found := h.found

end Tended

theorem foldl_hangingUp (c : Connection) (ts : Timers) :
    c.hangingUp.foldl Timers.after ts = ts := by
  unfold hangingUp
  cases c.socket? <;> rfl

theorem foldl_releasing (c : Connection) (ts : Timers) :
    c.releasing.foldl Timers.after ts = ts := by
  unfold releasing
  cases c.socket? <;> rfl

theorem Tended.clear (h : Tended whole fired c ts) :
    Tended whole fired c.cleared (c.clearing.foldl Timers.after ts) := by
  rw [clearing, List.foldl_append, foldl_hangingUp]
  exact h.cancelRetry.congr rfl

theorem Loss.tended (h : Loss c es calls c') (ht : Tended whole fired c ts) :
    Tended whole fired c' (calls.foldl Timers.after ts) := by
  cases h with
  | retry timer _ =>
    rw [List.foldl_append]
    exact (ht.cancelRetry.setRetry rfl _ _ timer).congr rfl
  | giveUp | again => exact ht.congr rfl

theorem Attempt.tended (h : Attempt c es calls c') (ht : Tended whole fired c ts) :
    Tended whole fired c' (calls.foldl Timers.after ts) := by
  cases h with
  | dialled s =>
    rw [List.foldl_append]
    exact ht.clear.congr rfl
  | refused error hl =>
    rw [List.foldl_append]
    exact hl.tended (ht.clear.congr rfl)

/-- Every move that is not a retry keeps the timers tended. -/
theorem Move.tended {o : Operation} {a : Answer} (h : Move c o a calls c')
    (ho : ∀ e, o = .retryDue e → c.awaits e = false) (ht : Tended whole fired c ts) :
    Tended whole fired c' (calls.foldl Timers.after ts) := by
  cases h with
  | connectAnew _ _ ha | reconnect _ ha => exact ha.tended (ht.congr rfl)
  | connect _ _ ha => exact ha.tended ht
  | replace _ ha =>
    rw [List.foldl_append]
    exact ha.tended (ht.clear.congr rfl)
  | closeIgnored => exact ht.clear
  | close | shutdown => exact ht.clear.congr rfl
  | lost _ hl =>
    rw [List.foldl_append, foldl_releasing]
    exact hl.tended (ht.congr rfl)
  | retry e ha _ =>
    rw [ho e rfl] at ha
    cases ha
  | _ => exact ht.congr rfl

theorem Move.tended_retry {e : Epoch} {a : Answer} (h : Move c (.retryDue e) a calls c')
    (ha : c.awaits e = true) (ht : Tended whole fired { c with retry? := none } ts) :
    Tended whole fired c' (calls.foldl Timers.after ts) := by
  cases h with
  | timerIgnored _ hi =>
    rw [ha] at hi
    cases hi
  | retry _ _ hat => exact hat.tended ht

theorem Coherent.awaits_retry (h : Coherent c) {t : Timer} (hr : c.retry? = some t.retry) :
    c.awaits t.epoch = true := by
  simp [awaits, (h.retry_lost _ hr).1, hr, Timer.retry]

/-- An attempt tells first of its beginning. -/
theorem Attempt.connecting (h : Attempt c es calls c') :
    ∃ es', es = .connecting c.url c.epoch.next :: es' := by
  cases h with
  | dialled | refused => exact ⟨_, rfl⟩

theorem Move.connecting {e : Epoch} {a : Answer} (h : Move c (.retryDue e) a calls c')
    (ha : c.awaits e = true) : ∃ es, a = .events (.connecting c.url c.epoch.next :: es) := by
  cases h with
  | timerIgnored _ hi =>
    rw [ha] at hi
    cases hi
  | retry _ _ hat =>
    obtain ⟨es, rfl⟩ := hat.connecting
    exact ⟨es, rfl⟩

end Connection

/-! ## Runs on the bench -/

namespace Bench.Reply

variable {A : Type}

def fired? : Reply A → Option Timer
  | fired t _ => some t
  | _ => none

def isLost : Reply A → Bool
  | lost _ => true
  | _ => false

end Bench.Reply

namespace Connection

namespace Link

/-- Before any timer is set in an operation to come. -/
def attended (l : Link Bench) : Link Attended := ⟨l.connection, { bench := l.world }⟩

/-- The timers that were live whenever the step set one. -/
def liveWhenSet (s : Bench.Step Operation) (l : Link Bench) : List (List Timer) :=
  match s with
  | .perform o => (l.attended.perform o).2.world.found
  | .fire => l.world.takeTimer.toList.flatMap fun (timer, world) =>
    (perform (.retryDue timer.epoch) (attended { l with world })).2.world.found
  | .lose | .refuse _ | .breakPipe _ => []

/-- By hand a timer is reported only for an epoch in which no retry is to come. -/
def admits (s : Bench.Step Operation) (l : Link Bench) : Bool :=
  match s with
  | .perform (.retryDue e) => l.connection.retry?.all (·.epoch ≠ e)
  | _ => true

/-- Every step is admitted where it is taken. -/
def admitsAll : List (Bench.Step Operation) → Link Bench → Bool
  | [], _ => true
  | s :: ss, l => admits s l && admitsAll ss (l.step s).2

/-- The timers of a bench on which none has been set yet in the operation to come. -/
def timers (l : Link Bench) : Timers := l.attended.world.timers

variable {whole : Prop} {fired : List TimerId} {l : Link Bench}

theorem attended_perform (o : Operation) (l : Link Bench) :
    Like (fun w b => w.bench = b) (l.attended.perform o).2 (l.perform o).2 :=
  (Like.perform Attended.network_respects (.mk l.connection rfl) o).2

theorem timers_perform (o : Operation) (l : Link Bench) :
    (l.perform o).2.timers = { (l.attended.perform o).2.world.timers with found := [] } := by
  unfold timers attended
  rw [← (attended_perform o l).world]
  rfl

/-- What holds of a link whose timers are tended. -/
structure Accounted (whole : Prop) (fired : List TimerId) (l : Link Bench) : Prop where
  coherent : Coherent l.connection
  numbered : l.timers.Numbered
  tended : Tended whole fired l.connection l.timers

theorem accounted_new (url : String) (policy : RetryPolicy) :
    Accounted True [] ⟨{ url, policy }, {}⟩ where
  coherent := coherent_new url policy
  numbered := rfl
  tended := by
    constructor <;> simp [timers, attended, Attended.timers]

namespace Accounted

/-- What every move keeps of the timers, an operation keeps. -/
theorem perform {o : Operation} (hc : Coherent l.connection) (hn : l.timers.Numbered)
    (h : ∀ {a : Answer} {calls : List Call} {c' : Connection}, Move l.connection o a calls c' →
      Tended whole fired c' (calls.foldl Timers.after l.timers)) :
    (∀ live ∈ (l.attended.perform o).2.world.found, live = []) ∧
      Accounted whole fired (l.perform o).2 := by
  obtain ⟨calls, hm, hmade⟩ := l.attended.perform_moves o
  have ht := h hm
  rw [(attended_perform o l).connection] at ht
  change Tended _ _ _ (calls.foldl Timers.after l.attended.world.timers) at ht
  rw [← Attended.timers_of_made hmade] at ht
  refine ⟨ht.found, coherent_perform o hc, ?_, ?_⟩
  · rw [timers_perform]
    exact Attended.numbered_of_made hmade hn
  · rw [timers_perform]
    exact ht.forget

theorem takeTimer (h : Accounted whole fired l) :
    l.world.live = [] ∧ l.world.takeTimer = none ∨
      ∃ t, l.world.live = [t] ∧ l.world.takeTimer = some (t, { l.world with live := [] }) ∧
        l.connection.retry? = some t.retry ∧ l.connection.awaits t.epoch = true := by
  unfold Bench.takeTimer
  rcases h.tended.live_cases with hl | ⟨t, hl, hr⟩
  · rw [show l.world.live = [] from hl]
    exact .inl ⟨rfl, rfl⟩
  · rw [show l.world.live = [t] from hl]
    exact .inr ⟨t, rfl, rfl, hr, h.coherent.awaits_retry hr⟩

/-- A timer that is lost is no longer live, but still waited for. -/
theorem lost (h : Accounted whole fired l) :
    Accounted False fired { l with world := { l.world with live := [] } } where
  coherent := h.coherent
  numbered := h.numbered
  tended :=
    { single := Nat.zero_le 1
      awaited := fun _ ht => absurd ht List.not_mem_nil
      present := False.elim
      settled := h.tended.settled
      found := h.tended.found }

/-- A step whose reply tells of no timer that ran out. -/
theorem quiet {whole' : Prop} {r : Bench.Reply Answer} (h : Accounted whole fired l)
    (hr : r.fired? = none) (hw : whole' → whole) :
    Accounted whole' (fired ++ r.fired?.toList.map Timer.id) l := by
  rw [hr, Option.toList, List.map_nil, List.append_nil]
  exact ⟨h.coherent, h.numbered, h.tended.imp hw⟩

/-- One step keeps the timers in order, and sets one only when none is live. -/
theorem step (s : Bench.Step Operation) (h : Accounted whole fired l) (hs : admits s l = true) :
    (∀ live ∈ liveWhenSet s l, live = []) ∧
      Accounted (whole ∧ (l.step s).1.isLost = false)
        (fired ++ (l.step s).1.fired?.toList.map Timer.id) (l.step s).2 := by
  cases s with
  | perform o =>
    have ho (e : Epoch) (he : o = .retryDue e) : l.connection.awaits e = false := by
      subst he
      refine Bool.eq_false_iff.mpr fun ha => ?_
      obtain ⟨_, r, hr, rfl⟩ := awaits_retry ha
      simp [admits, hr] at hs
    obtain ⟨hf, ha⟩ := perform h.coherent h.numbered (o := o) fun hm => hm.tended ho h.tended
    exact ⟨hf, ha.quiet rfl And.left⟩
  | refuse count =>
    have ha : Accounted whole fired (l.step (.refuse count)).2 :=
      ⟨h.coherent, h.numbered, h.tended⟩
    exact ⟨by simp [liveWhenSet], ha.quiet rfl And.left⟩
  | breakPipe broken =>
    have ha : Accounted whole fired (l.step (.breakPipe broken)).2 :=
      ⟨h.coherent, h.numbered, h.tended⟩
    exact ⟨by simp [liveWhenSet], ha.quiet rfl And.left⟩
  | fire =>
    rcases h.takeTimer with ⟨_, hnone⟩ | ⟨t, _, htake, hr, haw⟩
    · simp only [liveWhenSet, Link.step, hnone]
      exact ⟨by simp, h.quiet rfl And.left⟩
    · simp only [liveWhenSet, Link.step, htake]
      obtain ⟨hf, ha⟩ := perform (l := { l with world := { l.world with live := [] } })
        (o := .retryDue t.epoch) h.coherent h.numbered
        fun hm => hm.tended_retry haw (h.tended.popped hr)
      exact ⟨by simpa using hf, ha.coherent, ha.numbered, ha.tended.imp And.left⟩
  | lose =>
    rcases h.takeTimer with ⟨_, hnone⟩ | ⟨t, _, htake, _⟩
    · simp only [liveWhenSet, Link.step, hnone]
      exact ⟨by simp, h.quiet rfl And.left⟩
    · simp only [liveWhenSet, Link.step, htake]
      exact ⟨by simp, h.lost.quiet rfl fun hw => Bool.noConfusion hw.2⟩

theorem runSteps (ss : List (Bench.Step Operation)) (h : Accounted whole fired l)
    (hs : admitsAll ss l = true) :
    Accounted (whole ∧ ∀ r ∈ (runSteps ss l).1, r.isLost = false)
      (fired ++ ((runSteps ss l).1.filterMap Bench.Reply.fired?).map Timer.id)
      (runSteps ss l).2 := by
  induction ss generalizing l whole fired with
  | nil => simpa [Link.runSteps] using h
  | cons s ss ih =>
    rw [admitsAll, Bool.and_eq_true] at hs
    have hr := ih (h.step s hs.1).2 hs.2
    have hfired : (l.step s).1.fired?.toList ++
        (Link.runSteps ss (l.step s).2).1.filterMap Bench.Reply.fired? =
        (Link.runSteps (s :: ss) l).1.filterMap Bench.Reply.fired? := by
      rw [Link.runSteps, List.filterMap_cons]
      cases (l.step s).1.fired? <;> rfl
    rw [List.append_assoc, ← List.map_append, hfired] at hr
    refine ⟨hr.coherent, hr.numbered, hr.tended.imp fun ⟨hw, hl⟩ => ?_⟩
    rw [Link.runSteps, List.forall_mem_cons] at hl
    exact ⟨⟨hw, hl.1⟩, hl.2⟩

/-- A live timer that runs out begins an attempt. -/
theorem step_fire (h : Accounted whole fired l) {t : Timer} (ht : t ∈ l.world.live) :
    ∃ es, (l.step .fire).1 =
      .fired t (.events (.connecting l.connection.url l.connection.epoch.next :: es)) := by
  rcases h.takeTimer with ⟨hl, _⟩ | ⟨t', hl, htake, _, haw⟩
  · rw [hl] at ht
    cases ht
  · rw [hl, List.mem_singleton] at ht
    subst ht
    obtain ⟨_, hm, _⟩ := perform_moves (.retryDue t.epoch)
      ({ l with world := { l.world with live := [] } } : Link Bench)
    obtain ⟨es, he⟩ := hm.connecting haw
    refine ⟨es, ?_⟩
    simp only [Link.step, htake, he]

/-- When no timer was lost, the live ones are those waited for. -/
theorem live_iff (h : Accounted whole fired l) (hw : whole) :
    l.world.live ≠ [] ↔ l.connection.retry?.isSome = true := by
  refine ⟨fun hl => ?_, h.tended.present hw⟩
  obtain ⟨t, ht⟩ := List.exists_mem_of_ne_nil _ hl
  rw [h.tended.awaited t ht]
  rfl

theorem settled (h : Accounted whole fired l) (hw : whole) :
    (l.world.live.map Timer.id ++ fired ++ l.world.cancelled).Perm
      (l.world.scheduled.map Timer.id) := by
  have hs := h.tended.settled
  rcases h.takeTimer with ⟨hl, _⟩ | ⟨t, hl, _, hr, _⟩
  · have hr : l.connection.retry? = none := by
      rw [← Option.not_isSome_iff_eq_none, ← h.live_iff hw, hl]
      simp
    rw [hr] at hs
    rw [hl]
    exact hs
  · rw [hr] at hs
    rw [hl]
    exact hs

end Accounted

/-- In every run on the bench in which a timer is reported only when it runs out, or by hand for an
epoch in which no retry is to come: at most one timer is live, and it is that of the retry to come;
a timer is set only when none is live; and a live timer that runs out begins an attempt. When no
timer is lost, one is live just when a retry is to come, and every timer that was set is either live
or has once run out or been cancelled. -/
theorem run_timers (url : String) (policy : RetryPolicy) (ss : List (Bench.Step Operation))
    (h : admitsAll ss ⟨{ url, policy }, {}⟩ = true) :
    let (rs, l) := runSteps ss ⟨{ url, policy }, {}⟩
    l.world.live.length ≤ 1 ∧ (∀ t ∈ l.world.live, l.connection.retry? = some ⟨t.epoch, t.id⟩) ∧
      (∀ s, admits s l = true → ∀ live ∈ liveWhenSet s l, live = []) ∧
      (∀ t ∈ l.world.live, ∃ es, (l.step .fire).1 =
        .fired t (.events (.connecting l.connection.url l.connection.epoch.next :: es))) ∧
      ((∀ r ∈ rs, r.isLost = false) →
        (l.world.live ≠ [] ↔ l.connection.retry?.isSome = true) ∧
        (l.world.scheduled.map Timer.id).Nodup ∧
        (l.world.live.map Timer.id ++ (rs.filterMap Bench.Reply.fired?).map Timer.id ++
          l.world.cancelled).Perm (l.world.scheduled.map Timer.id)) := by
  have ha := (accounted_new url policy).runSteps ss h
  refine ⟨ha.tended.single, ha.tended.awaited, fun s hs => (ha.step s hs).1,
    fun t ht => ha.step_fire ht, fun hl => ?_⟩
  exact ⟨ha.live_iff ⟨trivial, hl⟩, ha.numbered.nodup, ha.settled ⟨trivial, hl⟩⟩

/-- Of three timers the first runs out, the second is cancelled and the third is live. -/
theorem run_timers_three :
    let ss : List (Bench.Step Operation) :=
      [.refuse 1, .perform .connect, .perform (.retryDue ⟨9⟩), .fire,
        .perform (.signal ⟨2⟩ .closed), .perform .close, .perform .connect,
        .perform (.signal ⟨3⟩ .closed)]
    let l₀ : Link Bench := ⟨{ url := "ws://h/ws", policy := .standard }, {}⟩
    let (rs, l) := runSteps ss l₀
    admitsAll ss l₀ = true ∧ (∀ r ∈ rs, r.isLost = false) ∧
      (rs.filterMap Bench.Reply.fired?).map Timer.id = [⟨0⟩] ∧ l.world.cancelled = [⟨1⟩] ∧
      l.world.live = [⟨⟨2⟩, 2000, ⟨3⟩⟩] ∧ l.connection.retry? = some ⟨⟨3⟩, ⟨2⟩⟩ ∧
      (l.world.live.map Timer.id ++ (rs.filterMap Bench.Reply.fired?).map Timer.id ++
        l.world.cancelled).Perm (l.world.scheduled.map Timer.id) := by
  have h := run_timers "ws://h/ws" .standard
    [.refuse 1, .perform .connect, .perform (.retryDue ⟨9⟩), .fire,
      .perform (.signal ⟨2⟩ .closed), .perform .close, .perform .connect,
      .perform (.signal ⟨3⟩ .closed)] (by decide +kernel)
  obtain ⟨_, hown, _, _, hlossless⟩ := h
  exact ⟨by decide +kernel, by decide +kernel, by decide +kernel, by decide +kernel,
    by decide +kernel, hown ⟨⟨2⟩, 2000, ⟨3⟩⟩ (by decide +kernel),
    (hlossless (by decide +kernel)).2.2⟩

end Link

end Connection

end WebTerminal
