import Mathlib.Data.List.Chain
import WebTerminal.Bench
import WebTerminal.Proofs.Connection.Anew
import WebTerminal.Proofs.Session.Display

/-! # The status of a session

The status that was reported last mirrors the connection, but for a session that is started again
while its connection is open: that takes back the status of being connected until the connection
opens anew. No status is reported twice in a row. -/

namespace WebTerminal

open Connection

/-- The status that is reported. -/
def Call.status? : Call → Option Session.Status
  | report s => some s
  | _ => none

def Watched.statuses {ω : Type} (w : Watched ω) : List Session.Status :=
  w.calls.filterMap Call.status?

namespace Connection

open Session (Status)

/-- The status tells what the connection does. While it is connecting any status will do but that of
being connected, and one that was started again while open counts as disconnected. -/
structure Mirrored (maxAttempts : UInt32) (restarted : Bool) (c : Connection) (s? : Option Status) :
    Prop where
  idle : c.state = .idle → s? = none
  connecting : c.state = .connecting → s? ≠ some .connected
  opened : c.state = .opened → s? = some (if restarted then .disconnected else .connected)
  waiting : c.state = .closed .network → c.retry?.isSome = true →
    s? = some (.reconnecting c.policy.attempt maxAttempts)
  exhausted : c.state = .closed .network → c.retry? = none → s? = some (.exhausted maxAttempts)
  left : c.state = .closed .user → s? = some .disconnected

/-- The status after these events have been shown. -/
def latest (s? : Option Status) (es : List Event) : Option Status :=
  (es.filterMap Event.status?).foldl (fun _ s => some s) s?

variable {c c' : Connection} {es : List Event} {calls : List Call} {s? : Option Status}
  {m : UInt32} {restarted : Bool}

@[simp] theorem latest_nil (s? : Option Status) : latest s? [] = s? := rfl

@[simp] theorem latest_cons (s? : Option Status) (e : Event) (es : List Event) :
    latest s? (e :: es) = latest (e.status?.or s?) es := by
  unfold latest
  cases h : e.status? <;> simp [h]

theorem mirrored_new (url : String) (policy : RetryPolicy) :
    Mirrored m false { url, policy } none := by
  constructor <;> simp

theorem Mirrored.not_connected (h : Mirrored m restarted c s?) (hl : c.state.isLive = false) :
    s? ≠ some .connected := by
  cases hs : c.state with
  | idle => simp [h.idle hs]
  | connecting | opened => simp [hs, State.isLive] at hl
  | closed reason =>
    cases reason with
    | user => simp [h.left hs]
    | network =>
      cases ht : c.retry? with
      | none => simp [h.exhausted hs ht]
      | some r => simp [h.waiting hs (by rw [ht]; rfl)]

/-- A restart counts only while the connection is open. -/
theorem Mirrored.narrow (h : Mirrored m restarted c s?) :
    Mirrored m (c.isOpen && restarted) c s? :=
  { h with opened := fun hs => by simpa [isOpen, hs] using h.opened hs }

theorem Loss.mirrored (h : Loss c es calls c') (hp : c.policy.maxAttempts = m)
    (ht : c.retry? = none) (hr : c.exhaustionReported = false) :
    Mirrored m restarted c' (latest s? es) := by
  subst hp
  cases h with
  | retry timer _ => constructor <;> simp [Event.status?]
  | giveUp => constructor <;> simp [Event.status?, ht]
  | again _ hr' => rw [hr] at hr'; cases hr'

theorem Attempt.mirrored (h : Attempt c es calls c') (hp : c.policy.maxAttempts = m)
    (hr : c.exhaustionReported = false) (hs : s? ≠ some .connected) :
    Mirrored m restarted c' (latest s? es) := by
  cases h with
  | dialled s => constructor <;> simp [Event.status?, cleared, beginAttempt, hs]
  | refused error hl =>
    rw [latest_cons, latest_cons]
    exact hl.mirrored hp rfl hr

theorem Move.mirrored {o : Operation} {a : Answer} (h : Move c o a calls c')
    (hc : Coherent c) (hp : c.policy.maxAttempts = m) (ho : o ≠ .shutdown)
    (hm : Mirrored m restarted c s?) :
    Mirrored m (c.isOpen && restarted) c' (latest s? a.events?) := by
  have hn := hm.narrow
  cases h with
  | connectIgnored | unsent | signalIgnored | timerIgnored => exact hn
  | connectAnew hl _ ha | reconnect hl ha => exact ha.mirrored hp rfl (hm.not_connected hl)
  | connect hl hc' ha =>
    exact ha.mirrored hp (hc.unreported_of_continuing hc') (hm.not_connected hl)
  | replace hl ha =>
    simp only [Answer.events?, latest_cons]
    exact ha.mirrored hp rfl (by simp [Event.status?])
  | closeIgnored hs =>
    have hs' : c.state ≠ .closed .network := by rcases hs with hs | hs <;> simp [hs]
    exact ⟨hn.idle, hn.connecting, hn.opened, fun h => absurd h hs', fun h => absurd h hs', hn.left⟩
  | close => constructor <;> simp [left, cleared, Answer.events?, Event.status?]
  | shutdown => exact absurd rfl ho
  | dropped | sent | received | failed =>
    exact ⟨hn.idle, hn.connecting, hn.opened, hn.waiting, hn.exhausted, hn.left⟩
  | opened hs => constructor <;> simp [Answer.events?, Event.status?, isOpen, hs]
  | lost hl hloss =>
    have hs : c.state ≠ .closed .network := fun hs => by simp [hs, State.isLive] at hl
    exact hloss.mirrored hp (hc.retry_none hs) (hc.unreported_of_live hl)
  | retry e hw ha =>
    obtain ⟨hs, r, hr, _⟩ := awaits_retry hw
    exact ha.mirrored hp (hc.unreported_of_waiting hr) (hm.not_connected (by rw [hs]; rfl))

/-- Starting says disconnected first. So it says wherever the connection is left alone. -/
theorem Move.mirrored_start {a : Answer} (h : Move c .connect a calls c')
    (hc : Coherent c) (hp : c.policy.maxAttempts = m) :
    Mirrored m c.isOpen c' (latest (some .disconnected) a.events?) := by
  cases h with
  | connectIgnored hl =>
    cases hs : c.state with
    | idle | closed _ => simp [hs, State.isLive] at hl
    | connecting | opened => constructor <;> simp [Answer.events?, isOpen, hs]
  | connectAnew _ _ ha => exact ha.mirrored hp rfl (by simp)
  | connect _ hn ha => exact ha.mirrored hp (hc.unreported_of_continuing hn) (by simp)

end Connection

namespace Session.Console

variable {ω : Type} [Network ω] [Screen ω] {o : Operation}

/-- The status that stands after an operation's greeting. -/
def greeted (o : Operation) (c : Console ω) : Option Status :=
  o.greeting.foldl (fun _ s => some s) c.session.lastStatus?

/-- An operation that links to none of the connection leaves connection and status as they were, and
after any other the status is the latest of the connection's events. -/
theorem perform_latest (o : Operation) (c : Console ω) :
    (c.linked? o = none ∧ (c.perform o).2.session.connection = c.session.connection ∧
      (c.perform o).2.session.lastStatus? = c.greeted o) ∨
    ∃ k answer calls, c.linked? o = some k ∧
      Move c.session.connection k answer calls (c.perform o).2.session.connection ∧
      (c.perform o).2.session.lastStatus? = latest (c.greeted o) answer.events? := by
  obtain ⟨c₁, hg, hd⟩ := perform_parts o c
  dsimp only at hd
  rw [greeted, ← hg.lastStatus_eq, ← hg.connection_eq, hd.connection_eq, hd.lastStatus_eq]
  cases hk : c.linked? o with
  | none => exact .inl ⟨rfl, rfl, rfl⟩
  | some k =>
    obtain ⟨answer, calls, hm, he, _⟩ := relink_moves k (c₁.withEncoder (o.keyed c.session.encoder))
    exact .inr ⟨k, answer, calls, rfl, hm, by rw [he]; rfl⟩

omit [Network ω] [Screen ω] in
theorem linked_ne_shutdown (ho : o ≠ .shutdown) (c : Console ω) :
    c.linked? o ≠ some .shutdown := by
  have sent (i : Input) : c.sent? i ≠ some .shutdown := by simp [sent_eq_map]
  cases o with
  | shutdown => exact absurd rfl ho
  | press k =>
    dsimp only [linked?]
    cases k.action with
    | input i => exact sent i
    | passThrough | ignore => simp
  | input i => exact sent i
  | _ => simp [linked?]

/-- What holds all along a run without a shutdown. -/
structure Indicated (m : UInt32) (restarted : Bool) (c : Console ω) : Prop where
  coherent : Coherent c.session.connection
  terms : c.session.connection.policy.maxAttempts = m
  mirrored : Mirrored m restarted c.session.connection c.session.lastStatus?

/-- Whether the session was started again since its connection last opened, which is still open. -/
def restarts : List Operation → Console ω → Bool → Bool
  | [], _, again => again
  | o :: os, c, again =>
    restarts os (c.perform o).2 (c.session.connection.isOpen && (o = .start || again))

variable {c : Console ω} {again : Bool}

theorem Indicated.perform (h : Indicated m again c) (ho : o ≠ .shutdown) :
    Indicated m (c.session.connection.isOpen && (o = .start || again)) (c.perform o).2 := by
  obtain ⟨hc, hp, hm⟩ := h
  by_cases hs : o = .start
  · subst hs
    rcases perform_latest .start c with ⟨hk, _⟩ | ⟨k, answer, calls, hk, hmove, hl⟩
    · cases hk
    · obtain rfl : k = .connect := (Option.some.inj hk).symm
      refine ⟨hmove.coherent hc, ?_, ?_⟩
      · exact (congrArg RetryPolicy.maxAttempts hmove.sameTerms.2).trans hp
      · rw [hl]
        simpa [greeted, Operation.greeting] using hmove.mirrored_start hc hp
  · have hg : c.greeted o = c.session.lastStatus? := by
      cases o with
      | start => exact absurd rfl hs
      | _ => rfl
    rcases perform_latest o c with ⟨_, hcon, hl⟩ | ⟨k, answer, calls, hk, hmove, hl⟩
    · refine ⟨hcon ▸ hc, hcon ▸ hp, ?_⟩
      rw [hcon, hl, hg]
      simpa [hs] using hm.narrow
    · have hks : k ≠ .shutdown := fun hks => linked_ne_shutdown ho c (hks ▸ hk)
      refine ⟨hmove.coherent hc, ?_, ?_⟩
      · exact (congrArg RetryPolicy.maxAttempts hmove.sameTerms.2).trans hp
      · rw [hl, hg]
        simpa [hs] using hmove.mirrored hc hp hks hm

theorem indicated_run {os : List Operation} (hos : .shutdown ∉ os) (h : Indicated m again c) :
    Indicated m (restarts os c again) (run os c).2 := by
  induction os generalizing c again with
  | nil => exact h
  | cons o os ih =>
    have ho : o ≠ .shutdown := fun ho => hos (ho ▸ List.mem_cons_self)
    exact ih (fun hmem => hos (List.mem_cons_of_mem _ hmem)) (h.perform ho)

omit [Network ω] [Screen ω] in
theorem indicated_start (config : Config) (url : String) (w : ω) :
    Indicated config.maxAttempts false ⟨config.session url, w⟩ where
  coherent := coherent_new url config.policy
  terms := rfl
  mirrored := mirrored_new url config.policy

theorem restarts_eq_false {os : List Operation}
    (h : ∀ before after, os = before ++ .start :: after →
      (run before c).2.session.connection.state ≠ .opened) : restarts os c false = false := by
  induction os generalizing c with
  | nil => rfl
  | cons o os ih =>
    have hagain : (c.session.connection.isOpen && (o = .start || false)) = false := by
      by_cases ho : o = .start
      · have hs : c.session.connection.state ≠ .opened := h [] os (by rw [ho]; rfl)
        simp [isOpen, hs]
      · simp [ho]
    rw [restarts, hagain]
    refine ih fun before after he => ?_
    exact h (o :: before) after (by rw [he]; rfl)

/-- Without a shutdown, the status is that of being connected just when the connection is open and
the session was not started again since it opened. -/
theorem run_connected_iff (config : Config) (url : String) (w : ω) (os : List Operation)
    (hos : .shutdown ∉ os) :
    let start : Console ω := ⟨config.session url, w⟩
    let c := (run os start).2
    c.session.lastStatus? = some .connected ↔
      c.session.connection.state = .opened ∧ restarts os start false = false := by
  intro start c
  have hm := (indicated_run hos (indicated_start config url w)).mirrored
  constructor
  · intro hl
    have ho : c.session.connection.state = .opened := by
      cases hs : c.session.connection.state with
      | opened => rfl
      | connecting => exact absurd hl (hm.connecting hs)
      | idle | closed _ => exact absurd hl (hm.not_connected (by rw [hs]; rfl))
    refine ⟨ho, Bool.eq_false_iff.mpr fun hr => ?_⟩
    have hl' := hm.opened ho
    rw [hr, hl] at hl'
    cases hl'
  · rintro ⟨ho, hr⟩
    have hl := hm.opened ho
    rw [hr] at hl
    exact hl

/-- To be started again while it is open makes a session say that it is disconnected. -/
theorem run_connected_iff_restarted :
    let os : List Operation := [.start, .signal ⟨1⟩ .opened, .start]
    let start : Console Bench := ⟨({} : Config).session "ws://h/ws", {}⟩
    let c := (run os start).2
    .shutdown ∉ os ∧ restarts os start false = true ∧
      (c.session.lastStatus? = some .connected ↔
        c.session.connection.state = .opened ∧ restarts os start false = false) :=
  ⟨by decide, by decide +kernel,
    run_connected_iff _ _ _ [.start, .signal ⟨1⟩ .opened, .start] (by decide)⟩

/-- So the status does not always agree with the connection. -/
theorem not_connected_iff_opened :
    ¬ ∀ os : List Operation, .shutdown ∉ os →
      let c := (run os (⟨({} : Config).session "ws://h/ws", {}⟩ : Console Bench)).2
      (c.session.lastStatus? = some .connected ↔ c.session.connection.state = .opened) := by
  intro h
  have hi := h [.start, .signal ⟨1⟩ .opened, .start] (by decide)
  revert hi
  decide +kernel

/-! ## The statuses reported -/

section Reports

variable {c c' : Console (Watched ω)} {ss : List Status}

/-- The session knows the status it reported last, and none came twice in a row. -/
structure Faithful (c : Console (Watched ω)) : Prop where
  last : c.world.statuses.getLast? = c.session.lastStatus?
  distinct : c.world.statuses.IsChain (· ≠ ·)

theorem Showing.statuses_eq {f : Watched ω → Watched ω} (hf : Showing f) (w : Watched ω) :
    (f w).statuses = w.statuses := by
  cases hf with
  | note n => rfl
  | append | clear | scrollToEnd | focus =>
    simp only [Watched.statuses]
    exact List.filterMap_append.trans (List.append_nil _)

omit [Network ω] in
theorem Faithful.report (h : Faithful c) (s : Status) : Faithful (c.report s) := by
  unfold Console.report
  split
  case isTrue => exact h
  case isFalse hs =>
    have hstat : (Screen.report s c.world).statuses = c.world.statuses ++ [s] :=
      List.filterMap_append
    refine ⟨?_, ?_⟩
    · rw [hstat, List.getLast?_concat]
    · rw [hstat]
      refine h.distinct.append (.singleton s) ?_
      rintro x hx y hy rfl
      obtain rfl : s = x := Option.some.inj hy
      exact hs (h.last.symm.trans hx)

theorem Displays.faithful (hd : Displays ss c c') (h : Faithful c) : Faithful c' := by
  induction hd with
  | nil => exact h
  | view hf _ ih =>
    have hs := hf.statuses_eq
    exact ih ⟨(congrArg List.getLast? (hs _)).trans h.last, (hs _).symm ▸ h.distinct⟩
  | decode _ _ ih => exact ih ⟨h.last, h.distinct⟩
  | report s _ ih => exact ih (h.report s)

omit [Screen ω] in
/-- The network is not where statuses are reported. -/
theorem faithful_relink (k? : Option Connection.Operation) (h : Faithful c) :
    Faithful (c.relink k?) := by
  cases k? with
  | none => exact h
  | some k =>
    obtain ⟨_, calls, _, _, hmade⟩ := relink_moves k c
    have hs : (c.relink (some k)).world.statuses = c.world.statuses := by
      have hc : calls.filterMap Call.status? = [] := by
        refine List.filterMap_eq_nil_iff.mpr fun call hmem => ?_
        have hn := hmade.onNetwork call hmem
        cases call with
        | report _ => cases hn
        | _ => rfl
      rw [Watched.statuses, Watched.calls_of_made hmade, List.filterMap_append, hc, List.append_nil]
      rfl
    exact ⟨(congrArg List.getLast? hs).trans h.last, hs ▸ h.distinct⟩

theorem faithful_perform (o : Operation) (h : Faithful c) : Faithful (c.perform o).2 := by
  obtain ⟨c₁, hg, hd⟩ := perform_parts o c
  have h₁ := hg.faithful h
  exact hd.faithful (faithful_relink _ ⟨h₁.last, h₁.distinct⟩)

end Reports

/-- In a run without a shutdown, and without a start on an open connection, the status mirrors the
connection. Of the statuses reported it is the last, and no two neighbours are the same. -/
theorem run_mirrored (config : Config) (url : String) (w : ω) (os : List Operation)
    (hos : .shutdown ∉ os) :
    let start : Console (Watched ω) := ⟨config.session url, { inner := w }⟩
    let c := (run os start).2
    (∀ before after, os = before ++ .start :: after →
      (run before start).2.session.connection.state ≠ .opened) →
    Mirrored config.maxAttempts false c.session.connection c.session.lastStatus? ∧
      c.world.statuses.IsChain (· ≠ ·) ∧ c.world.statuses.getLast? = c.session.lastStatus? := by
  intro start c hstart
  have hi := indicated_run hos (indicated_start config url ({ inner := w } : Watched ω))
  rw [restarts_eq_false hstart] at hi
  have hf : Faithful c := run_keeps (fun o _ => faithful_perform o) os ⟨rfl, .nil⟩
  exact ⟨hi.mirrored, hf.distinct, hf.last⟩

omit [Network ω] [Screen ω] in
theorem eq_nil_of_started_once {os before after : List Operation} (h : .start ∉ os)
    (he : .start :: os = before ++ .start :: after) : before = [] := by
  cases before with
  | nil => rfl
  | cons o before =>
    rw [List.cons_append, List.cons.injEq] at he
    exact absurd (he.2 ▸ List.mem_append_right _ List.mem_cons_self) h

/-- A policy of one retry is used up, and the status says so. -/
theorem run_mirrored_used_up :
    let config : Config := { maxAttempts := 1 }
    let os : List Operation := [.start, .signal ⟨1⟩ .opened, .signal ⟨1⟩ .closed, .retryDue ⟨1⟩,
      .signal ⟨2⟩ .closed]
    let start : Console (Watched Bench) := ⟨config.session "ws://h/ws", { inner := {} }⟩
    let c := (run os start).2
    .shutdown ∉ os ∧
    (∀ before after, os = before ++ .start :: after →
      (run before start).2.session.connection.state ≠ .opened) ∧
    c.session.lastStatus? = some (.exhausted 1) ∧
    Mirrored config.maxAttempts false c.session.connection c.session.lastStatus? ∧
      c.world.statuses.IsChain (· ≠ ·) ∧ c.world.statuses.getLast? = c.session.lastStatus? :=
  have once {before after : List Operation}
      (he : [.start, .signal ⟨1⟩ .opened, .signal ⟨1⟩ .closed, .retryDue ⟨1⟩, .signal ⟨2⟩ .closed] =
        before ++ .start :: after) : before = [] := eq_nil_of_started_once (by decide) he
  have hstart := fun before after he => by rw [once he]; decide
  ⟨by decide, hstart, by decide +kernel, run_mirrored _ _ _ _ (by decide) hstart⟩

end Session.Console

end WebTerminal
