import Mathlib.Data.List.Induction
import WebTerminal.Bench
import WebTerminal.Proofs.Session.Move
import WebTerminal.Proofs.World.Likeness

/-! # Late callbacks

A socket or a timer that the session has given up may still call back, and so may one whose call has
been acted upon. Such a call leaves a note in the log and nothing else, so a run goes on as it would
have gone without it. -/

namespace WebTerminal

variable {ω : Type} [Network ω]

namespace Connection.Link

/-- The operation answers nothing and leaves nothing behind but notes in the log. -/
def Quiet (r : List Event × Link (Watched ω)) (l : Link (Watched ω)) : Prop :=
  r.1 = [] ∧ Like Watched.Agree r.2 l

variable {l : Link (Watched ω)}

theorem quiet_note (n : Notice) (l : Link (Watched ω)) : Quiet ([], l.note n) l :=
  ⟨rfl, .mk l.connection ⟨rfl, rfl⟩⟩

omit [Network ω] in
theorem quiet_refl (l : Link (Watched ω)) : Quiet ([], l) l := ⟨rfl, .mk l.connection ⟨rfl, rfl⟩⟩

theorem quiet_signal {e : Epoch} {s : Signal} (h : l.connection.actsOn (.signal e s) = false) :
    Quiet (l.signal e s) l := by
  unfold signal
  by_cases he : e = l.connection.epoch
  · have hs : l.connection.heeds s = false := by simpa [actsOn, he] using h
    rw [if_pos he]
    cases s with
    | opened =>
      have hst : ¬ l.connection.state = .connecting := by simpa [heeds] using hs
      simp only [opened, if_neg hst]
      exact quiet_note _ l
    | message chunk =>
      have hst : ¬ l.connection.state = .opened := by simpa [heeds] using hs
      simp only [received, if_neg hst]
      exact quiet_note _ l
    | error info =>
      have hl : ¬ l.connection.state.isLive = true := Bool.eq_false_iff.mp hs
      simp only [failed, if_neg hl]
      exact quiet_refl l
    | closed =>
      have hl : ¬ l.connection.state.isLive = true := Bool.eq_false_iff.mp hs
      simp only [closed, if_neg hl]
      exact quiet_refl l
  · rw [if_neg he]
    exact quiet_note _ l

theorem quiet_retryDue {e : Epoch} (h : l.connection.actsOn (.retryDue e) = false) :
    Quiet (l.retryDue e) l := by
  have ha : ¬ l.connection.awaits e = true := Bool.eq_false_iff.mp h
  unfold retryDue
  rw [if_neg ha]
  exact quiet_note _ l

end Connection.Link

namespace Session

variable [Screen ω]

namespace Console

/-- The operation leaves nothing behind but notes in the log. -/
def Ignores (c : Console (Watched ω)) (o : Operation) : Prop :=
  Like Watched.Agree (c.perform o).2 c

/-- A callback that comes after a run when nothing waits for it: of another epoch than the present,
of a timer that is not waited for, or once again after it has been acted upon. -/
inductive Late (start : Console (Watched ω)) (past : List Operation) : Operation → Prop where
  | signal (e : Epoch) (s : Connection.Signal)
      (h : e ≠ (run past start).2.session.connection.epoch) : Late start past (.signal e s)
  | timer (e : Epoch)
      (h : ∀ r, (run past start).2.session.connection.retry? = some r → r.epoch ≠ e) :
      Late start past (.retryDue e)
  | opened {e : Epoch} {before after : List Operation}
      (hp : past = before ++ .signal e .opened :: after)
      (h : ¬ (run before start).2.Ignores (.signal e .opened)) :
      Late start past (.signal e .opened)
  | closed {e : Epoch} {before after : List Operation}
      (hp : past = before ++ .signal e .closed :: after)
      (h : ¬ (run before start).2.Ignores (.signal e .closed)) :
      Late start past (.signal e .closed)
  | retried {e : Epoch} {before after : List Operation}
      (hp : past = before ++ .retryDue e :: after)
      (h : ¬ (run before start).2.Ignores (.retryDue e)) : Late start past (.retryDue e)

variable {c : Console (Watched ω)}

/-! ## A callback that is not acted upon -/

theorem like_act {f : Connection.Link (Watched ω) →
    List Connection.Event × Connection.Link (Watched ω)}
    (h : Connection.Link.Quiet (f c.link) c.link) : Like Watched.Agree (c.act f) c := by
  have hw := (Like.mk c.session (R := Watched.Agree) (w := c.world) ⟨rfl, rfl⟩).withLink h.2
  unfold act
  rw [h.1]
  exact hw

/-- The callback that an operation on the session brings to the connection. -/
def callback? : Operation → Option Connection.Operation
  | .signal e s => some (.signal e s)
  | .retryDue e => some (.retryDue e)
  | _ => none

theorem ignores {o : Operation} {o' : Connection.Operation} (ho : callback? o = some o')
    (h : c.session.connection.actsOn o' = false) : c.Ignores o := by
  cases o with
  | signal e s =>
    obtain rfl := Option.some.inj ho
    exact like_act (Connection.Link.quiet_signal h)
  | retryDue e =>
    obtain rfl := Option.some.inj ho
    exact like_act (Connection.Link.quiet_retryDue h)
  | _ => cases ho

/-! ## A callback that has been acted upon -/

theorem spent_perform {o : Operation} {k : Connection.Operation} (h : Sound c)
    (hd : (c.perform o).2.world.dials < 2 ^ 64)
    (hk : Connection.Spent c.session.connection k) :
    Connection.Spent (c.perform o).2.session.connection k := by
  rcases moves_or_shows o c with hs | ⟨_, _, _, hm, hdials⟩
  · rwa [hs.connection]
  · rw [hdials] at hd
    exact hk.move hm h.paced hd

theorem spent_run (os : List Operation) {k : Connection.Operation} (h : Sound c)
    (hd : (run os c).2.world.dials < 2 ^ 64) (hk : Connection.Spent c.session.connection k) :
    Connection.Spent (run os c).2.session.connection k := by
  induction os generalizing c with
  | nil => exact hk
  | cons o os ih =>
    have hle := dials_le_run os (c.perform o).2
    exact ih (sound_perform o h) hd (spent_perform h (Nat.lt_of_le_of_lt hle hd) hk)

theorem spent_of_heeded {o : Operation} {k : Connection.Operation} (ho : callback? o = some k)
    (hk : k.isOnce = true) (h : Sound c) (hd : (c.perform o).2.world.dials < 2 ^ 64)
    (hi : ¬ c.Ignores o) : Connection.Spent (c.perform o).2.session.connection k := by
  have ha : c.session.connection.actsOn k = true :=
    Bool.of_not_eq_false fun ha => hi (ignores ho ha)
  have hl : c.linked? o = some k := by
    cases o with
    | signal | retryDue => exact ho
    | _ => cases ho
  have hm := perform_moves o c
  rw [hl] at hm
  obtain ⟨answer, calls, hm, hn⟩ := hm
  rw [Watched.dials_eq, hn, List.countP_append, ← Watched.dials_eq] at hd
  exact hm.spent h.coherent hk ha h.paced hd

/-- A callback that was acted upon in a run is ignored at its end. -/
theorem ignores_again {o : Operation} {k : Connection.Operation} (ho : callback? o = some k)
    (hk : k.isOnce = true) (h : Sound c) {before after : List Operation}
    (hd : (run (before ++ o :: after) c).2.world.dials < 2 ^ 64)
    (hi : ¬ (run before c).2.Ignores o) : (run (before ++ o :: after) c).2.Ignores o := by
  have hb := sound_run before h
  rw [run_append] at hd ⊢
  have hle := dials_le_run after ((run before c).2.perform o).2
  have hs := spent_of_heeded ho hk hb (Nat.lt_of_le_of_lt hle hd) hi
  have hs' := spent_run after (sound_perform o hb) hd hs
  exact ignores ho (hs'.ignored (sound_run (o :: after) hb).coherent)

theorem Late.ignored {start : Console (Watched ω)} {past : List Operation} {o : Operation}
    (h : Late start past o) (hs : Sound start)
    (hd : (run past start).2.world.dials < 2 ^ 64) : (run past start).2.Ignores o := by
  cases h with
  | signal e s h => exact ignores rfl (by simp [Connection.actsOn, h])
  | timer e h =>
    refine ignores rfl (Bool.eq_false_iff.mpr fun ha => ?_)
    obtain ⟨_, r, hr, he⟩ := Connection.awaits_retry ha
    exact h r hr he
  | opened hp h | closed hp h | retried hp h =>
    subst hp
    exact ignores_again rfl rfl hs hd h

/-! ## Runs with late callbacks -/

/-- An operation of a run, which may have been put in as a late callback. -/
structure Entry where
  operation : Operation
  late : Bool := false
  deriving DecidableEq, Repr

def operations (es : List Entry) : List Operation := es.map Entry.operation

/-- The entries that were there before the late callbacks were put in. -/
def own (es : List Entry) : List Entry := es.filter fun e => !e.late

/-- Of the answers of a run, those to its own entries. -/
def ownAnswers (es : List Entry) (answers : List Answer) : List Answer :=
  ((es.zip answers).filter fun p => !p.1.late).map Prod.snd

/-- Every callback that was put in is late where it stands. -/
def AllLate (start : Console (Watched ω)) (es : List Entry) : Prop :=
  ∀ before e after, es = before ++ e :: after → e.late = true →
    Late start (operations before) e.operation

variable {es : List Entry} {e : Entry}

theorem operations_append (es : List Entry) (e : Entry) :
    operations (es ++ [e]) = operations es ++ [e.operation] := by
  simp [operations]

theorem own_append_late (h : e.late = true) : own (es ++ [e]) = own es := by
  simp [own, h]

theorem own_append_own (h : e.late = false) : own (es ++ [e]) = own es ++ [e] := by
  simp [own, h]

theorem ownAnswers_append {answers : List Answer} (h : answers.length = es.length) (a : Answer) :
    ownAnswers (es ++ [e]) (answers ++ [a]) =
      ownAnswers es answers ++ if e.late then [] else [a] := by
  rw [ownAnswers, List.zip_append h.symm, List.filter_append, List.map_append]
  cases hl : e.late <;> simp [ownAnswers, hl]

theorem AllLate.init {start : Console (Watched ω)} (h : AllLate start (es ++ [e])) :
    AllLate start es := by
  rintro before e' after rfl he
  exact h before e' (after ++ [e]) (by simp) he

theorem allLate_nil (start : Console (Watched ω)) : AllLate start [] := by
  intro before e after h
  cases before <;> cases h

theorem AllLate.append {start : Console (Watched ω)} (h : AllLate start es)
    (he : e.late = true → Late start (operations es) e.operation) : AllLate start (es ++ [e]) := by
  intro before e' after heq hlate
  rcases List.eq_nil_or_concat after with rfl | ⟨after, last, rfl⟩
  · obtain ⟨rfl, hlast⟩ := List.append_inj' heq rfl
    obtain rfl : e = e' := by simpa using hlast
    exact he hlate
  · have heq' : es ++ [e] = (before ++ e' :: after) ++ [last] := by simpa using heq
    exact h before e' after (List.append_inj' heq' rfl).1 hlate

/-- The induction is on the last entry: one that was put in is ignored, and any other is performed
alike in both runs. -/
theorem alike_of_allLate {start : Console (Watched ω)} (hs : Sound start)
    (hd : (run (operations (own es)) start).2.world.dials < 2 ^ 64) (hl : AllLate start es) :
    Alike (Like Watched.Agree)
      (ownAnswers es (run (operations es) start).1, (run (operations es) start).2)
      (run (operations (own es)) start) := by
  induction es using List.reverseRecOn with
  | nil => exact ⟨rfl, .mk start.session ⟨rfl, rfl⟩⟩
  | append_singleton es e ih =>
    have hlen : (run (operations es) start).1.length = es.length := by
      rw [length_run, operations, List.length_map]
    rw [operations_append, run_append]
    simp only [run, ownAnswers_append hlen]
    cases he : e.late with
    | true =>
      rw [own_append_late he] at hd ⊢
      obtain ⟨ha, hlike⟩ := ih hd hl.init
      have hi : (run (operations es) start).2.Ignores e.operation :=
        (hl es e [] rfl he).ignored hs (by rw [hlike.world.dials_eq]; exact hd)
      exact ⟨by simpa using ha, hi.trans hlike⟩
    | false =>
      rw [own_append_own he, operations_append, run_append] at hd ⊢
      have hle := dials_le_run [e.operation] (run (operations (own es)) start).2
      obtain ⟨ha, hlike⟩ := ih (Nat.lt_of_le_of_lt hle hd) hl.init
      obtain ⟨hr, hlike⟩ :=
        hlike.perform Watched.network_respects Watched.screen_respects e.operation
      refine ⟨?_, hlike⟩
      dsimp only at ha hr
      simp [run, ha, hr]

/-- A run with late callbacks goes as the same run without them: the answers to all other entries,
the session, and all that was done to the world are the same. -/
theorem run_late (config : Config) (url : String) (w : ω) (es : List Entry) :
    let start : Console (Watched ω) := ⟨config.session url, { inner := w }⟩
    let plain := run (operations (own es)) start
    plain.2.world.dials < 2 ^ 64 → AllLate start es →
      ownAnswers es (run (operations es) start).1 = plain.1 ∧
        (run (operations es) start).2.session = plain.2.session ∧
        Watched.Agree (run (operations es) start).2.world plain.2.world := by
  intro start plain hd hl
  obtain ⟨ha, hlike⟩ := alike_of_allLate (sound_start config url w) hd hl
  exact ⟨ha, hlike.session, hlike.world⟩

/-- Late callbacks of every kind, put into a run that opens, is lost and tries again. -/
theorem run_late_retried :
    let start : Console (Watched Bench) := ⟨({} : Config).session "ws://h/ws", { inner := {} }⟩
    let es : List Entry :=
      [⟨.start, false⟩, ⟨.signal ⟨1⟩ .opened, false⟩, ⟨.signal ⟨1⟩ .opened, true⟩,
        ⟨.signal ⟨1⟩ .closed, false⟩, ⟨.signal ⟨1⟩ .closed, true⟩, ⟨.retryDue ⟨7⟩, true⟩,
        ⟨.retryDue ⟨1⟩, false⟩, ⟨.retryDue ⟨1⟩, true⟩, ⟨.signal ⟨1⟩ (.message [104]), true⟩]
    let plain := run (operations (own es)) start
    plain.2.world.dials < 2 ^ 64 ∧ AllLate start es ∧
      ownAnswers es (run (operations es) start).1 = plain.1 ∧
        (run (operations es) start).2.session = plain.2.session ∧
        Watched.Agree (run (operations es) start).2.world plain.2.world := by
  intro start es plain
  have hd : plain.2.world.dials < 2 ^ 64 := by decide +kernel
  have hl : AllLate start es := by
    have apart {o : Operation} {past : List Operation}
        (h : ((run past start).2.perform o).2.session.connection.state ≠
          (run past start).2.session.connection.state) : ¬ (run past start).2.Ignores o :=
      fun hi => h (congrArg (·.connection.state) hi.session)
    have keep {es : List Entry} {e : Entry} (h : AllLate start es) (he : e.late = false) :
        AllLate start (es ++ [e]) := h.append fun hlate => by rw [he] at hlate; cases hlate
    have h₂ : AllLate start (es.take 2) := keep (keep (allLate_nil start) rfl) rfl
    have h₃ : AllLate start (es.take 3) := h₂.append fun _ =>
      .opened (show _ = operations (es.take 1) ++ .signal ⟨1⟩ .opened :: [] from rfl)
        (apart (by decide +kernel))
    have h₅ : AllLate start (es.take 5) := (keep h₃ rfl).append fun _ =>
      .closed (show _ = operations (es.take 3) ++ .signal ⟨1⟩ .closed :: [] from rfl)
        (apart (by decide +kernel))
    have h₆ : AllLate start (es.take 6) := h₅.append fun _ => .timer _ (by decide +kernel)
    have h₈ : AllLate start (es.take 8) := (keep h₆ rfl).append fun _ =>
      .retried (show _ = operations (es.take 6) ++ .retryDue ⟨1⟩ :: [] from rfl)
        (apart (by decide +kernel))
    exact h₈.append fun _ => .signal _ _ (by decide +kernel)
  exact ⟨hd, hl, run_late {} _ _ _ hd hl⟩

end Console

end Session

end WebTerminal
