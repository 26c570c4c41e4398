import Mathlib.Data.List.Forall2
import WebTerminal.Proofs.Connection.Spell

/-! # Connections that differ in their epochs

Two connections that differ in nothing but their epochs, in the names of what they hold and in their
counters do the same from then on, as long as the same sockets and frames fail them: an epoch is
compared with others and is otherwise only passed on. -/

namespace WebTerminal

def Epoch.shift (δ : UInt64) (e : Epoch) : Epoch := ⟨e.raw + δ⟩

theorem Epoch.shift_inj {δ : UInt64} {e e' : Epoch} : e.shift δ = e'.shift δ ↔ e = e' := by
  obtain ⟨n⟩ := e
  obtain ⟨n'⟩ := e'
  simp [shift]

theorem Epoch.next_shift (δ : UInt64) (e : Epoch) : (e.shift δ).next = e.next.shift δ := by
  simp only [shift, next, mk.injEq]
  rw [UInt64.add_assoc, UInt64.add_comm δ 1, ← UInt64.add_assoc]

/-- Two epochs differ by as much as those after them. -/
theorem Epoch.eq_shift (e e' : Epoch) : e = e'.shift (e.next.raw - e'.next.raw) := by
  have h : e.raw = e'.raw + (e.raw + 1 - (e'.raw + 1)) := by grind
  exact congrArg Epoch.mk h

/-! ## What becomes of sockets and frames -/

def failure? {α : Type} : Except TransportError α → Option TransportError
  | .ok _ => none
  | .error e => some e

namespace Call

/-- How it went to open a socket. -/
def dialled? : Call → Option (Option TransportError)
  | dial _ _ answer => some (failure? answer)
  | _ => none

/-- How it went to send a frame. -/
def transmitted? : Call → Option (Option TransportError)
  | transmit _ _ answer => some (failure? answer)
  | _ => none

/-- Where something is only let go of, nothing is opened, sent or set. -/
theorem filterMap_letsGo {calls : List Call} (h : ∀ call ∈ calls, call.letsGo = true) :
    calls.filterMap dialled? = [] ∧ calls.filterMap transmitted? = [] ∧
      calls.filterMap scheduled? = [] := by
  simp only [List.filterMap_eq_nil_iff]
  exact ⟨forall_letsGo (fun _ => rfl) (fun _ => rfl) (fun _ => rfl) h,
    forall_letsGo (fun _ => rfl) (fun _ => rfl) (fun _ => rfl) h,
    forall_letsGo (fun _ => rfl) (fun _ => rfl) (fun _ => rfl) h⟩

end Call

/-- How it goes from now on to open sockets and to send frames, each in order. -/
structure Script where
  opens : List (Option TransportError)
  sends : List (Option TransportError)

/-- The calls go as the script says. -/
structure Script.Governs (s : Script) (calls : List Call) : Prop where
  opens : calls.filterMap Call.dialled? <+: s.opens
  sends : calls.filterMap Call.transmitted? <+: s.sends

/-- The rest of the script after the calls. -/
def Script.after (s : Script) (calls : List Call) : Script where
  opens := s.opens.drop (calls.filterMap Call.dialled?).length
  sends := s.sends.drop (calls.filterMap Call.transmitted?).length

namespace Script.Governs

variable {s : Script} {calls calls' : List Call}

theorem left (h : s.Governs (calls ++ calls')) : s.Governs calls where
  opens := ((List.prefix_append _ _).filterMap _).trans h.opens
  sends := ((List.prefix_append _ _).filterMap _).trans h.sends

theorem right (h : s.Governs (calls ++ calls')) : (s.after calls).Governs calls' where
  opens := by
    obtain ⟨rest, hr⟩ := h.opens
    exact ⟨rest, by rw [after, ← hr, List.filterMap_append, List.append_assoc, List.drop_left]⟩
  sends := by
    obtain ⟨rest, hr⟩ := h.sends
    exact ⟨rest, by rw [after, ← hr, List.filterMap_append, List.append_assoc, List.drop_left]⟩

/-- Calls that let go of something are in no script. -/
theorem drop (h : s.Governs (calls ++ calls')) (hl : ∀ call ∈ calls, call.letsGo = true) :
    s.Governs calls' := by
  obtain ⟨hd, ht, -⟩ := Call.filterMap_letsGo hl
  have hs : s.after calls = s := by
    rw [Script.after, hd, ht]
    rfl
  exact hs ▸ h.right

theorem dial_eq {url url' : String} {e e' : Epoch}
    {answer answer' : Except TransportError SocketId} (h : s.Governs (.dial url e answer :: calls))
    (h' : s.Governs (.dial url' e' answer' :: calls')) : failure? answer = failure? answer' := by
  obtain ⟨rest, hr⟩ := h.opens
  obtain ⟨rest', hr'⟩ := h'.opens
  exact (List.cons.inj (hr.trans hr'.symm)).1

theorem transmit_eq {k k' : SocketId} {f f' : Frame} {answer answer' : Except TransportError Unit}
    (h : s.Governs (.transmit k f answer :: calls))
    (h' : s.Governs (.transmit k' f' answer' :: calls')) : failure? answer = failure? answer' := by
  obtain ⟨rest, hr⟩ := h.sends
  obtain ⟨rest', hr'⟩ := h'.sends
  exact (List.cons.inj (hr.trans hr'.symm)).1

end Script.Governs

namespace Connection

/-! ## What is the same up to the epochs -/

def Event.shift (δ : UInt64) : Event → Event
  | .connecting url e => .connecting url (e.shift δ)
  | e => e

def Answer.shift (δ : UInt64) : Answer → Answer
  | .events es => .events (es.map (Event.shift δ))
  | a => a

def Operation.shift (δ : UInt64) : Operation → Operation
  | .signal e s => .signal (e.shift δ) s
  | .retryDue e => .retryDue (e.shift δ)
  | o => o

/-- The calls that matter are the same. -/
structure Parallel (δ : UInt64) (calls calls' : List Call) : Prop where
  dialled : calls.filterMap Call.dialled? = calls'.filterMap Call.dialled?
  transmitted : calls.filterMap Call.transmitted? = calls'.filterMap Call.transmitted?
  scheduled : calls.filterMap Call.scheduled? =
    (calls'.filterMap Call.scheduled?).map fun (delay, e) => (delay, e.shift δ)

/-- A new attempt makes the same of both connections. -/
structure Peers (δ : UInt64) (c c' : Connection) : Prop where
  url : c.url = c'.url
  policy : c.policy = c'.policy
  epoch : c.epoch = c'.epoch.shift δ
  reported : c.exhaustionReported = c'.exhaustionReported

/-- The connections differ in their epochs, in what their socket and timer are called, and in their
counters. -/
structure Twins (δ : UInt64) (c c' : Connection) : Prop extends Peers δ c c' where
  state : c.state = c'.state
  socket : c.socket?.isSome = c'.socket?.isSome
  retry : c.retry?.map Retry.epoch = c'.retry?.map (·.epoch.shift δ)

/-- Two moves that answer and call alike, and leave twins. -/
structure Echoes (δ : UInt64) (a : Answer) (calls : List Call) (c : Connection) (a' : Answer)
    (calls' : List Call) (c' : Connection) : Prop where
  answer : a = a'.shift δ
  calls : Parallel δ calls calls'
  after : Twins δ c c'

def Deed.Echoes (δ : UInt64) (d d' : Deed) : Prop :=
  Connection.Echoes δ d.answer d.calls d.after d'.answer d'.calls d'.after

variable {δ : UInt64} {c c' c₁ c₁' : Connection} {es es' : List Event}
  {calls calls' calls₁ calls₁' : List Call} {s : Script}

namespace Parallel

theorem of_letsGo (h : ∀ call ∈ calls, call.letsGo = true)
    (h' : ∀ call ∈ calls', call.letsGo = true) : Parallel δ calls calls' := by
  obtain ⟨hd, ht, hs⟩ := Call.filterMap_letsGo h
  obtain ⟨hd', ht', hs'⟩ := Call.filterMap_letsGo h'
  constructor
  · rw [hd, hd']
  · rw [ht, ht']
  · rw [hs, hs', List.map_nil]

theorem append (h : Parallel δ calls calls') (h₁ : Parallel δ calls₁ calls₁') :
    Parallel δ (calls ++ calls₁) (calls' ++ calls₁') := by
  constructor
  · rw [List.filterMap_append, List.filterMap_append, h.dialled, h₁.dialled]
  · rw [List.filterMap_append, List.filterMap_append, h.transmitted, h₁.transmitted]
  · rw [List.filterMap_append, List.filterMap_append, h.scheduled, h₁.scheduled, List.map_append]

theorem after_eq (h : Parallel δ calls calls') (s : Script) : s.after calls = s.after calls' := by
  rw [Script.after, h.dialled, h.transmitted, Script.after]

end Parallel

/-! ## Moves of both -/

namespace Twins

theorem isLive_eq (h : Twins δ c c') : c.state.isLive = c'.state.isLive := by rw [h.state]

theorem startsAnew_eq (h : Twins δ c c') : c.startsAnew = c'.startsAnew := by
  rw [startsAnew, h.policy, h.state, startsAnew]

theorem heeds_eq (h : Twins δ c c') (signal : Signal) : c.heeds signal = c'.heeds signal := by
  cases signal <;> simp only [heeds, h.state]

theorem awaits_eq (h : Twins δ c c') (e : Epoch) : c.awaits (e.shift δ) = c'.awaits e := by
  have hr := h.retry
  unfold awaits
  rw [h.state]
  cases hc : c.retry? with
  | none =>
    rw [hc, Option.map_none, eq_comm, Option.map_eq_none_iff] at hr
    rw [hr]
    rfl
  | some r =>
    rw [hc, Option.map_some, eq_comm, Option.map_eq_some_iff] at hr
    obtain ⟨r', hr', he⟩ := hr
    rw [hr', Option.any_some, Option.any_some, ← he]
    simp only [Epoch.shift_inj]

theorem cleared (h : Twins δ c c') : Twins δ c.cleared c'.cleared :=
  { h with socket := rfl, retry := rfl }

theorem resetPolicy (h : Twins δ c c') : Twins δ c.resetPolicy c'.resetPolicy :=
  { h with policy := congrArg RetryPolicy.reset h.policy, reported := rfl }

end Twins

theorem Peers.beginAttempt (h : Peers δ c c') :
    Twins δ c.cleared.beginAttempt c'.cleared.beginAttempt where
  url := h.url
  policy := h.policy
  epoch := by
    show c.epoch.next = c'.epoch.next.shift δ
    rw [h.epoch, Epoch.next_shift]
  reported := h.reported
  state := rfl
  socket := rfl
  retry := rfl

theorem Loss.twins (h : Loss c es calls c₁) (h' : Loss c' es' calls' c₁') (ht : Twins δ c c') :
    es = es'.map (Event.shift δ) ∧ Parallel δ calls calls' ∧ Twins δ c₁ c₁' := by
  cases h with
  | retry timer hx =>
    cases h' with
    | retry timer' _ =>
      refine ⟨by simp [Event.shift, ht.policy], .append ?_ ⟨rfl, rfl, ?_⟩, ?_⟩
      · exact .of_letsGo c.letsGo_cancelling c'.letsGo_cancelling
      · simp [Call.scheduled?, ht.policy, ht.epoch]
      · exact {
          url := ht.url
          policy := congrArg RetryPolicy.advance ht.policy
          epoch := ht.epoch
          reported := ht.reported
          state := rfl
          socket := ht.socket
          retry := congrArg some ht.epoch }
    | giveUp hx' | again hx' =>
      rw [ht.policy, hx'] at hx
      cases hx
  | giveUp hx hr =>
    cases h' with
    | retry _ hx' =>
      rw [ht.policy, hx'] at hx
      cases hx
    | giveUp =>
      exact ⟨by simp [Event.shift, ht.policy], ⟨rfl, rfl, rfl⟩,
        { ht with state := rfl, reported := rfl }⟩
    | again _ hr' =>
      rw [ht.reported, hr'] at hr
      cases hr
  | again hx hr =>
    cases h' with
    | retry _ hx' =>
      rw [ht.policy, hx'] at hx
      cases hx
    | giveUp _ hr' =>
      rw [ht.reported, hr'] at hr
      cases hr
    | again => exact ⟨rfl, ⟨rfl, rfl, rfl⟩, { ht with state := rfl }⟩

theorem Attempt.twins (h : Attempt c es calls c₁) (h' : Attempt c' es' calls' c₁')
    (hp : Peers δ c c') (hs : s.Governs calls) (hs' : s.Governs calls') :
    es = es'.map (Event.shift δ) ∧ Parallel δ calls calls' ∧ Twins δ c₁ c₁' := by
  have hconnecting : Event.connecting c.url c.epoch.next =
      Event.shift δ (.connecting c'.url c'.epoch.next) := by
    rw [hp.url, hp.epoch, Epoch.next_shift, Event.shift]
  have hclear : Parallel δ c.clearing c'.clearing :=
    .of_letsGo c.letsGo_clearing c'.letsGo_clearing
  cases h with
  | dialled k =>
    cases h' with
    | dialled k' =>
      exact ⟨congrArg (fun e => [e]) hconnecting, hclear.append ⟨rfl, rfl, rfl⟩,
        { hp.beginAttempt with socket := rfl }⟩
    | refused error' _ =>
      cases (hs.drop c.letsGo_clearing).dial_eq (hs'.drop c'.letsGo_clearing)
  | refused error hl =>
    cases h' with
    | dialled k' => cases (hs.drop c.letsGo_clearing).dial_eq (hs'.drop c'.letsGo_clearing)
    | refused error' hl' =>
      cases (hs.drop c.letsGo_clearing).dial_eq (hs'.drop c'.letsGo_clearing)
      obtain ⟨he, hc, ht⟩ := hl.twins hl' hp.beginAttempt
      refine ⟨?_, hclear.append ?_, ht⟩
      · rw [hconnecting, he]
        rfl
      · exact ⟨congrArg (some error :: ·) hc.dialled, hc.transmitted, hc.scheduled⟩

variable {a a' : Answer}

theorem Echoes.attempt (h : Attempt c es calls c₁) (h' : Attempt c' es' calls' c₁')
    (hp : Peers δ c c') (hs : s.Governs calls) (hs' : s.Governs calls') :
    Echoes δ (.events es) calls c₁ (.events es') calls' c₁' := by
  obtain ⟨rfl, hc, ht⟩ := h.twins h' hp hs hs'
  exact ⟨rfl, hc, ht⟩

theorem Echoes.quiet {a : Answer} (ha : a.shift δ = a) (ht : Twins δ c c') :
    Echoes δ a [] c a [] c' := ⟨ha.symm, ⟨rfl, rfl, rfl⟩, ht⟩

section Moves

variable (ht : Twins δ c c') (hs : s.Governs calls) (hs' : s.Governs calls')
include ht hs hs'

theorem Move.connect_echoes (h : Move c .connect a calls c₁) (h' : Move c' .connect a' calls' c₁') :
    Echoes δ a calls c₁ a' calls' c₁' := by
  cases h with
  | connectIgnored hl =>
    cases h' with
    | connectIgnored => exact .quiet rfl ht
    | connectAnew hl' | connect hl' =>
      rw [ht.isLive_eq, hl'] at hl
      cases hl
  | connectAnew hl hn ha =>
    cases h' with
    | connectIgnored hl' =>
      rw [ht.isLive_eq, hl'] at hl
      cases hl
    | connectAnew _ _ ha' => exact .attempt ha ha' ht.resetPolicy.toPeers hs hs'
    | connect _ hn' =>
      rw [ht.startsAnew_eq, hn'] at hn
      cases hn
  | connect hl hn ha =>
    cases h' with
    | connectIgnored hl' =>
      rw [ht.isLive_eq, hl'] at hl
      cases hl
    | connectAnew _ hn' =>
      rw [ht.startsAnew_eq, hn'] at hn
      cases hn
    | connect _ _ ha' => exact .attempt ha ha' ht.toPeers hs hs'

theorem Move.reconnect_echoes (h : Move c .reconnect a calls c₁)
    (h' : Move c' .reconnect a' calls' c₁') : Echoes δ a calls c₁ a' calls' c₁' := by
  cases h with
  | replace hl ha =>
    cases h' with
    | replace _ ha' =>
      have hp : Peers δ c.left.resetPolicy c'.left.resetPolicy :=
        ⟨ht.url, congrArg RetryPolicy.reset ht.policy, ht.epoch, rfl⟩
      obtain ⟨rfl, hc, ht₁⟩ :=
        ha.twins ha' hp (hs.drop c.letsGo_clearing) (hs'.drop c'.letsGo_clearing)
      exact ⟨rfl, .append (.of_letsGo c.letsGo_clearing c'.letsGo_clearing) hc, ht₁⟩
    | reconnect hl' =>
      rw [ht.isLive_eq, hl'] at hl
      cases hl
  | reconnect hl ha =>
    cases h' with
    | replace hl' =>
      rw [ht.isLive_eq, hl'] at hl
      cases hl
    | reconnect _ ha' => exact .attempt ha ha' ht.resetPolicy.toPeers hs hs'

omit hs hs' in
theorem Move.close_echoes (h : Move c .close a calls c₁) (h' : Move c' .close a' calls' c₁') :
    Echoes δ a calls c₁ a' calls' c₁' := by
  have hc : Parallel δ c.clearing c'.clearing := .of_letsGo c.letsGo_clearing c'.letsGo_clearing
  cases h with
  | closeIgnored hi =>
    cases h' with
    | closeIgnored => exact ⟨rfl, hc, ht.cleared⟩
    | close hi' =>
      rw [← ht.state] at hi'
      rcases hi with hi | hi <;> simp [hi, State.isLive] at hi'
  | close hi =>
    cases h' with
    | closeIgnored hi' =>
      rw [ht.state] at hi
      rcases hi' with hi' | hi' <;> simp [hi', State.isLive] at hi
    | close => exact ⟨rfl, hc, { ht.cleared with state := rfl }⟩

theorem Move.send_echoes {f : Frame} (h : Move c (.send f) a calls c₁)
    (h' : Move c' (.send f) a' calls' c₁') : Echoes δ a calls c₁ a' calls' c₁' := by
  cases h with
  | dropped _ hd =>
    cases h' with
    | dropped => exact .quiet rfl { ht with }
    | sent _ ho' hk' | unsent _ _ ho' hk' =>
      have hk := ht.socket
      rw [hd (ht.state.trans ho'), hk'] at hk
      cases hk
  | sent _ ho hk =>
    cases h' with
    | dropped _ hd' =>
      have hk' := ht.socket
      rw [hd' (ht.state ▸ ho), hk] at hk'
      cases hk'
    | sent => exact ⟨rfl, ⟨rfl, rfl, rfl⟩, { ht with }⟩
    | unsent => cases hs.transmit_eq hs'
  | unsent _ error ho hk =>
    cases h' with
    | dropped _ hd' =>
      have hk' := ht.socket
      rw [hd' (ht.state ▸ ho), hk] at hk'
      cases hk'
    | sent => cases hs.transmit_eq hs'
    | unsent =>
      cases hs.transmit_eq hs'
      exact ⟨rfl, ⟨rfl, rfl, rfl⟩, ht⟩

omit hs hs' in
theorem Move.ignored_echoes {e : Epoch} {signal : Signal}
    (h : Move c (.signal (e.shift δ) signal) a calls c₁)
    (h' : Move c' (.signal e signal) a' calls' c₁')
    (hi : e = c'.epoch → c'.heeds signal = false) : Echoes δ a calls c₁ a' calls' c₁' := by
  have hi₁ : e.shift δ = c.epoch → c.heeds signal = false := by
    rw [ht.epoch, Epoch.shift_inj, ht.heeds_eq]
    exact hi
  obtain ⟨rfl, rfl, rfl⟩ := h.of_unheeded hi₁
  obtain ⟨rfl, rfl, rfl⟩ := h'.of_unheeded hi
  exact .quiet rfl ht

omit hs hs' in
/-- A signal of the present epochs that both act upon. -/
theorem Move.heeded_echoes {signal : Signal} (h : Move c (.signal c.epoch signal) a calls c₁)
    (h' : Move c' (.signal c'.epoch signal) a' calls' c₁') (hh : c'.heeds signal = true) :
    Echoes δ a calls c₁ a' calls' c₁' := by
  have heeds (hi : c.epoch = c.epoch → c.heeds signal = false) : False := by
    rw [← ht.heeds_eq, hi rfl] at hh
    cases hh
  have heeds' (hi : c'.epoch = c'.epoch → c'.heeds signal = false) : False := by
    rw [hi rfl] at hh
    cases hh
  cases h with
  | signalIgnored _ _ hi => exact (heeds hi).elim
  | opened =>
    cases h' with
    | signalIgnored _ _ hi => exact (heeds' hi).elim
    | opened => exact ⟨rfl, ⟨rfl, rfl, rfl⟩, { ht.resetPolicy with state := rfl }⟩
  | received chunk =>
    cases h' with
    | signalIgnored _ _ hi => exact (heeds' hi).elim
    | received => exact ⟨rfl, ⟨rfl, rfl, rfl⟩, { ht with }⟩
  | failed info =>
    cases h' with
    | signalIgnored _ _ hi => exact (heeds' hi).elim
    | failed => exact ⟨rfl, ⟨rfl, rfl, rfl⟩, ht⟩
  | lost _ hl =>
    cases h' with
    | signalIgnored _ _ hi => exact (heeds' hi).elim
    | lost _ hl' =>
      obtain ⟨rfl, hc, ht₁⟩ := hl.twins hl' { ht with socket := rfl }
      exact ⟨rfl, .append (.of_letsGo c.letsGo_releasing c'.letsGo_releasing) hc, ht₁⟩

omit hs hs' in
theorem Move.signal_echoes {e : Epoch} {signal : Signal}
    (h : Move c (.signal (e.shift δ) signal) a calls c₁)
    (h' : Move c' (.signal e signal) a' calls' c₁') : Echoes δ a calls c₁ a' calls' c₁' := by
  by_cases hh : e = c'.epoch ∧ c'.heeds signal = true
  · obtain ⟨rfl, hh⟩ := hh
    rw [← ht.epoch] at h
    exact h.heeded_echoes ht h' hh
  · exact h.ignored_echoes ht h' fun he => Bool.eq_false_iff.mpr fun hs => hh ⟨he, hs⟩

theorem Move.retryDue_echoes {e : Epoch} (h : Move c (.retryDue (e.shift δ)) a calls c₁)
    (h' : Move c' (.retryDue e) a' calls' c₁') : Echoes δ a calls c₁ a' calls' c₁' := by
  cases h with
  | timerIgnored _ hi =>
    cases h' with
    | timerIgnored => exact .quiet rfl ht
    | retry _ ha' =>
      rw [ht.awaits_eq, ha'] at hi
      cases hi
  | retry _ ha hat =>
    cases h' with
    | timerIgnored _ hi' =>
      rw [ht.awaits_eq, hi'] at ha
      cases ha
    | retry _ _ hat' =>
      exact .attempt hat hat' ⟨ht.url, ht.policy, ht.epoch, ht.reported⟩ hs hs'

/-- Twins make the same move when the same is done with them and the same fails. -/
theorem Move.echoes {o : Operation} (h : Move c (o.shift δ) a calls c₁)
    (h' : Move c' o a' calls' c₁') : Echoes δ a calls c₁ a' calls' c₁' := by
  cases o with
  | connect => exact h.connect_echoes ht hs hs' h'
  | reconnect => exact h.reconnect_echoes ht hs hs' h'
  | close => exact h.close_echoes ht h'
  | shutdown =>
    cases h with
    | shutdown =>
      cases h' with
      | shutdown =>
        exact ⟨rfl, .of_letsGo c.letsGo_clearing c'.letsGo_clearing,
          { ht.cleared.resetPolicy with state := rfl }⟩
  | send f => exact h.send_echoes ht hs hs' h'
  | signal e signal => exact h.signal_echoes ht h'
  | retryDue e => exact h.retryDue_echoes ht hs hs' h'

end Moves

namespace Link

variable {ω ω' : Type} [Network ω] [Network ω']

/-- Twins have the same history when the same is done with them and the same fails. -/
theorem history_echoes {l : Link (Watched ω)} {l' : Link (Watched ω')} (os : List Operation)
    (ht : Twins δ l.connection l'.connection)
    (hs : s.Governs ((history (os.map (Operation.shift δ)) l).flatMap Deed.calls))
    (hs' : s.Governs ((history os l').flatMap Deed.calls)) :
    List.Forall₂ (Deed.Echoes δ) (history (os.map (Operation.shift δ)) l) (history os l') := by
  induction os generalizing l l' s with
  | nil => exact .nil
  | cons o os ih =>
    obtain ⟨calls, hm, hmade⟩ := l.perform_moves (o.shift δ)
    obtain ⟨calls', hm', hmade'⟩ := l'.perform_moves o
    simp only [List.map_cons, history, List.flatMap_cons, deed_eq hmade, deed_eq hmade'] at hs hs' ⊢
    have he := hm.echoes ht hs.left hs'.left hm'
    refine .cons he (ih he.after hs.right ?_)
    rw [he.calls.after_eq]
    exact hs'.right

end Link

end Connection

end WebTerminal
