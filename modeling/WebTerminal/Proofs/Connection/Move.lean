import WebTerminal.Connection.Operation
import WebTerminal.Proofs.World.Calls

/-! # What an operation can do to a connection

Every operation is one of the moves below, whatever the world answers: a move tells when it is made,
the answer, the calls on the world and the connection after it. Attempts and losses, which several
operations share, are relations of their own. -/

namespace WebTerminal.Connection

/-- The connection without a retry to come and without a socket. -/
def cleared (c : Connection) : Connection := { c with retry? := none, socket? := none }

/-- The connection with the user's closing of it. -/
def left (c : Connection) : Connection := { c.cleared with state := .closed .user }

def cancelling (c : Connection) : List Call := (c.retry?.map fun r => .cancel r.timer).toList

def hangingUp (c : Connection) : List Call := (c.socket?.map .hangUp).toList

def releasing (c : Connection) : List Call := (c.socket?.map .release).toList

def clearing (c : Connection) : List Call := c.cancelling ++ c.hangingUp

theorem letsGo_cancelling (c : Connection) : ∀ call ∈ c.cancelling, call.letsGo = true := by
  unfold cancelling
  cases c.retry? <;> simp [Call.letsGo]

theorem letsGo_clearing (c : Connection) : ∀ call ∈ c.clearing, call.letsGo = true := by
  unfold clearing hangingUp
  rw [List.forall_mem_append]
  refine ⟨c.letsGo_cancelling, ?_⟩
  cases c.socket? <;> simp [Call.letsGo]

theorem letsGo_releasing (c : Connection) : ∀ call ∈ c.releasing, call.letsGo = true := by
  unfold releasing
  cases c.socket? <;> simp [Call.letsGo]

/-- Whether a signal of the present epoch is acted upon. -/
def heeds (c : Connection) : Signal → Bool
  | .opened => c.state = .connecting
  | .message _ => c.state = .opened
  | .error _ | .closed => c.state.isLive

/-- The network closes the connection. -/
inductive Loss (c : Connection) : List Event → List Call → Connection → Prop where
  | retry (timer : TimerId) (h : c.policy.isExhausted = false) :
      Loss c
        [.closed .network,
          .retryScheduled c.policy.advance.attempt c.policy.maxAttempts
            (c.policy.delay c.policy.advance.attempt)]
        (c.cancelling ++ [.schedule (c.policy.delay c.policy.advance.attempt) c.epoch timer])
        { c with
          state := .closed .network, policy := c.policy.advance, retry? := some ⟨c.epoch, timer⟩ }
  | giveUp (h : c.policy.isExhausted = true) (hr : c.exhaustionReported = false) :
      Loss c [.closed .network, .exhausted c.policy.maxAttempts] []
        { c with state := .closed .network, exhaustionReported := true }
  | again (h : c.policy.isExhausted = true) (hr : c.exhaustionReported = true) :
      Loss c [.closed .network] [] { c with state := .closed .network }

/-- A connection in a new epoch is tried. -/
inductive Attempt (c : Connection) : List Event → List Call → Connection → Prop where
  | dialled (s : SocketId) :
      Attempt c [.connecting c.url c.epoch.next]
        (c.clearing ++ [.dial c.url c.epoch.next (.ok s)])
        { c.cleared.beginAttempt with socket? := some s }
  | refused (error : TransportError) {es : List Event} {calls : List Call} {c' : Connection}
      (h : Loss c.cleared.beginAttempt es calls c') :
      Attempt c (.connecting c.url c.epoch.next :: .refused error :: es)
        (c.clearing ++ .dial c.url c.epoch.next (.error error) :: calls) c'

inductive Move (c : Connection) : Operation → Answer → List Call → Connection → Prop where
  | connectIgnored (h : c.state.isLive = true) : Move c .connect (.events []) [] c
  | connectAnew (h : c.state.isLive = false) (hn : c.startsAnew = true) {es : List Event}
      {calls : List Call} {c' : Connection} (ha : Attempt c.resetPolicy es calls c') :
      Move c .connect (.events es) calls c'
  | connect (h : c.state.isLive = false) (hn : c.startsAnew = false) {es : List Event}
      {calls : List Call} {c' : Connection} (ha : Attempt c es calls c') :
      Move c .connect (.events es) calls c'
  | replace (h : c.state.isLive = true) {es : List Event} {calls : List Call} {c' : Connection}
      (ha : Attempt c.left.resetPolicy es calls c') :
      Move c .reconnect (.events (.closed .user :: es)) (c.clearing ++ calls) c'
  | reconnect (h : c.state.isLive = false) {es : List Event} {calls : List Call} {c' : Connection}
      (ha : Attempt c.resetPolicy es calls c') : Move c .reconnect (.events es) calls c'
  | closeIgnored (h : c.state = .idle ∨ c.state = .closed .user) :
      Move c .close (.events []) c.clearing c.cleared
  | close (h : c.state.isLive = true ∨ c.state = .closed .network) :
      Move c .close (.events [.closed .user]) c.clearing c.left
  | shutdown : Move c .shutdown .none c.clearing { c.cleared.resetPolicy with state := .idle }
  | dropped (f : Frame) (h : c.state = .opened → c.socket? = none) :
      Move c (.send f) (.delivery .dropped) [] { c with counters := c.counters.countDropped }
  | sent (f : Frame) {s : SocketId} (h : c.state = .opened) (hs : c.socket? = some s) :
      Move c (.send f) (.delivery .sent) [.transmit s f (.ok ())]
        { c with counters := c.counters.countSent f.size }
  | unsent (f : Frame) {s : SocketId} (error : TransportError) (h : c.state = .opened)
      (hs : c.socket? = some s) :
      Move c (.send f) (.delivery (.failed error)) [.transmit s f (.error error)] c
  | signalIgnored (e : Epoch) (s : Signal) (h : e = c.epoch → c.heeds s = false) :
      Move c (.signal e s) (.events []) [] c
  | opened (h : c.state = .connecting) :
      Move c (.signal c.epoch .opened) (.events [.connected]) []
        { c.resetPolicy with state := .opened, counters := c.counters.countOpened }
  | received (chunk : Bytes) (h : c.state = .opened) :
      Move c (.signal c.epoch (.message chunk)) (.events [.received chunk]) []
        { c with counters := c.counters.countReceived chunk.length }
  | failed (info : String) (h : c.state.isLive = true) :
      Move c (.signal c.epoch (.error info)) (.events [.failed info]) [] c
  | lost (h : c.state.isLive = true) {es : List Event} {calls : List Call} {c' : Connection}
      (hl : Loss { c with socket? := none } es calls c') :
      Move c (.signal c.epoch .closed) (.events es) (c.releasing ++ calls) c'
  | timerIgnored (e : Epoch) (h : c.awaits e = false) : Move c (.retryDue e) (.events []) [] c
  | retry (e : Epoch) (h : c.awaits e = true) {es : List Event} {calls : List Call}
      {c' : Connection} (ha : Attempt { c with retry? := none } es calls c') :
      Move c (.retryDue e) (.events es) calls c'

/-- A signal of another epoch or out of place changes nothing. -/
theorem Move.of_unheeded {c c' : Connection} {a : Answer} {calls : List Call} {e : Epoch}
    {signal : Signal} (h : Move c (.signal e signal) a calls c')
    (hi : e = c.epoch → c.heeds signal = false) : a = .events [] ∧ calls = [] ∧ c' = c := by
  cases h with
  | signalIgnored => exact ⟨rfl, rfl, rfl⟩
  | opened hs => simp [heeds, hs] at hi
  | received chunk hs => simp [heeds, hs] at hi
  | failed info hs => simp [heeds, hs] at hi
  | lost hs => simp [heeds, hs] at hi

namespace Link

variable {ω : Type} [Network ω]

theorem made_cancelRetry (l : Link ω) :
    Made l.world l.connection.cancelling l.cancelRetry.world := by
  unfold cancelRetry cancelling
  cases l.connection.retry? with
  | none => exact .nil _
  | some r => exact .cancel (.nil _)

theorem connection_cancelRetry (l : Link ω) :
    l.cancelRetry.connection = { l.connection with retry? := none } := by
  obtain ⟨c, w⟩ := l
  unfold cancelRetry
  cases h : c.retry? with
  | none => simp [← h]
  | some r => rfl

theorem made_hangUp (l : Link ω) : Made l.world l.connection.hangingUp l.hangUp.world := by
  unfold hangUp hangingUp
  cases l.connection.socket? with
  | none => exact .nil _
  | some s => exact .hangUp (.nil _)

theorem connection_hangUp (l : Link ω) :
    l.hangUp.connection = { l.connection with socket? := none } := by
  obtain ⟨c, w⟩ := l
  unfold hangUp
  cases h : c.socket? with
  | none => simp [← h]
  | some s => rfl

theorem made_release (l : Link ω) : Made l.world l.connection.releasing l.release.world := by
  unfold release releasing
  cases l.connection.socket? with
  | none => exact .nil _
  | some s => exact .release (.nil _)

theorem connection_release (l : Link ω) :
    l.release.connection = { l.connection with socket? := none } := by
  obtain ⟨c, w⟩ := l
  unfold release
  cases h : c.socket? with
  | none => simp [← h]
  | some s => rfl

theorem connection_clear (l : Link ω) :
    l.cancelRetry.hangUp.connection = l.connection.cleared := by
  rw [connection_hangUp, connection_cancelRetry, cleared]

theorem made_clear (l : Link ω) :
    Made l.world l.connection.clearing l.cancelRetry.hangUp.world := by
  have h := made_hangUp l.cancelRetry
  rw [connection_cancelRetry] at h
  exact (made_cancelRetry l).append h

theorem schedule_eq (delay : UInt32) (p : RetryPolicy) (l : Link ω) :
    ∃ timer, (l.schedule delay p).2.connection =
        { l.connection with policy := p, retry? := some ⟨l.connection.epoch, timer⟩ } ∧
      Made l.world (l.connection.cancelling ++ [.schedule delay l.connection.epoch timer])
        (l.schedule delay p).2.world := by
  have hc := connection_cancelRetry (l.update ({ · with policy := p }))
  have hm := made_cancelRetry (l.update ({ · with policy := p }))
  generalize hl : (l.update ({ · with policy := p })).cancelRetry = l₁ at hc hm
  have he : l₁.connection.epoch = l.connection.epoch := by rw [hc]; rfl
  refine ⟨(Network.schedule delay l.connection.epoch l₁.world).1, ?_, ?_⟩
  · simp only [schedule, hl, setRetry, hc]
    rfl
  · have hs : Made l₁.world [.schedule delay l₁.connection.epoch
        (Network.schedule delay l₁.connection.epoch l₁.world).1] (l₁.setRetry delay).world :=
      .schedule rfl (.nil _)
    rw [he] at hs
    simp only [schedule, hl]
    exact hm.append hs

theorem lose_loss (l : Link ω) :
    ∃ calls, Loss l.connection l.lose.1 calls l.lose.2.connection ∧
      Made l.world calls l.lose.2.world := by
  generalize hl : (l.note (.closed .network l.connection.epoch)).enter (.closed .network) = l₁
  have hc : l₁.connection = { l.connection with state := .closed .network } := by rw [← hl]; rfl
  have hw : l₁.world = Journal.note (.closed .network l.connection.epoch) l.world := by
    rw [← hl]; rfl
  have hp : l₁.connection.policy = l.connection.policy := by rw [hc]
  have hm (calls : List Call) (w : ω) (h : Made l₁.world calls w) : Made l.world calls w := by
    rw [hw] at h
    exact .note _ h
  unfold lose retryOrGiveUp following
  rw [hl]
  cases hx : l.connection.policy.isExhausted with
  | false =>
    have hn : l₁.connection.policy.next? = some
        (l.connection.policy.delay l.connection.policy.advance.attempt,
          l.connection.policy.advance) := by
      simp [RetryPolicy.next?, hp, hx, RetryPolicy.advance]
    obtain ⟨timer, hs, hmade⟩ := l₁.schedule_eq
      (l.connection.policy.delay l.connection.policy.advance.attempt) l.connection.policy.advance
    rw [hn]
    refine ⟨_, ?_, hm _ _ hmade⟩
    simp only [hs, hc]
    exact .retry timer hx
  | true =>
    have hn : l₁.connection.policy.next? = none := by simp [RetryPolicy.next?, hp, hx]
    rw [hn]
    unfold giveUp
    cases hr : l.connection.exhaustionReported with
    | false =>
      have hr₁ : ¬ l₁.connection.exhaustionReported = true := by simp [hc, hr]
      simp only [if_neg hr₁]
      refine ⟨[], ?_, hm _ _ (.noted _ _)⟩
      simp only [note, update, hc]
      exact .giveUp hx hr
    | true =>
      have hr₁ : l₁.connection.exhaustionReported = true := by simp [hc, hr]
      simp only [if_pos hr₁]
      refine ⟨[], ?_, hm _ _ (.nil _)⟩
      simp only [hc]
      exact .again hx hr

theorem dial_eq_ok {l : Link ω} {s : SocketId} {w : ω}
    (h : Network.dial l.connection.url l.connection.epoch l.world = (.ok s, w)) :
    l.dial = ([], ⟨{ l.connection with socket? := some s }, w⟩) := by
  unfold dial
  rw [h]

theorem dial_eq_error {l : Link ω} {error : TransportError} {w : ω}
    (h : Network.dial l.connection.url l.connection.epoch l.world = (.error error, w)) :
    l.dial = following [.refused error] (note (.refused error) ⟨l.connection, w⟩).lose := by
  unfold dial
  rw [h]

theorem attempt_attempt (l : Link ω) :
    ∃ calls, Attempt l.connection l.attempt.1 calls l.attempt.2.connection ∧
      Made l.world calls l.attempt.2.world := by
  have hc := connection_clear l
  have hm := made_clear l
  generalize hl : l.cancelRetry.hangUp = l₁ at hc hm
  generalize hw : Journal.note (.connecting l.connection.url l.connection.epoch.next) l₁.world = w
  have hm' : Made l.world l.connection.clearing w := by
    have h := hm.append (.noted (.connecting l.connection.url l.connection.epoch.next) _)
    rwa [List.append_nil, hw] at h
  have ha : l.attempt = following [.connecting l.connection.url l.connection.epoch.next]
      (dial ⟨l.connection.cleared.beginAttempt, w⟩) := by
    simp only [attempt, hl, update, hc, note]
    rw [← hw]
    rfl
  rw [ha]
  cases hd : Network.dial l.connection.url l.connection.epoch.next w with
  | mk answer w' =>
    cases answer with
    | ok s =>
      rw [dial_eq_ok hd]
      exact ⟨_, .dialled s, hm'.append (.dial hd (.nil _))⟩
    | error error =>
      obtain ⟨calls, hloss, hmade⟩ :=
        (note (.refused error) ⟨l.connection.cleared.beginAttempt, w'⟩).lose_loss
      rw [dial_eq_error hd]
      exact ⟨_, .refused error hloss, hm'.append (.dial hd (.note _ hmade))⟩

/-- Every operation is a move, whatever the world answers to its calls. -/
def Moves (o : Operation) (l : Link ω) : Prop :=
  ∃ calls, Move l.connection o (l.perform o).1 calls (l.perform o).2.connection ∧
    Made l.world calls (l.perform o).2.world

theorem connect_moves (l : Link ω) : Moves .connect l := by
  simp only [Moves, perform, connect]
  by_cases hl : l.connection.state.isLive = true
  · simp only [if_pos hl]
    exact ⟨[], .connectIgnored hl, .noted _ _⟩
  · simp only [if_neg hl]
    rw [Bool.not_eq_true] at hl
    cases hn : l.connection.startsAnew with
    | true =>
      obtain ⟨calls, ha, hm⟩ := (l.update resetPolicy).attempt_attempt
      exact ⟨calls, .connectAnew hl hn ha, hm⟩
    | false =>
      obtain ⟨calls, ha, hm⟩ := l.attempt_attempt
      exact ⟨calls, .connect hl hn ha, hm⟩

theorem reconnect_moves (l : Link ω) : Moves .reconnect l := by
  simp only [Moves, perform, reconnect]
  cases hl : l.connection.state.isLive with
  | true =>
    have hleft : l.abandon.2.connection = l.connection.left := by
      rw [left, ← connection_clear]
      rfl
    have hm : Made l.world l.connection.clearing l.abandon.2.world := by
      have h := (made_clear l).append
        (.noted (.replacing l.cancelRetry.hangUp.connection.epoch) _)
      rwa [List.append_nil] at h
    obtain ⟨calls, ha, hm'⟩ := (l.abandon.2.update resetPolicy).attempt_attempt
    have hr : (l.abandon.2.update resetPolicy).connection = l.connection.left.resetPolicy := by
      rw [update, hleft]
    rw [hr] at ha
    exact ⟨_, .replace hl ha, hm.append hm'⟩
  | false =>
    obtain ⟨calls, ha, hm⟩ := (l.update resetPolicy).attempt_attempt
    exact ⟨calls, .reconnect hl ha, hm⟩

theorem close_moves (l : Link ω) : Moves .close l := by
  have hc := connection_clear l
  have hm := made_clear l
  generalize hl : l.cancelRetry.hangUp = l₁ at hc hm
  have hs : l₁.connection.state = l.connection.state := by rw [hc]; rfl
  have ignored (h : l.connection.state = .idle ∨ l.connection.state = .closed .user) :
      l.close = ([], l₁) := by
    unfold close
    rcases h with h | h <;> simp only [hl, hs, h]
  have closes (h : l.connection.state.isLive = true ∨ l.connection.state = .closed .network) :
      l.close = ([.closed .user],
        (l₁.note (.closedByUser l₁.connection.epoch)).enter (.closed .user)) := by
    unfold close
    cases hst : l.connection.state with
    | idle => simp [hst, State.isLive] at h
    | connecting | opened => simp only [hl, hs, hst]
    | closed reason =>
      cases reason with
      | network => simp only [hl, hs, hst]
      | user => simp [hst, State.isLive] at h
  simp only [Moves, perform]
  by_cases h : l.connection.state = .idle ∨ l.connection.state = .closed .user
  · rw [ignored h, hc]
    exact ⟨_, .closeIgnored h, hm⟩
  · have h' : l.connection.state.isLive = true ∨ l.connection.state = .closed .network := by
      cases hst : l.connection.state with
      | idle => exact absurd (Or.inl hst) h
      | connecting | opened => exact .inl rfl
      | closed reason =>
        cases reason with
        | network => exact .inr rfl
        | user => exact absurd (Or.inr hst) h
    have hn := hm.append (.noted (.closedByUser l₁.connection.epoch) _)
    rw [List.append_nil] at hn
    rw [closes h']
    refine ⟨_, ?_, hn⟩
    simp only [enter, update, note, hc]
    exact .close h'

theorem shutdown_moves (l : Link ω) : Moves .shutdown l := by
  refine ⟨_, ?_, made_clear l⟩
  simp only [perform, shutdown, enter, update, connection_clear]
  exact .shutdown

theorem send_moves (f : Frame) (l : Link ω) : Moves (.send f) l := by
  obtain ⟨c, w⟩ := l
  simp only [Moves, perform]
  by_cases hs : c.state = .opened
  · cases hk : c.socket? with
    | none =>
      have hd : send f ⟨c, w⟩ = drop f ⟨c, w⟩ := by simp only [send, hs, hk]
      rw [hd]
      exact ⟨[], .dropped f fun _ => hk, .noted _ _⟩
    | some s =>
      simp only [send, hs, hk]
      cases ht : Network.transmit s f w with
      | mk answer w' =>
        cases answer with
        | ok _ => exact ⟨_, .sent f hs hk, .transmit ht (.nil _)⟩
        | error error => exact ⟨_, .unsent f error hs hk, .transmit ht (.noted _ _)⟩
  · have hd : send f ⟨c, w⟩ = drop f ⟨c, w⟩ := by
      unfold send
      cases hst : c.state with
      | opened => exact absurd hst hs
      | idle | connecting | closed _ => rfl
    rw [hd]
    exact ⟨[], .dropped f fun h => absurd h hs, .noted _ _⟩

theorem signal_moves (e : Epoch) (s : Signal) (l : Link ω) : Moves (.signal e s) l := by
  simp only [Moves, perform, signal]
  by_cases he : e = l.connection.epoch
  · subst he
    simp only [↓reduceIte]
    cases s with
    | opened =>
      unfold opened
      by_cases hs : l.connection.state = .connecting
      · simp only [if_pos hs]
        exact ⟨[], .opened hs, .noted _ _⟩
      · simp only [if_neg hs]
        exact ⟨[], .signalIgnored _ _ fun _ => by simpa [heeds] using hs, .noted _ _⟩
    | message chunk =>
      unfold received
      by_cases hs : l.connection.state = .opened
      · simp only [if_pos hs]
        exact ⟨[], .received chunk hs, .nil _⟩
      · simp only [if_neg hs]
        exact ⟨[], .signalIgnored _ _ fun _ => by simpa [heeds] using hs, .noted _ _⟩
    | error info =>
      unfold failed
      cases hs : l.connection.state.isLive with
      | true => exact ⟨[], .failed info hs, .noted _ _⟩
      | false => exact ⟨[], .signalIgnored _ _ fun _ => hs, .nil _⟩
    | closed =>
      unfold closed
      cases hs : l.connection.state.isLive with
      | true =>
        obtain ⟨calls, hloss, hm⟩ := l.release.lose_loss
        rw [connection_release] at hloss
        exact ⟨_, .lost hs hloss, (made_release l).append hm⟩
      | false => exact ⟨[], .signalIgnored _ _ fun _ => hs, .nil _⟩
  · simp only [if_neg he]
    exact ⟨[], .signalIgnored e s fun h => absurd h he, .noted _ _⟩

theorem retryDue_moves (e : Epoch) (l : Link ω) : Moves (.retryDue e) l := by
  simp only [Moves, perform, retryDue]
  by_cases ha : l.connection.awaits e = true
  · obtain ⟨calls, hattempt, hm⟩ := (l.update ({ · with retry? := none })).attempt_attempt
    rw [if_pos ha]
    exact ⟨calls, .retry e ha hattempt, hm⟩
  · rw [if_neg ha]
    rw [Bool.not_eq_true] at ha
    exact ⟨[], .timerIgnored e ha, .noted _ _⟩

theorem perform_moves (o : Operation) (l : Link ω) : Moves o l := by
  cases o with
  | connect => exact l.connect_moves
  | reconnect => exact l.reconnect_moves
  | close => exact l.close_moves
  | shutdown => exact l.shutdown_moves
  | send f => exact l.send_moves f
  | signal e s => exact l.signal_moves e s
  | retryDue e => exact l.retryDue_moves e

end Link

end WebTerminal.Connection
