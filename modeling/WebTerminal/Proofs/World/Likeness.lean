import WebTerminal.Connection.Operation
import WebTerminal.Proofs.World.Calls
import WebTerminal.Session.Operation

/-! # Worlds that cannot be told apart

Two worlds that are related stay so when the same call is made on both, and answer it alike. Then
a connection or a session does in the one just what it does in the other: it gives the same answers,
comes to the same state, and leaves worlds that are still related. -/

namespace WebTerminal

variable {ω ω' α : Type}

/-- The same answer, and worlds or more that are related. -/
def Alike {β β' : Type} (R : β → β' → Prop) (r : α × β) (r' : α × β') : Prop :=
  r.1 = r'.1 ∧ R r.2 r'.2

theorem Alike.same {β β' : Type} {R : β → β' → Prop} (a : α) {b : β} {b' : β'} (h : R b b') :
    Alike R (a, b) (a, b') := ⟨rfl, h⟩

theorem Alike.exists_eq {β β' : Type} {R : β → β' → Prop} {r : α × β} {r' : α × β'}
    (h : Alike R r r') : ∃ a b b', r = (a, b) ∧ r' = (a, b') ∧ R b b' := by
  obtain ⟨a, b⟩ := r
  obtain ⟨a', b'⟩ := r'
  obtain ⟨rfl, hb⟩ : a = a' ∧ R b b' := h
  exact ⟨a, b, b', rfl, rfl, hb⟩

structure Network.Respects [Network ω] [Network ω'] (R : ω → ω' → Prop) : Prop where
  note (n : Notice) {w : ω} {w' : ω'} (h : R w w') : R (Journal.note n w) (Journal.note n w')
  dial (url : String) (e : Epoch) {w : ω} {w' : ω'} (h : R w w') :
    Alike R (Network.dial url e w) (Network.dial url e w')
  transmit (s : SocketId) (f : Frame) {w : ω} {w' : ω'} (h : R w w') :
    Alike R (Network.transmit s f w) (Network.transmit s f w')
  hangUp (s : SocketId) {w : ω} {w' : ω'} (h : R w w') :
    R (Network.hangUp s w) (Network.hangUp s w')
  release (s : SocketId) {w : ω} {w' : ω'} (h : R w w') :
    R (Network.release s w) (Network.release s w')
  schedule (delay : UInt32) (e : Epoch) {w : ω} {w' : ω'} (h : R w w') :
    Alike R (Network.schedule delay e w) (Network.schedule delay e w')
  cancel (t : TimerId) {w : ω} {w' : ω'} (h : R w w') :
    R (Network.cancel t w) (Network.cancel t w')

structure Screen.Respects [Screen ω] [Screen ω'] (R : ω → ω' → Prop) : Prop where
  append (text : String) (style : Session.Style) {w : ω} {w' : ω'} (h : R w w') :
    R (Screen.append text style w) (Screen.append text style w')
  clear {w : ω} {w' : ω'} (h : R w w') : R (Screen.clear w) (Screen.clear w')
  scrollToEnd {w : ω} {w' : ω'} (h : R w w') : R (Screen.scrollToEnd w) (Screen.scrollToEnd w')
  focus {w : ω} {w' : ω'} (h : R w w') : R (Screen.focus w) (Screen.focus w')
  report (s : Session.Status) {w : ω} {w' : ω'} (h : R w w') :
    R (Screen.report s w) (Screen.report s w')

variable {R : ω → ω' → Prop}

namespace Connection.Link

/-- The same connection in related worlds. -/
inductive Like (R : ω → ω' → Prop) : Link ω → Link ω' → Prop where
  | mk (c : Connection) {w : ω} {w' : ω'} (h : R w w') : Like R ⟨c, w⟩ ⟨c, w'⟩

variable {l : Link ω} {l' : Link ω'}

theorem Like.connection (h : Like R l l') : l.connection = l'.connection := by
  obtain ⟨c, hw⟩ := h
  rfl

theorem Like.world (h : Like R l l') : R l.world l'.world := by
  obtain ⟨c, hw⟩ := h
  exact hw

theorem Like.update (h : Like R l l') (f : Connection → Connection) :
    Like R (l.update f) (l'.update f) := by
  obtain ⟨c, hw⟩ := h
  exact ⟨f c, hw⟩

theorem Like.enter (h : Like R l l') (s : State) : Like R (l.enter s) (l'.enter s) := h.update _

theorem Like.following {r : List Event × Link ω} {r' : List Event × Link ω'}
    (h : Alike (Like R) r r') (es : List Event) :
    Alike (Like R) (following es r) (following es r') := by
  obtain ⟨he, hl⟩ := h
  exact ⟨congrArg (es ++ ·) he, hl⟩

variable [Network ω] [Network ω'] (hR : Network.Respects R) (h : Like R l l')
include hR h

theorem Like.note (n : Notice) : Like R (l.note n) (l'.note n) := by
  obtain ⟨c, hw⟩ := h
  exact ⟨c, hR.note n hw⟩

theorem Like.cancelRetry : Like R l.cancelRetry l'.cancelRetry := by
  obtain ⟨c, hw⟩ := h
  unfold Link.cancelRetry
  cases c.retry? with
  | none => exact ⟨c, hw⟩
  | some r => exact ⟨_, hR.cancel r.timer hw⟩

theorem Like.hangUp : Like R l.hangUp l'.hangUp := by
  obtain ⟨c, hw⟩ := h
  unfold Link.hangUp
  cases c.socket? with
  | none => exact ⟨c, hw⟩
  | some s => exact ⟨_, hR.hangUp s hw⟩

theorem Like.release : Like R l.release l'.release := by
  obtain ⟨c, hw⟩ := h
  unfold Link.release
  cases c.socket? with
  | none => exact ⟨c, hw⟩
  | some s => exact ⟨_, hR.release s hw⟩

theorem Like.setRetry (delay : UInt32) : Like R (l.setRetry delay) (l'.setRetry delay) := by
  obtain ⟨c, hw⟩ := h
  obtain ⟨t, v, v', hs, hs', hv⟩ := (hR.schedule delay c.epoch hw).exists_eq
  simp only [Link.setRetry, hs, hs']
  exact ⟨_, hv⟩

theorem Like.schedule (delay : UInt32) (p : RetryPolicy) :
    Alike (Like R) (l.schedule delay p) (l'.schedule delay p) :=
  ⟨rfl, ((h.update _).cancelRetry hR).setRetry hR delay⟩

theorem Like.giveUp : Alike (Like R) l.giveUp l'.giveUp := by
  have hu := h.update ({ · with exhaustionReported := true })
  obtain ⟨c, hw⟩ := h
  unfold Link.giveUp
  by_cases hr : c.exhaustionReported = true
  · simp only [if_pos hr]
    exact ⟨rfl, ⟨c, hw⟩⟩
  · simp only [if_neg hr]
    exact ⟨rfl, hu.note hR _⟩

theorem Like.retryOrGiveUp : Alike (Like R) l.retryOrGiveUp l'.retryOrGiveUp := by
  have hs := h.schedule hR
  have hg := h.giveUp hR
  obtain ⟨c, hw⟩ := h
  unfold Link.retryOrGiveUp
  cases hn : c.policy.next? with
  | none => simpa only [hn] using hg
  | some next => simpa only [hn] using hs next.1 next.2

theorem Like.lose : Alike (Like R) l.lose l'.lose := by
  have hn := (h.note hR (.closed .network l.connection.epoch)).enter (.closed .network)
  obtain ⟨c, hw⟩ := h
  exact Like.following (hn.retryOrGiveUp hR) _

theorem Like.dial : Alike (Like R) l.dial l'.dial := by
  obtain ⟨c, hw⟩ := h
  obtain ⟨a, v, v', hd, hd', hv⟩ := (hR.dial c.url c.epoch hw).exists_eq
  simp only [Link.dial, hd, hd']
  cases a with
  | ok s => exact .same _ ⟨_, hv⟩
  | error e => exact Like.following (((Like.mk c hv).note hR _).lose hR) _

theorem Like.attempt : Alike (Like R) l.attempt l'.attempt := by
  have ha := ((h.cancelRetry hR).hangUp hR).update beginAttempt
  unfold Link.attempt
  generalize (l.cancelRetry.hangUp.update beginAttempt) = k at ha ⊢
  generalize (l'.cancelRetry.hangUp.update beginAttempt) = k' at ha ⊢
  obtain ⟨c, hw⟩ := ha
  exact Like.following (((Like.mk c hw).note hR _).dial hR) _

theorem Like.connect : Alike (Like R) l.connect l'.connect := by
  have ha := h.attempt hR
  have hr := (h.update resetPolicy).attempt hR
  have hn := h.note hR (.connectIgnored l.connection.state)
  obtain ⟨c, hw⟩ := h
  unfold Link.connect
  by_cases hl : c.state.isLive = true
  · simp only [if_pos hl]
    exact .same _ hn
  · simp only [if_neg hl]
    by_cases hs : c.startsAnew = true
    · simpa only [if_pos hs] using hr
    · simpa only [if_neg hs] using ha

theorem Like.abandon : Alike (Like R) l.abandon l'.abandon := by
  have ha := (h.cancelRetry hR).hangUp hR
  unfold Link.abandon
  generalize l.cancelRetry.hangUp = k at ha ⊢
  generalize l'.cancelRetry.hangUp = k' at ha ⊢
  obtain ⟨c, hw⟩ := ha
  exact .same _ (((Like.mk c hw).note hR _).enter _)

theorem Like.reconnect : Alike (Like R) l.reconnect l'.reconnect := by
  have ha := h.abandon hR
  obtain ⟨c, hw⟩ := h
  unfold Link.reconnect
  by_cases hl : c.state.isLive = true
  · simp only [if_pos hl, ha.1]
    exact Like.following ((ha.2.update resetPolicy).attempt hR) _
  · simp only [if_neg hl]
    exact Like.following (((Like.mk c hw).update resetPolicy).attempt hR) _

theorem Like.close : Alike (Like R) l.close l'.close := by
  have ha := (h.cancelRetry hR).hangUp hR
  unfold Link.close
  generalize l.cancelRetry.hangUp = k at ha ⊢
  generalize l'.cancelRetry.hangUp = k' at ha ⊢
  have hn := (ha.note hR (.closedByUser k.connection.epoch)).enter (.closed .user)
  obtain ⟨c, hw⟩ := ha
  dsimp only
  cases c.state with
  | idle => exact .same _ ⟨c, hw⟩
  | connecting | opened => exact .same _ hn
  | closed reason =>
    cases reason with
    | network => exact .same _ hn
    | user => exact .same _ ⟨c, hw⟩

theorem Like.shutdown : Like R l.shutdown l'.shutdown :=
  (((h.cancelRetry hR).hangUp hR).update resetPolicy).enter .idle

theorem Like.drop (f : Frame) : Alike (Like R) (l.drop f) (l'.drop f) := by
  obtain ⟨c, hw⟩ := h
  exact .same _ (((Like.mk c hw).update _).note hR _)

theorem Like.send (f : Frame) : Alike (Like R) (l.send f) (l'.send f) := by
  have hd := h.drop hR f
  obtain ⟨c, hw⟩ := h
  unfold Link.send
  cases c.state with
  | opened =>
    cases c.socket? with
    | none => exact hd
    | some s =>
      obtain ⟨a, v, v', ht, ht', hv⟩ := (hR.transmit s f hw).exists_eq
      simp only [ht, ht']
      cases a with
      | ok _ => exact .same _ ((Like.mk c hv).update _)
      | error e => exact .same _ ((Like.mk c hv).note hR _)
  | idle | connecting | closed _ => exact hd

theorem Like.opened : Alike (Like R) l.opened l'.opened := by
  obtain ⟨c, hw⟩ := h
  have h : Like R ⟨c, _⟩ ⟨c, _⟩ := .mk c hw
  unfold Link.opened
  by_cases hs : c.state = .connecting
  · simp only [if_pos hs]
    exact .same _ ((((h.note hR _).enter _).update _).update _)
  · simp only [if_neg hs]
    exact .same _ (h.note hR _)

theorem Like.received (chunk : Bytes) : Alike (Like R) (l.received chunk) (l'.received chunk) := by
  obtain ⟨c, hw⟩ := h
  have h : Like R ⟨c, _⟩ ⟨c, _⟩ := .mk c hw
  unfold Link.received
  by_cases hs : c.state = .opened
  · simp only [if_pos hs]
    exact .same _ (h.update _)
  · simp only [if_neg hs]
    exact .same _ (h.note hR _)

theorem Like.failed (info : String) : Alike (Like R) (l.failed info) (l'.failed info) := by
  obtain ⟨c, hw⟩ := h
  have h : Like R ⟨c, _⟩ ⟨c, _⟩ := .mk c hw
  unfold Link.failed
  by_cases hl : c.state.isLive = true
  · simp only [if_pos hl]
    exact .same _ (h.note hR _)
  · simp only [if_neg hl]
    exact .same _ h

theorem Like.closed : Alike (Like R) l.closed l'.closed := by
  have hr := (h.release hR).lose hR
  obtain ⟨c, hw⟩ := h
  unfold Link.closed
  by_cases hl : c.state.isLive = true
  · simpa only [if_pos hl] using hr
  · simp only [if_neg hl]
    exact .same _ ⟨c, hw⟩

theorem Like.signal (e : Epoch) (s : Signal) : Alike (Like R) (l.signal e s) (l'.signal e s) := by
  have hn := h.note hR (.stale s e l.connection.epoch)
  have ho := h.opened hR
  have hr := h.received hR
  have hf := h.failed hR
  have hc := h.closed hR
  obtain ⟨c, hw⟩ := h
  unfold Link.signal
  by_cases he : e = c.epoch
  · simp only [if_pos he]
    cases s with
    | opened => exact ho
    | message chunk => exact hr chunk
    | error info => exact hf info
    | closed => exact hc
  · simp only [if_neg he]
    exact .same _ hn

theorem Like.retryDue (e : Epoch) : Alike (Like R) (l.retryDue e) (l'.retryDue e) := by
  have hu := (h.update ({ · with retry? := none })).attempt hR
  have hn := h.note hR (.staleTimer e)
  obtain ⟨c, hw⟩ := h
  unfold Link.retryDue
  by_cases ha : c.awaits e = true
  · simpa only [if_pos ha] using hu
  · simp only [if_neg ha]
    exact .same _ hn

theorem Like.perform (o : Operation) : Alike (Like R) (l.perform o) (l'.perform o) := by
  cases o with
  | connect => exact ⟨congrArg _ (h.connect hR).1, (h.connect hR).2⟩
  | reconnect => exact ⟨congrArg _ (h.reconnect hR).1, (h.reconnect hR).2⟩
  | close => exact ⟨congrArg _ (h.close hR).1, (h.close hR).2⟩
  | shutdown => exact ⟨rfl, h.shutdown hR⟩
  | send f => exact ⟨congrArg _ (h.send hR f).1, (h.send hR f).2⟩
  | signal e s => exact ⟨congrArg _ (h.signal hR e s).1, (h.signal hR e s).2⟩
  | retryDue e => exact ⟨congrArg _ (h.retryDue hR e).1, (h.retryDue hR e).2⟩

end Connection.Link

namespace Session.Console

/-- The same session in related worlds. -/
inductive Like (R : ω → ω' → Prop) : Console ω → Console ω' → Prop where
  | mk (s : Session) {w : ω} {w' : ω'} (h : R w w') : Like R ⟨s, w⟩ ⟨s, w'⟩

variable {c : Console ω} {c' : Console ω'}

theorem Like.session (h : Like R c c') : c.session = c'.session := by
  obtain ⟨s, hw⟩ := h
  rfl

theorem Like.world (h : Like R c c') : R c.world c'.world := by
  obtain ⟨s, hw⟩ := h
  exact hw

theorem Like.link (h : Like R c c') : Connection.Link.Like R c.link c'.link := by
  obtain ⟨s, hw⟩ := h
  exact ⟨_, hw⟩

theorem Like.withLink (h : Like R c c') {l : Connection.Link ω} {l' : Connection.Link ω'}
    (hl : Connection.Link.Like R l l') : Like R (c.withLink l) (c'.withLink l') := by
  obtain ⟨s, hw⟩ := h
  obtain ⟨k, hk⟩ := hl
  exact ⟨_, hk⟩

theorem Like.withWorld (h : Like R c c') {f : ω → ω} {f' : ω' → ω'}
    (hf : R (f c.world) (f' c'.world)) : Like R (c.withWorld f) (c'.withWorld f') := by
  obtain ⟨s, hw⟩ := h
  exact ⟨s, hf⟩

theorem Like.withDecoder (h : Like R c c') (d : Utf8.Decoder) :
    Like R (c.withDecoder d) (c'.withDecoder d) := by
  obtain ⟨s, hw⟩ := h
  exact ⟨_, hw⟩

theorem Like.withEncoder (h : Like R c c') (e : Encoder) :
    Like R (c.withEncoder e) (c'.withEncoder e) := by
  obtain ⟨s, hw⟩ := h
  exact ⟨_, hw⟩

section Screen

variable [Screen ω] [Screen ω'] (hS : Screen.Respects R) (h : Like R c c')
include hS h

theorem Like.append (text : String) (style : Style) :
    Like R (c.append text style) (c'.append text style) :=
  h.withWorld (hS.append text style h.world)

theorem Like.scrollToEnd : Like R c.scrollToEnd c'.scrollToEnd :=
  h.withWorld (hS.scrollToEnd h.world)

theorem Like.announce (style : Style) (text : String) :
    Like R (c.announce style text) (c'.announce style text) := h.append hS _ _

theorem Like.report (s : Status) : Like R (c.report s) (c'.report s) := by
  obtain ⟨k, hw⟩ := h
  unfold Console.report
  by_cases hs : k.lastStatus? = some s
  · simp only [if_pos hs]
    exact ⟨k, hw⟩
  · simp only [if_neg hs]
    exact ⟨_, hS.report s hw⟩

theorem Like.receive (chunk : Bytes) : Like R (c.receive chunk) (c'.receive chunk) := by
  obtain ⟨k, hw⟩ := h
  have hd := (Like.mk k hw).withDecoder (k.decoder.push chunk).2
  unfold Console.receive
  by_cases he : (k.decoder.push chunk).1.isEmpty = true
  · simpa only [if_pos he] using hd
  · simpa only [if_neg he] using (hd.append hS _ _).scrollToEnd hS

theorem Like.clear : Like R c.clear c'.clear :=
  (h.withWorld (hS.clear h.world)).announce hS _ _

end Screen

section Network

variable [Network ω] [Network ω'] (hR : Network.Respects R) (h : Like R c c')
include hR h

theorem Like.noteAll (ns : List Notice) : Like R (c.noteAll ns) (c'.noteAll ns) := by
  refine h.withWorld ?_
  have hw := h.world
  generalize c.world = w at hw ⊢
  generalize c'.world = w' at hw ⊢
  induction ns generalizing w w' with
  | nil => exact hw
  | cons n ns ih => exact ih _ _ (hR.note n hw)

theorem Like.shutdown : Like R c.shutdown c'.shutdown := by
  have hs := h.withLink (h.link.shutdown hR)
  unfold Console.shutdown
  generalize c.withLink c.link.shutdown = k at hs ⊢
  generalize c'.withLink c'.link.shutdown = k' at hs ⊢
  obtain ⟨s, hw⟩ := hs
  exact ((Like.mk s hw).withEncoder _).withDecoder _

variable [Screen ω] [Screen ω'] (hS : Screen.Respects R)
include hS

theorem Like.present (e : Connection.Event) : Like R (c.present e) (c'.present e) := by
  cases e with
  | connecting url _ =>
    have hd := h.withDecoder c.session.decoder.reset
    obtain ⟨s, hw⟩ := h
    exact hd.announce hS _ _
  | refused error => exact h.announce hS _ _
  | connected =>
    have hr := (h.announce hS .info "Connected to remote shell").report hS .connected
    exact hr.withWorld (hS.focus hr.world)
  | received chunk => exact h.receive hS chunk
  | failed _ => exact h.announce hS _ _
  | closed reason =>
    cases reason with
    | network | user => exact (h.announce hS _ _).report hS _
  | retryScheduled attempt maxAttempts delay =>
    exact ((h.noteAll hR _).announce hS _ _).report hS _
  | exhausted maxAttempts => exact (h.announce hS _ _).report hS _

theorem Like.presentAll (es : List Connection.Event) :
    Like R (c.presentAll es) (c'.presentAll es) := by
  induction es generalizing c c' with
  | nil => exact h
  | cons e es ih => exact ih (h.present hR hS e)

theorem Like.act {f : Connection.Link ω → List Connection.Event × Connection.Link ω}
    {f' : Connection.Link ω' → List Connection.Event × Connection.Link ω'}
    (hf : Alike (Connection.Link.Like R) (f c.link) (f' c'.link)) :
    Like R (c.act f) (c'.act f') := by
  obtain ⟨he, hl⟩ := hf
  unfold Console.act
  rw [he]
  exact (h.withLink hl).presentAll hR hS _

theorem Like.start : Like R c.start c'.start := by
  have hr := h.report hS .disconnected
  exact hr.act hR hS (hr.link.connect hR)

theorem Like.send (f : Frame) : Alike (Like R) (c.send f) (c'.send f) := by
  have hs := h.link.send hR f
  have hk := h.withLink hs.2
  simp only [Console.send, hs.1]
  cases (c'.link.send f).1 with
  | sent | dropped => exact .same _ hk
  | failed error => exact .same _ (hk.announce hS _ _)

theorem Like.input (i : Input) : Alike (Like R) (c.input i) (c'.input i) := by
  obtain ⟨s, hw⟩ := h
  have hi := ((Like.mk s hw).noteAll hR
    ((s.encoder.encode i).1.notices s.encoder.line)).withEncoder (s.encoder.encode i).2
  simp only [Console.input]
  generalize (s.encoder.encode i).1 = encoded at hi ⊢
  cases encoded with
  | frame f => exact hi.send hR hS f
  | held | refused _ => exact .same _ hi

theorem Like.press (k : Keystroke) : Alike (Like R) (c.press k) (c'.press k) := by
  unfold Console.press
  cases k.action with
  | input i => exact .same _ ((h.input hR hS i).2.scrollToEnd hS)
  | _ => exact .same _ h

theorem Like.perform (o : Operation) : Alike (Like R) (c.perform o) (c'.perform o) := by
  cases o with
  | start => exact .same _ (h.start hR hS)
  | close => exact .same _ (h.act hR hS (h.link.close hR))
  | reconnect => exact .same _ (h.act hR hS (h.link.reconnect hR))
  | shutdown => exact .same _ (h.shutdown hR)
  | clear => exact .same _ (h.clear hS)
  | press k => exact ⟨congrArg _ (h.press hR hS k).1, (h.press hR hS k).2⟩
  | input i => exact ⟨congrArg _ (h.input hR hS i).1, (h.input hR hS i).2⟩
  | append text style => exact .same _ (h.append hS text style)
  | signal e s => exact .same _ (h.act hR hS (h.link.signal hR e s))
  | retryDue e => exact .same _ (h.act hR hS (h.link.retryDue hR e))

end Network

end Session.Console

namespace Watched

/-- Everything but the log is the same. -/
structure Agree (w w' : Watched ω) : Prop where
  inner : w.inner = w'.inner
  calls : w.calls = w'.calls

theorem Agree.trans {w w' w'' : Watched ω} (h : Agree w w') (h' : Agree w' w'') : Agree w w'' where
  inner := h.inner.trans h'.inner
  calls := h.calls.trans h'.calls

theorem Agree.dials_eq {w w' : Watched ω} (h : Agree w w') : w.dials = w'.dials := by
  rw [dials, h.calls, dials]

theorem Agree.ask {w w' : Watched ω} (h : Agree w w') (call : α → Call) (f : ω → α × ω) :
    Alike Agree (ask call f w) (ask call f w') := by
  unfold Watched.ask
  rw [h.inner, h.calls]
  exact .same _ ⟨rfl, rfl⟩

theorem Agree.tell {w w' : Watched ω} (h : Agree w w') (call : Call) (f : ω → ω) :
    Agree (tell call f w) (tell call f w') := by
  unfold Watched.tell
  rw [h.inner, h.calls]
  exact ⟨rfl, rfl⟩

theorem network_respects [Network ω] : Network.Respects (Agree (ω := ω)) where
  note _ _ _ h := ⟨h.inner, h.calls⟩
  dial _ _ _ _ h := h.ask _ _
  transmit _ _ _ _ h := h.ask _ _
  hangUp _ _ _ h := h.tell _ _
  release _ _ _ h := h.tell _ _
  schedule _ _ _ _ h := h.ask _ _
  cancel _ _ _ h := h.tell _ _

theorem screen_respects [Screen ω] : Screen.Respects (Agree (ω := ω)) where
  append _ _ _ _ h := h.tell _ _
  clear h := h.tell _ _
  scrollToEnd h := h.tell _ _
  focus h := h.tell _ _
  report _ _ _ h := h.tell _ _

end Watched

theorem Session.Console.Like.trans {c c' c'' : Console (Watched ω)}
    (h : Like Watched.Agree c c') (h' : Like Watched.Agree c' c'') : Like Watched.Agree c c'' := by
  obtain ⟨s, hw⟩ := h
  obtain ⟨_, hw'⟩ := h'
  exact ⟨s, hw.trans hw'⟩

end WebTerminal
