import WebTerminal.Proofs.Browser.Likeness

/-! # Messages that arrive during a send

A page with an echo delivers a message before a send returns, while an operation is at work on the
session. The message is dropped as a whole: apart from what is logged of it, nothing tells a run
with echoes from the same run without. -/

namespace WebTerminal

open Session (Console)

namespace Browser

/-! ## Sessions that are lent -/

/-- A page and the session on it, unless that one is lent to an operation. -/
structure Desk where
  page : Page
  session? : Option Session

namespace Desk

def map (f : Page → Page) (d : Desk) : Desk := { d with page := f d.page }

def ask {α : Type} (f : Page → α × Page) (d : Desk) : α × Desk :=
  ((f d.page).1, { d with page := (f d.page).2 })

/-- The session is back after an operation. -/
def returned (k : Console Page) : Desk := ⟨k.world, some k.session⟩

/-- What the page wants of a session that is lent is dropped. -/
def callback (o : Session.Operation) (d : Desk) : Desk :=
  match d.session? with
  | some s => returned ((⟨s, d.page⟩ : Console Page).perform o).2
  | none => d.map (·.note .sessionBusy)

/-- A message on a socket, if the socket has the handler for it. -/
def message (s : SocketId) (text : String) (d : Desk) : Desk :=
  match d.page.sockets[s.index]? with
  | some socket =>
    if .message ∈ socket.handlers then
      d.callback (.signal socket.epoch (.message (Utf8.encode text.toList)))
    else d
  | none => d

/-- A send as it is on a page without an echo. -/
def post (s : SocketId) (f : Frame) (p : Page) : Except TransportError Unit × Page :=
  let sent := ({ p with echo? := none } : Page).transmit s f
  (sent.1, { sent.2 with echo? := p.echo? })

/-- Before a send that succeeds returns, the page delivers its echo as a message. -/
def transmit (s : SocketId) (f : Frame) (d : Desk) : Except TransportError Unit × Desk :=
  let sent := d.ask (post s f)
  match sent.1, sent.2.page.echo? with
  | .ok (), some text => (.ok (), sent.2.message s text)
  | _, _ => sent

instance : Network Desk where
  note n := map (·.note n)
  dial url e := ask (·.dial url e)
  transmit := transmit
  hangUp s := map (·.hangUp s)
  release s := map (·.detach s)
  schedule delay e := ask (·.schedule delay e)
  cancel t := map (·.cancel t)

instance : Screen Desk where
  append text style := map (·.append text style)
  clear := map Page.clear
  scrollToEnd := map Page.scrollToEnd
  focus := map Screen.focus
  report s := map (·.report s)

/-- Lends the session to the operation and takes it back. -/
def perform (o : Session.Operation) (s : Session) (p : Page) : Session.Answer × Desk :=
  let done := (⟨s, ⟨p, none⟩⟩ : Console Desk).perform o
  (done.1, returned ⟨done.2.session, done.2.world.page⟩)

/-- While its session is lent, a desk is no more than its page. -/
def Lends (d : Desk) (p : Page) : Prop := d = ⟨p, none⟩

theorem post_of_throws {p : Page} {v : Thrown} (h : p.throws .send = some v) (s : SocketId)
    (f : Frame) : post s f p = (.error (.send v.message), p) := by
  simp only [post, Page.transmit, h]

theorem post_of_not_throws {p : Page} (h : p.throws .send = none) (s : SocketId) (f : Frame) :
    ∃ call, post s f p = (.ok (), p.record call) ∧
      p.transmit s f = (.ok (), (p.record call).echo s) := by
  simp only [post, Page.transmit, h]
  exact ⟨_, rfl, rfl⟩

theorem message_lent (s : SocketId) (text : String) (p : Page) :
    message s text ⟨p, none⟩ = ⟨if p.hears s .message then p.note .sessionBusy else p, none⟩ := by
  unfold message Page.hears
  dsimp only
  cases p.sockets[s.index]? with
  | none => rfl
  | some socket =>
    by_cases hm : .message ∈ socket.handlers
    · simp [hm, callback, map]
    · simp [hm]

theorem transmit_lends (s : SocketId) (f : Frame) (p : Page) :
    Alike Lends (transmit s f ⟨p, none⟩) (p.transmit s f) := by
  unfold transmit ask
  cases ht : p.throws .send with
  | some v =>
    simp only [post_of_throws ht, Page.transmit, ht]
    exact .same _ rfl
  | none =>
    obtain ⟨call, hpost, htransmit⟩ := post_of_not_throws ht s f
    rw [htransmit]
    simp only [hpost]
    have hecho : (p.record call).echo? = p.echo? := rfl
    rw [Page.echo, hecho]
    cases p.echo? with
    | none => exact .same _ rfl
    | some text =>
      -- the message finds the session lent, so that only the notice of the page is left
      simp only [message_lent]
      exact .same _ rfl

theorem Lends.map {d : Desk} {p : Page} (h : Lends d p) (f : Page → Page) :
    Lends (d.map f) (f p) := by
  obtain rfl := h
  rfl

theorem Lends.ask {d : Desk} {p : Page} (h : Lends d p) {α : Type} (f : Page → α × Page) :
    Alike Lends (d.ask f) (f p) := by
  obtain rfl := h
  exact ⟨rfl, rfl⟩

theorem network_lends : Network.Respects Lends where
  note _ _ _ h := h.map _
  dial _ _ _ _ h := h.ask _
  transmit s f d p h := by
    obtain rfl := h
    exact transmit_lends s f p
  hangUp _ _ _ h := h.map _
  release _ _ _ h := h.map _
  schedule _ _ _ _ h := h.ask _
  cancel _ _ _ h := h.map _

theorem screen_lends : Screen.Respects Lends where
  append _ _ _ _ h := h.map _
  clear h := h.map _
  scrollToEnd h := h.map _
  focus h := h.map _
  report _ _ _ h := h.map _

/-- An operation comes to the same as on a page that drops its echoes by itself. -/
theorem perform_eq (o : Session.Operation) (s : Session) (p : Page) :
    let done := (⟨s, p⟩ : Console Page).perform o
    perform o s p = (done.1, returned done.2) := by
  intro done
  have hlent : Console.Like Lends ⟨s, ⟨p, none⟩⟩ ⟨s, p⟩ := .mk s rfl
  obtain ⟨ha, hk⟩ := hlent.perform network_lends screen_lends o
  have hworld : ((⟨s, ⟨p, none⟩⟩ : Console Desk).perform o).2.world = ⟨done.2.world, none⟩ :=
    hk.world
  unfold perform
  dsimp only
  rw [ha, hk.session, hworld]

/-- A session that is not lent takes the message as it takes any other. -/
theorem message_free (s : SocketId) (text : String) (c : Client) (p : Page) :
    let d := message s text ⟨p, some c.session⟩
    ((⟨p, some c⟩ : Browser).socket (some s) (.message (.text text))).2 =
      ⟨d.page, d.session?.map fun session => { c with session }⟩ := by
  intro d
  unfold Browser.socket d message
  dsimp only [Option.getD_some]
  cases p.sockets[s.index]? with
  | none => rfl
  | some socket =>
    dsimp only
    by_cases hm : .message ∈ socket.handlers
    · rw [if_pos hm]
      exact congrArg Prod.snd (if_pos hm)
    · rw [if_neg hm]
      exact congrArg Prod.snd (if_neg hm)

end Desk

/-! ## Runs without echoes -/

/-- Whether a step only turns the echo on or off. -/
def Step.isEcho : Step → Bool
  | .setEcho _ => true
  | _ => false

namespace Page

/-- A page without its echo and without what is logged of echoes. -/
def unechoed (p : Page) : Page :=
  { p with echo? := none, journal := p.journal.filter (· ≠ .sessionBusy) }

/-- The second page differs from the first in its echo and in what is logged of echoes, and in
nothing else. -/
inductive SameUnechoed (p : Page) : Page → Prop where
  | mk (echo? : Option String) {journal : List Notice}
      (h : journal.filter (· ≠ .sessionBusy) = p.journal.filter (· ≠ .sessionBusy)) :
      SameUnechoed p { p with echo?, journal }

namespace SameUnechoed

variable {p p' : Page}

theorem unechoed_eq (h : SameUnechoed p p') : p.unechoed = p'.unechoed := by
  obtain ⟨echo?, hj⟩ := h
  simp only [unechoed, hj]

theorem note (h : SameUnechoed p p') (n : Notice) : SameUnechoed (p.note n) (p'.note n) := by
  obtain ⟨echo?, hj⟩ := h
  refine .mk echo? ?_
  simp only [Page.note, List.filter_append, hj]

theorem whim (h : SameUnechoed p p') : Alike SameUnechoed p.whim p'.whim := by
  obtain ⟨echo?, hj⟩ := h
  unfold Page.whim
  dsimp only
  cases hw : p.whims with
  | nil => exact .same _ (hw ▸ .mk echo? hj)
  | cons throws whims => exact .same _ (.mk echo? hj)

theorem append (h : SameUnechoed p p') (text : String) (style : Session.Style) :
    SameUnechoed (p.append text style) (p'.append text style) := by
  obtain ⟨throws, q, q', hq, hq', hw⟩ := h.whim.exists_eq
  unfold Page.append
  rw [hq, hq']
  dsimp only
  split
  · exact hw.note _
  · exact hw.note _
  · obtain ⟨echo?, hj⟩ := hw
    exact .mk echo? hj

theorem setText (h : SameUnechoed p p') (id : ElementId) (s : String) :
    SameUnechoed (p.setText id s) (p'.setText id s) := by
  obtain ⟨echo?, hj⟩ := h
  exact .mk echo? hj

theorem report (h : SameUnechoed p p') (s : Session.Status) :
    SameUnechoed (p.report s) (p'.report s) := by
  obtain ⟨throws, q, q', hq, hq', hw⟩ := h.whim.exists_eq
  unfold Page.report Page.indicate
  rw [hq, hq']
  dsimp only
  cases throws .classList with
  | some v => exact (hw.note _).setText _ _
  | none =>
    obtain ⟨echo?, hj⟩ := hw
    exact .mk echo? hj

theorem focus (h : SameUnechoed p p') :
    (∃ v, p.focus = .error v ∧ p'.focus = .error v) ∨
      ∃ q q', p.focus = .ok q ∧ p'.focus = .ok q' ∧ SameUnechoed q q' := by
  obtain ⟨echo?, hj⟩ := h
  unfold Page.focus
  dsimp only
  cases p.throws .focus with
  | some v => exact .inl ⟨v, rfl, rfl⟩
  | none => exact .inr ⟨_, _, rfl, rfl, .mk echo? hj⟩

/-- Whether or not there is an echo on either page. -/
theorem echo (h : SameUnechoed p p') (s : SocketId) : SameUnechoed (p.echo s) (p'.echo s) := by
  obtain ⟨echo?, hj⟩ := h
  have hbusy (ns : List Notice) : (ns ++ [Notice.sessionBusy]).filter (· ≠ .sessionBusy) =
      ns.filter (· ≠ .sessionBusy) := by simp
  unfold Page.echo
  -- one page may note that the session is busy where the other does not
  split <;> split
  · exact .mk echo? ((hbusy _).trans (hj.trans (hbusy _).symm))
  · exact .mk echo? (hj.trans (hbusy _).symm)
  · exact .mk echo? ((hbusy _).trans hj)
  · exact .mk echo? hj

theorem transmit (h : SameUnechoed p p') (s : SocketId) (f : Frame) :
    Alike SameUnechoed (p.transmit s f) (p'.transmit s f) := by
  obtain ⟨echo?, hj⟩ := h
  unfold Page.transmit
  dsimp only
  cases p.throws .send with
  | some v => exact .same _ (.mk echo? hj)
  | none =>
    have hr (call : Call) : SameUnechoed (p.record call) _ := .mk echo? hj
    exact .same _ ((hr _).echo s)

theorem dial (h : SameUnechoed p p') (url : String) (e : Epoch) :
    Alike SameUnechoed (p.dial url e) (p'.dial url e) := by
  obtain ⟨echo?, hj⟩ := h
  unfold Page.dial
  dsimp only
  cases p.throws .socket with
  | some v => exact .same _ (.mk echo? hj)
  | none => exact .same _ (.mk echo? hj)

theorem hangUp (h : SameUnechoed p p') (s : SocketId) :
    SameUnechoed (p.hangUp s) (p'.hangUp s) := by
  obtain ⟨echo?, hj⟩ := h
  have hd : SameUnechoed ((p.detach s).record (.close s)) _ := .mk echo? hj
  unfold Page.hangUp
  dsimp only [record, detach]
  cases p.throws .close with
  | some v => exact hd.note _
  | none => exact hd

theorem cancel (h : SameUnechoed p p') (t : TimerId) :
    SameUnechoed (p.cancel t) (p'.cancel t) := by
  obtain ⟨echo?, hj⟩ := h
  unfold Page.cancel
  dsimp only
  split
  · exact .mk echo? hj
  · exact .mk echo? hj

/-- The echo of one page alone may be turned on or off. -/
theorem withEcho (h : SameUnechoed p p') (text? : Option String) :
    SameUnechoed { p with echo? := text? } p' := by
  obtain ⟨echo?, hj⟩ := h
  exact .mk echo? hj

end SameUnechoed

theorem screen_unechoed : Screen.Respects SameUnechoed where
  append text style _ _ h := h.append text style
  clear h := by
    obtain ⟨echo?, hj⟩ := h
    exact .mk echo? hj
  scrollToEnd h := by
    obtain ⟨echo?, hj⟩ := h
    exact .mk echo? hj
  focus h := by
    simp only [Screen.focus]
    rcases h.focus with ⟨v, hv, hv'⟩ | ⟨q, q', hq, hq', hp⟩
    · rw [hv, hv']
      exact h.note _
    · rw [hq, hq']
      exact hp
  report s _ _ h := h.report s

theorem network_unechoed : Network.Respects SameUnechoed where
  note n _ _ h := h.note n
  dial url e _ _ h := h.dial url e
  transmit s f _ _ h := h.transmit s f
  hangUp s _ _ h := h.hangUp s
  release s p p' h := by
    obtain ⟨echo?, hj⟩ := h
    exact .mk echo? hj
  schedule delay e p p' h := by
    obtain ⟨echo?, hj⟩ := h
    exact .same _ (.mk echo? hj)
  cancel t _ _ h := h.cancel t

theorem sameUnechoed_respects : Page.Respects SameUnechoed where
  perform o _ _ h := h.perform network_unechoed screen_unechoed o
  note n _ _ h := h.note n
  setText id s _ _ h := h.setText id s
  focus c p p' h := by
    have hasked : (do p.requireDocument; p.requireHtml .terminal) =
        (do p'.requireDocument; p'.requireHtml .terminal) := by
      obtain ⟨echo?, hj⟩ := h
      rfl
    unfold Terminal.focus
    dsimp only
    rw [hasked]
    generalize (do p'.requireDocument; p'.requireHtml .terminal) = asked
    cases asked with
    | error r => exact h.note _
    | ok =>
      rcases h.focus with ⟨v, hv, hv'⟩ | ⟨q, q', hq, hq', hp⟩
      · rw [hv, hv']
        exact h.note _
      · rw [hq, hq']
        exact hp
  clicked c? p p' h := by
    unfold Browser.clicked
    dsimp only
    rcases h.focus with ⟨v, hv, hv'⟩ | ⟨q, q', hq, hq', hp⟩
    · rw [hv, hv']
      exact h
    · rw [hq, hq']
      exact hp
  throws binding p p' h := by
    obtain ⟨echo?, hj⟩ := h
    rfl
  bound binding p p' h := by
    obtain ⟨echo?, hj⟩ := h
    exact .mk echo? hj
  unlisten l p p' h := by
    obtain ⟨echo?, hj⟩ := h
    exact .mk echo? hj
  prepare config? p p' h := by
    obtain ⟨echo?, hj⟩ := h
    rfl
  present id p p' h := by
    obtain ⟨echo?, hj⟩ := h
    rfl
  listenersTo target? p p' h := by
    obtain ⟨echo?, hj⟩ := h
    rfl
  sockets h := by
    obtain ⟨echo?, hj⟩ := h
    rfl
  timers h := by
    obtain ⟨echo?, hj⟩ := h
    rfl
  withTimers ts p p' h := by
    obtain ⟨echo?, hj⟩ := h
    exact .mk echo? hj
  setThrow hazard v? p p' h := by
    obtain ⟨echo?, hj⟩ := h
    exact .mk echo? hj
  setEcho text? p p' h := by
    obtain ⟨echo?, hj⟩ := h
    exact .mk text? hj
  remove id p p' h := by
    obtain ⟨echo?, hj⟩ := h
    exact .mk echo? hj

end Page

variable {b b' : Browser}

theorem Like.echo (h : Like Page.SameUnechoed b b') {s : Step} (hs : s.isEcho = true) :
    Like Page.SameUnechoed (b.perform s).2 b' := by
  cases s with
  | setEcho text? => exact ⟨h.client, h.page.withEcho text?⟩
  | _ => cases hs

/-- An operation on a session that is lent comes to what it comes to on a page that only logs its
echoes, and a run is as it would be if the page never had an echo. -/
theorem run_unechoed (o : Session.Operation) (s : Session) (p : Page) (ss : List Step) :
    (let done := (⟨s, p⟩ : Console Page).perform o
     Desk.perform o s p = (done.1, .returned done.2)) ∧
    observed Page.unechoed Step.isEcho ss { page := p } =
      observed Page.unechoed Step.isEcho (ss.filter fun s => !s.isEcho)
        { page := { p with echo? := none } } := by
  refine ⟨Desk.perform_eq o s p, ?_⟩
  have hl : Like Page.SameUnechoed { page := p } { page := { p with echo? := none } } :=
    ⟨rfl, .mk none rfl⟩
  exact hl.observed_eq Page.sameUnechoed_respects Page.SameUnechoed.unechoed_eq
    (fun hs hb => hb.echo hs) ss

/-- The echo of a key is dropped, though a message that the page sends by itself is counted. -/
example :
    let ss : List Step :=
      [.create none, .setEcho (some "echo"), .request .start, .socket none .opened,
        .keydown (some { key := "a" }), .socket none (.message (.text "hi"))]
    let after := (run ss { page := {} }).2
    after.page.journal.count .sessionBusy = 1 ∧
      after.client?.map (fun c => c.session.statistics.counters.bytesReceived) = some 2 := by
  decide +kernel

end Browser

end WebTerminal
