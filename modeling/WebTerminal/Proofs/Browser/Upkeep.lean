import WebTerminal.Proofs.Browser.Happens
import WebTerminal.Proofs.Browser.Tally

/-! # Upkeep of a page

Whatever a page throws, the session on it has handlers on the socket that it holds and a timer for
the retry that it waits for, and nothing else. A client that is made finds neither on the page, and
leaves neither behind. -/

namespace WebTerminal

open Session (Console)
open Connection (Attached Coherent Tended)

namespace Browser

/-- No socket has a handler and no timer is set. -/
structure Page.Quiet (p : Page) : Prop where
  handlers : ∀ k ∈ p.sockets, k.handlers = []
  timers : p.timers = []

/-- The handlers and the timers on the page are those that the connection needs. -/
structure Tidy (k : Console Page) : Prop where
  coherent : Coherent k.session.connection
  attached : Attached k.session.connection k.world.sockets
  tended : ∃ fired ts, ts.live = k.world.timers ∧ Tended True fired k.session.connection ts

variable {k k' : Console Page} {p p' : Page} {calls : List WebTerminal.Call}

/-! ## What an operation keeps -/

theorem Page.unshown_timers : Console.Unshown Page.timers where
  showing hf p := (keeps_showing hf p).timers
  report s p := (keeps_report s p).timers

/-- The timers of the page are those that are live. -/
theorem Page.timers_of_made (h : Made p calls p') {ts : Timers} (hts : ts.live = p.timers) :
    (calls.foldl Timers.after ts).live = p'.timers := by
  induction h generalizing ts with
  | nil => exact hts
  | note _ _ ih | release _ ih => exact ih hts
  | @dial p _ calls url e r hr _ ih =>
    subst hr
    apply ih
    change ts.live = (p.dial url e).2.timers
    unfold dial
    split <;> exact hts
  | @transmit p _ calls s f r hr _ ih =>
    subst hr
    exact ih (hts.trans (keeps_transmit s f p).timers.symm)
  | @hangUp p _ calls s _ ih => exact ih (hts.trans (hangUp_keeps s p).timers.symm)
  | @schedule p _ calls delay e r hr _ ih =>
    subst hr
    exact ih (congrArg (· ++ [_]) hts)
  | @cancel p _ calls t _ ih =>
    apply ih
    change ts.live.filter _ = (p.cancel t).timers
    rw [(cancel_eq t p).2.1, hts]

namespace Tidy

theorem shown (h : Tidy k) (hs : Shown k k') : Tidy k' where
  coherent := by
    rw [hs.session]
    exact h.coherent
  attached := by
    rw [hs.session, hs.page.sockets]
    exact h.attached
  tended := by
    rw [hs.session, hs.page.timers]
    exact h.tended

/-- Whatever else becomes of the page. -/
theorem withPage (h : Tidy k) (hs : p.sockets = k.world.sockets)
    (ht : p.timers = k.world.timers) : Tidy { k with world := p } where
  coherent := h.coherent
  attached := by
    rw [hs]
    exact h.attached
  tended := by
    rw [ht]
    exact h.tended

/-- What every move of the connection keeps of the timers, an operation on the session keeps. -/
theorem of_moves {o : Session.Operation} {c : Connection.Operation} (hl : k.linked? o = some c)
    (hc : Coherent k.session.connection) (ha : Attached k.session.connection k.world.sockets)
    (fired : List TimerId) (ts : Timers) (hts : ts.live = k.world.timers)
    (h : ∀ {a calls c'}, Connection.Move k.session.connection c a calls c' →
      Tended True fired c' (calls.foldl Timers.after ts)) : Tidy (k.perform o).2 where
  coherent := Console.coherent_perform o hc
  attached := Console.attached_perform o ha
  tended := by
    obtain ⟨l, hlc, hlt, hc', ht'⟩ := Console.perform_link Page.unshown_timers o k
    obtain ⟨calls, hm, hmade⟩ := l.perform_moves c
    rw [hl] at hc' ht'
    rw [hlc] at hm
    rw [hc', ht']
    exact ⟨fired, _, Page.timers_of_made hmade (hts.trans hlt.symm), h hm⟩

theorem perform (h : Tidy k) {o : Session.Operation} (ho : ∀ e, o ≠ .retryDue e) :
    Tidy (k.perform o).2 := by
  obtain ⟨fired, ts, hts, ht⟩ := h.tended
  cases hl : k.linked? o with
  | none =>
    obtain ⟨l, hlc, hlt, hc', ht'⟩ := Console.perform_link Page.unshown_timers o k
    rw [hl] at hc' ht'
    refine ⟨Console.coherent_perform o h.coherent, Console.attached_perform o h.attached,
      fired, ts, ?_, ?_⟩
    · rw [ht', hts]
      exact hlt.symm
    · exact ht.congr (congrArg Connection.retry? (hc'.trans hlc))
  | some c =>
    refine of_moves hl h.coherent h.attached fired ts hts fun hm => hm.tended ?_ ht
    rintro e rfl
    exact absurd (Console.linked_eq_retryDue hl) (ho e)

/-- The timer that is taken off the page is the one waited for. -/
theorem fire (h : Tidy k) {t : Timer} (ht : k.world.takeTimer = some (t, p)) :
    Tidy (({ k with world := p } : Console Page).perform (.retryDue t.epoch)).2 := by
  obtain ⟨fired, ts, hts, htended⟩ := h.tended
  unfold Page.takeTimer at ht
  rcases htended.live_cases with hlive | ⟨t', hlive, hr⟩
  · rw [← hts, hlive] at ht
    cases ht
  · rw [← hts, hlive] at ht
    cases ht
    exact of_moves rfl h.coherent h.attached _ { ts with live := [] } rfl fun hm =>
      hm.tended_retry (h.coherent.awaits_retry hr) (htended.popped hr)

theorem comes (h : Tidy k) (hc : Comes k k') : Tidy k' := by
  cases hc with
  | happens ho hh =>
    cases hh with
    | shown hs => exact h.shown hs
    | performed o hs hs' =>
      have hnot (e : Epoch) : o ≠ .retryDue e := fun he => ho e (congrArg some he)
      exact ((h.shown hs).perform hnot).shown hs'
  | fired t p ht => exact h.fire ht
  | changed p hs ht => exact h.withPage hs ht

end Tidy

/-! ## Clients that come and go -/

namespace Tidy

theorem new (h : p.Quiet) (config : Config) (url : String) : Tidy ⟨config.session url, p⟩ where
  coherent := Connection.coherent_new url config.policy
  attached := by
    constructor
    · intro s hs
      cases hs
    · intro i k hk
      exact h.handlers k (List.mem_of_getElem? hk)
  tended := by
    refine ⟨[], {}, h.timers.symm, ?_⟩
    constructor <;> simp [Config.session]

/-- A session without a socket and without a retry leaves the page quiet. -/
theorem quiet (h : Tidy k) (hs : k.session.connection.socket? = none)
    (hr : k.session.connection.retry? = none) : k.world.Quiet where
  handlers s hmem := by
    obtain ⟨i, hi⟩ := List.mem_iff_getElem?.mp hmem
    rw [h.attached.handlers i s hi, hs]
    rfl
  timers := by
    obtain ⟨_, ts, hts, htended⟩ := h.tended
    rw [← hts]
    exact htended.live_eq_nil hr

/-- The socket that is held has all handlers, as long as the connection is live, and no other socket
has any. -/
theorem handlers_eq (h : Tidy k) (i : Nat) (s : Socket) (hs : k.world.sockets[i]? = some s) :
    s.handlers = if k.session.connection.state.isLive = true ∧
      k.session.connection.socket? = some ⟨i⟩ then Handler.all else [] := by
  rw [h.attached.handlers i s hs]
  refine if_congr ⟨fun hheld => ⟨?_, hheld⟩, And.right⟩ rfl rfl
  apply h.coherent.socket_iff.mp
  rw [hheld]
  rfl

theorem exists_socket (h : Tidy k) (hl : k.session.connection.state.isLive = true) :
    ∃ s socket, k.session.connection.socket? = some s ∧
      k.world.sockets[s.index]? = some socket := by
  obtain ⟨s, hs⟩ := Option.isSome_iff_exists.mp (h.coherent.socket_iff.mpr hl)
  obtain ⟨socket, hsocket, -⟩ := h.attached.held s hs
  exact ⟨s, socket, hs, hsocket⟩

theorem timers_length_le (h : Tidy k) : k.world.timers.length ≤ 1 := by
  obtain ⟨_, ts, hts, htended⟩ := h.tended
  rw [← hts]
  exact htended.single

theorem timers_iff (h : Tidy k) :
    k.world.timers ≠ [] ↔ k.session.connection.state = .closed .network ∧
      k.session.connection.retry?.isSome = true := by
  obtain ⟨_, ts, hts, htended⟩ := h.tended
  rw [← hts]
  constructor
  · intro hlive
    rcases htended.live_cases with hnil | ⟨t, -, hr⟩
    · exact absurd hnil hlive
    · refine ⟨(h.coherent.retry_lost _ hr).1, ?_⟩
      rw [hr]
      rfl
  · rintro ⟨-, hr⟩
    exact htended.present trivial hr

theorem shutdown (h : Tidy k) : (k.perform .shutdown).2.world.Quiet := by
  have hc : (k.perform .shutdown).2.session.connection =
      { k.session.connection.cleared.resetPolicy with state := .idle } := by
    change k.link.shutdown.connection = _
    simp only [Connection.Link.shutdown, Connection.Link.enter, Connection.Link.update,
      Connection.Link.connection_clear]
    rfl
  apply (h.perform (by simp)).quiet
  · rw [hc]
    rfl
  · rw [hc]
    rfl

end Tidy

theorem Terminal.dispose_quiet {t : Terminal} (h : Tidy t.console) : t.dispose.page.Quiet :=
  (h.shown t.shown_unlistenAll).shutdown

/-- With a client on it the page is tidy, and without one it is quiet. -/
def Upkept (b : Browser) : Prop := b.console?.elim b.page.Quiet Tidy

variable {b : Browser}

theorem Upkept.discard (h : b.Upkept) : b.discard.page.Quiet := by
  unfold Browser.discard act
  cases hc : b.client? with
  | none =>
    rw [Upkept, console?, hc] at h
    exact h
  | some client =>
    rw [Upkept, console?, hc] at h
    exact Terminal.dispose_quiet (t := ⟨client, b.page⟩) h

/-- Either there is nothing to make a client of, or one is made and bound. One that could not be
bound to all it needs is taken off the page again. -/
theorem Client.create_cases (config? : Option String) (p : Page) :
    (∃ r, create config? p = (.error r, p)) ∨
      ∃ (config : Config) (url : String) (n : Notice) (t : Terminal) (bs : List Terminal.Binding),
        t.console = ⟨config.session url, p.note n⟩ ∧ t.client.listeners = [] ∧
          let t' := (Terminal.bindAll bs t).2
          (create config? p = (.ok t'.client, t'.page) ∨
            ∃ r, create config? p = (.error r, t'.dispose.page)) := by
  unfold create
  cases prepare config? p with
  | error r => exact .inl ⟨r, rfl⟩
  | ok prepared =>
    obtain ⟨config, url⟩ := prepared
    dsimp only
    generalize hn : Notice.clientReady url config.mode = n
    generalize ht : (⟨⟨config.session url, ((p.note n).find? .inputLine).isSome, []⟩, p.note n⟩ :
      Terminal) = t
    refine .inr ⟨config, url, n, t, Terminal.bindings (p.note n), ?_, ?_, ?_⟩
    · rw [← ht]
      rfl
    · rw [← ht]
    · generalize Terminal.bindAll (Terminal.bindings (p.note n)) t = bound
      obtain ⟨_ | v, t'⟩ := bound
      · exact .inl rfl
      · exact .inr ⟨_, rfl⟩

theorem Upkept.create (h : b.Upkept) (config? : Option String) : (b.create config?).2.Upkept := by
  have hquiet := h.discard
  unfold Browser.create
  rcases Client.create_cases config? b.discard.page with
    ⟨r, hr⟩ | ⟨config, url, n, t, bs, ht, -, hcreate⟩
  · rw [hr]
    exact hquiet
  · have hnoted : (b.discard.page.note n).Quiet := ⟨hquiet.handlers, hquiet.timers⟩
    have hnew : Tidy t.console := by
      rw [ht]
      exact .new hnoted config url
    have hbound := hnew.shown (t.shown_bindAll bs)
    rcases hcreate with hok | ⟨r, hr⟩
    · rw [hok]
      exact hbound
    · rw [hr]
      exact Terminal.dispose_quiet hbound

/-! ## Pages without a client -/

theorem Page.Quiet.keeps (h : p.Quiet) (hk : p.Keeps p') : p'.Quiet where
  handlers := by
    rw [hk.sockets]
    exact h.handlers
  timers := hk.timers.trans h.timers

/-- No socket has a handler that could hear of an event. -/
theorem Page.Quiet.socket_eq (h : b.page.Quiet) (s? : Option SocketId) (event : SocketEvent) :
    b.socket s? event = (.flag false, b) := by
  unfold socket
  dsimp only
  split
  · rename_i k hk
    rw [h.handlers k (List.mem_of_getElem? hk), if_neg List.not_mem_nil]
  · rfl

theorem Page.Quiet.timer_eq (h : b.page.Quiet) : b.timer = (.none, b) := by
  unfold timer Page.takeTimer
  rw [h.timers]

/-- There is no client, and the page is quiet. -/
structure Alone (b : Browser) : Prop where
  client : b.client? = none
  quiet : b.page.Quiet

namespace Alone

theorem act_eq (h : Alone b) (f : Terminal → Terminal) : b.act f = b := by
  unfold act
  rw [h.client]

theorem clicked (h : Alone b) (l : Listener) : Alone (b.clicked l) := by
  cases l with
  | keyboard => exact h
  | focus =>
    unfold Browser.clicked
    dsimp only
    split
    · rename_i p hp
      exact ⟨h.client, h.quiet.keeps (Page.keeps_focus hp)⟩
    · exact h
  | clear =>
    unfold Browser.clicked
    rw [h.act_eq]
    exact h

theorem perform (h : Alone b) {s : Step} (hs : s.keepsClient = true) : Alone (b.perform s).2 := by
  cases s with
  | create _ | discard => cases hs
  | request r =>
    change Alone (b.request r).2
    rw [request, h.client]
    exact h
  | keydown k? =>
    change Alone (b.keydown k?).2
    unfold keydown
    rw [h.client]
    cases k? <;> exact h
  | click id => exact click_keeps h id fun h' l => h'.clicked l
  | socket s? event =>
    change Alone (b.socket s? event).2
    rw [h.quiet.socket_eq]
    exact h
  | timer =>
    change Alone b.timer.2
    rw [h.quiet.timer_eq]
    exact h
  | setThrow | setEcho | remove => exact ⟨h.client, h.quiet.handlers, h.quiet.timers⟩

end Alone

theorem upkept_iff_alone (hc : b.client? = none) : b.Upkept ↔ Alone b := by
  rw [Upkept, console?, hc]
  exact ⟨fun h => ⟨hc, h⟩, Alone.quiet⟩

/-! ## Runs -/

theorem Upkept.perform (h : b.Upkept) (s : Step) : (b.perform s).2.Upkept := by
  cases hs : s.keepsClient with
  | false =>
    cases s with
    | create config? => exact h.create config?
    | discard => exact h.discard
    | _ => cases hs
  | true =>
    cases hc : b.client? with
    | none =>
      have halone := ((upkept_iff_alone hc).mp h).perform hs
      exact (upkept_iff_alone halone.client).mpr halone
    | some client =>
      have hk : b.console? = some ⟨client.session, b.page⟩ := by rw [console?, hc]; rfl
      obtain ⟨k', hk', hcomes⟩ := perform_comes hs hk
      rw [Upkept, hk] at h
      rw [Upkept, hk']
      exact Tidy.comes h hcomes

theorem Upkept.run (h : b.Upkept) (ss : List Step) : (run ss b).2.Upkept := by
  induction ss generalizing b with
  | nil => exact h
  | cons s ss ih => exact ih (h.perform s)

/-- Whatever is asked of clients on a page that was quiet, and whatever happens and is thrown there,
handlers and timers are those that the connection needs. Without a client there are none. -/
theorem run_upkeep {p : Page} (hp : p.Quiet) (ss : List Step) :
    let b := (run ss { page := p }).2
    (b.client? = none → b.page.Quiet) ∧
      ∀ client, b.client? = some client →
        let c := client.session.connection
        (∀ i k, b.page.sockets[i]? = some k → k.handlers =
          if c.state.isLive = true ∧ c.socket? = some ⟨i⟩ then Handler.all else []) ∧
        (c.state.isLive = true →
          ∃ s k, c.socket? = some s ∧ b.page.sockets[s.index]? = some k) ∧
        b.page.timers.length ≤ 1 ∧
        (b.page.timers ≠ [] ↔ c.state = .closed .network ∧ c.retry?.isSome = true) := by
  intro b
  have hrun : b.Upkept := Upkept.run (b := { page := p }) hp ss
  constructor
  · intro hc
    exact ((upkept_iff_alone hc).mp hrun).quiet
  · intro client hc c
    rw [Upkept, console?, hc] at hrun
    have htidy : Tidy ⟨client.session, b.page⟩ := hrun
    exact ⟨htidy.handlers_eq, htidy.exists_socket, htidy.timers_length_le, htidy.timers_iff⟩

/-- The first socket cannot be closed without a throw, the second is lost, and the third cannot be
made. -/
theorem run_upkeep_thrown :
    let ss : List Step :=
      [.create none, .setThrow .close (some (.text "no")), .request .start, .socket none .opened,
        .request .reconnect, .setThrow .socket (some (.text "no")),
        .socket none (.closed 1006 false), .timer]
    let b := (run ss {}).2
    ({} : Page).Quiet ∧ b.page.sockets.map Socket.handlers = [[], []] ∧
      ∃ client, b.client? = some client ∧ client.session.connection.state = .closed .network ∧
        b.page.timers.length ≤ 1 ∧ b.page.timers ≠ [] := by
  intro ss b
  have hq : ({} : Page).Quiet := ⟨nofun, rfl⟩
  have hh : b.page.sockets.map Socket.handlers = [[], []] := by decide +kernel
  have hc : b.client?.any (fun client => client.session.connection.awaits ⟨3⟩) = true := by
    decide +kernel
  obtain ⟨client, hclient, hawaits⟩ := (Option.any_eq_true _ _).mp hc
  obtain ⟨hs, r, hr, -⟩ := Connection.awaits_retry hawaits
  obtain ⟨-, -, hle, htimers⟩ := (run_upkeep hq ss).2 client hclient
  refine ⟨hq, hh, client, hclient, hs, hle, htimers.mpr ⟨hs, ?_⟩⟩
  rw [hr]
  rfl

end Browser

end WebTerminal
