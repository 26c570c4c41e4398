import WebTerminal.Proofs.Browser.Upkeep

/-! # Clients that are gone

A client that is disposed or discarded leaves no way back to it: no listener, no handler and no
timer. Whatever happens on the page from then on is not heard, and changes nothing. -/

namespace WebTerminal

open Session (Console)

namespace Browser

/-- Nothing on the page calls a client. -/
structure Page.Vacant (p : Page) : Prop extends Page.Quiet p where
  listeners : p.listeners = []

/-- Whether a step is something that happens on the page. -/
def Step.isEvent : Step → Bool
  | .keydown _ | .click _ | .socket _ _ | .timer => true
  | _ => false

/-- The answer to an event that no listener, handler or timer hears of. -/
def Step.unheard : Step → Answer
  | .keydown _ => .key 0 false
  | .click _ => .reached 0
  | .socket _ _ => .flag false
  | _ => .none

variable {b : Browser} {p p' : Page} {k : Console Page}

/-! ## Events on a vacant page -/

theorem Page.Vacant.listenersTo_eq (h : p.Vacant) (target? : Option ElementId) :
    p.listenersTo target? = [] := by
  unfold listenersTo
  rw [h.listeners]
  split <;> rfl

theorem Page.Vacant.perform_eq (h : b.page.Vacant) {s : Step} (hs : s.isEvent = true) :
    b.perform s = (s.unheard, b) := by
  cases s with
  | keydown k? =>
    change b.keydown k? = _
    unfold keydown
    rw [h.listenersTo_eq]
    cases k? <;> cases b.client? <;> rfl
  | click id =>
    change b.click id = _
    unfold click
    rw [h.listenersTo_eq]
    rfl
  | socket s? event => exact h.toQuiet.socket_eq s? event
  | timer => exact h.toQuiet.timer_eq
  | _ => cases hs

theorem Page.Vacant.run_eq (h : b.page.Vacant) {events : List Step}
    (he : ∀ e ∈ events, e.isEvent = true) : run events b = (events.map Step.unheard, b) := by
  induction events with
  | nil => rfl
  | cons e events ih =>
    obtain ⟨hone, hrest⟩ := List.forall_mem_cons.mp he
    rw [run, h.perform_eq hone, ih hrest]
    rfl

/-! ## Listeners -/

namespace Page

theorem listeners_focus (h : p.focus = .ok p') : p'.listeners = p.listeners := by
  unfold focus at h
  split at h
  · cases h
  · cases h
    rfl

theorem listeners_whim (p : Page) : p.whim.2.listeners = p.listeners := by
  unfold whim
  split <;> rfl

theorem listeners_takeTimer {t : Timer} (h : p.takeTimer = some (t, p')) :
    p'.listeners = p.listeners := by
  unfold takeTimer at h
  split at h
  · cases h
  · cases h
    rfl

theorem listeners_echo (s : SocketId) (p : Page) : (p.echo s).listeners = p.listeners := by
  unfold echo
  split <;> rfl

theorem unshown_listeners : Console.Unshown Page.listeners where
  showing hf p := by
    cases hf with
    | append text style =>
      change (p.append text style).listeners = _
      rw [← listeners_whim p]
      unfold append
      dsimp only
      split <;> rfl
    | focus =>
      simp only [Screen.focus]
      split
      · rename_i h
        exact listeners_focus h
      · rfl
    | note | clear | scrollToEnd => rfl
  report s p := by
    change (p.indicate s.isConnected).listeners = _
    rw [← listeners_whim p]
    unfold indicate
    dsimp only
    split <;> rfl

/-- The network has nothing to do with listeners. -/
theorem listeners_of_made {calls : List WebTerminal.Call} (h : Made p calls p') :
    p'.listeners = p.listeners := by
  induction h with
  | nil => rfl
  | note _ _ ih | release _ ih => exact ih
  | @dial p _ _ url e _ hr _ ih =>
    subst hr
    rw [ih]
    change (p.dial url e).2.listeners = _
    unfold dial
    split <;> rfl
  | @transmit p _ _ s f _ hr _ ih =>
    subst hr
    rw [ih]
    change (p.transmit s f).2.listeners = _
    unfold transmit
    split
    · rfl
    · exact listeners_echo s _
  | @hangUp p _ _ s _ ih =>
    rw [ih]
    change (p.hangUp s).listeners = _
    unfold hangUp
    dsimp only
    split <;> rfl
  | schedule hr _ ih =>
    subst hr
    exact ih
  | @cancel p _ _ t _ ih =>
    rw [ih]
    change (p.cancel t).listeners = _
    unfold cancel
    split <;> rfl

theorem listeners_perform (o : Session.Operation) (k : Console Page) :
    (k.perform o).2.world.listeners = k.world.listeners := by
  obtain ⟨l, -, hl, -, hl'⟩ := Console.perform_link unshown_listeners o k
  rw [hl', ← hl]
  cases k.linked? o with
  | none => rfl
  | some c =>
    obtain ⟨calls, -, hmade⟩ := l.perform_moves c
    exact listeners_of_made hmade

end Page

namespace Terminal

/-- The client knows the listeners on the page, and there are no others. -/
def Listens (t : Terminal) : Prop := t.page.listeners = t.client.listeners

variable {t : Terminal}

namespace Listens

theorem withPage (h : t.Listens) (hp : p.listeners = t.page.listeners) : (t.withPage p).Listens :=
  hp.trans h

theorem perform (h : t.Listens) (o : Session.Operation) :
    (t.act fun k => (k.perform o).2).Listens := (Page.listeners_perform o t.console).trans h

theorem focus (h : t.Listens) : t.focus.Listens := by
  unfold Terminal.focus
  split
  · exact h
  · split
    · exact h
    · rename_i hp
      exact h.withPage (Page.listeners_focus hp)

theorem press (h : t.Listens) (k : Keystroke) : (t.press k).2.Listens := by
  have hpressed := h.perform (.press k)
  change ((t.act fun c => (c.press k).2).showLine).Listens
  unfold showLine
  split
  · exact hpressed
  · exact hpressed

/-- Every listener that was put on the page is taken off again. -/
theorem unlistenAll (h : t.Listens) : t.unlistenAll.page.listeners = [] := by
  rw [unlistenAll_page]
  have hperm : t.page.listeners.Perm (t.client.listeners ++ []) := by
    rw [List.append_nil, show t.page.listeners = t.client.listeners from h]
  exact (foldl_erase_perm hperm).eq_nil

theorem dispose_page (h : t.Listens) : t.dispose.page.listeners = [] :=
  (Page.listeners_perform .shutdown t.unlistenAll.console).trans h.unlistenAll

theorem dispose (h : t.Listens) : t.dispose.Listens := h.dispose_page

theorem answerRequest (h : t.Listens) (r : Request) : (answerRequest r t).2.Listens := by
  cases r with
  | start => exact (h.perform .start).focus
  | press k => exact h.press k
  | clear => exact h.perform .clear
  | close => exact h.perform .close
  | reconnect => exact h.perform .reconnect
  | dispose => exact h.dispose
  | pendingLine | isConnected | statistics => exact h

theorem bindAll (h : t.Listens) (bs : List Binding) : (bindAll bs t).2.Listens := by
  obtain ⟨done, -, hdone, -⟩ := bindAll_bound bs t
  rw [hdone]
  exact congrArg (· ++ done.filterMap Binding.listener?) h

end Listens

end Terminal

/-- The listeners on the page are those of the client, if there is one. -/
def Heard (b : Browser) : Prop := b.page.listeners = b.client?.elim [] Client.listeners

namespace Heard

theorem withPage (h : b.Heard) (hp : p.listeners = b.page.listeners) :
    ({ b with page := p } : Browser).Heard := hp.trans h

theorem act (h : b.Heard) {f : Terminal → Terminal} (hf : ∀ t, t.Listens → (f t).Listens) :
    (b.act f).Heard := by
  unfold Browser.act
  cases hc : b.client? with
  | none => exact h
  | some client =>
    rw [Heard, hc] at h
    exact hf ⟨client, b.page⟩ h

theorem keydown (h : b.Heard) (k? : Option Keystroke) : (b.keydown k?).2.Heard := by
  unfold Browser.keydown
  dsimp only
  split
  · rename_i _ k client _ hc _
    rw [Heard, hc] at h
    exact Terminal.Listens.press (t := ⟨client, b.page⟩) h k
  · exact h

theorem clicked (h : b.Heard) (l : Listener) : (b.clicked l).Heard := by
  cases l with
  | keyboard => exact h
  | focus =>
    unfold Browser.clicked
    dsimp only
    split
    · rename_i hp
      exact h.withPage (Page.listeners_focus hp)
    · exact h
  | clear => exact h.act fun _ ht => ht.perform .clear

theorem hear (h : b.Heard) (e : Epoch) (event : SocketEvent) : (b.hear e event).Heard := by
  cases event with
  | opened => exact h.act fun _ ht => ht.perform (.signal e .opened)
  | error => exact h.act fun _ ht => ht.perform (.signal e (.error "error"))
  | closed code clean =>
    have hnoted : ({ b with page := b.page.note (.socketClosed code clean) } : Browser).Heard := h
    exact hnoted.act fun _ ht => ht.perform (.signal e .closed)
  | message payload =>
    unfold Browser.hear
    dsimp only
    split
    · rename_i chunk _
      exact h.act fun _ ht => ht.perform (.signal e (.message chunk))
    · exact h

theorem socket (h : b.Heard) (s? : Option SocketId) (event : SocketEvent) :
    (b.socket s? event).2.Heard := by
  unfold Browser.socket
  dsimp only
  split
  · split
    · exact h.hear _ event
    · exact h
  · exact h

theorem timer (h : b.Heard) : b.timer.2.Heard := by
  unfold Browser.timer
  split
  · exact h
  · rename_i t p ht
    have htaken := h.withPage (Page.listeners_takeTimer ht)
    exact htaken.act fun _ ht => ht.perform (.retryDue t.epoch)

theorem discard (h : b.Heard) : b.discard.Heard := by
  unfold Browser.discard Browser.act
  cases hc : b.client? with
  | none =>
    rw [Heard, hc] at h
    exact h
  | some client =>
    rw [Heard, hc] at h
    exact Terminal.Listens.dispose_page (t := ⟨client, b.page⟩) h

theorem create (h : b.Heard) (config? : Option String) : (b.create config?).2.Heard := by
  have hnone : b.discard.page.listeners = [] := h.discard
  unfold Browser.create
  rcases Client.create_cases config? b.discard.page with
    ⟨r, hr⟩ | ⟨config, url, n, t, bs, ht, hl, hcreate⟩
  · rw [hr]
    exact hnone
  · have hnew : t.Listens := by
      have hpage : t.page = b.discard.page.note n := congrArg Console.world ht
      rw [Terminal.Listens, hpage, hl]
      exact hnone
    have hbound := hnew.bindAll bs
    rcases hcreate with hok | ⟨r, hr⟩
    · rw [hok]
      exact hbound
    · rw [hr]
      exact hbound.dispose_page

theorem perform (h : b.Heard) (s : Step) : (b.perform s).2.Heard := by
  cases s with
  | create config? => exact h.create config?
  | discard => exact h.discard
  | request r =>
    change (b.request r).2.Heard
    rw [request_eq_act]
    exact h.act fun _ ht => ht.answerRequest r
  | keydown k? => exact h.keydown k?
  | click id => exact click_keeps h id fun h' l => h'.clicked l
  | socket s? event => exact h.socket s? event
  | timer => exact h.timer
  | setThrow | setEcho | remove => exact h

theorem run (h : b.Heard) (ss : List Step) : (run ss b).2.Heard := by
  induction ss generalizing b with
  | nil => exact h
  | cons s ss ih => exact ih (h.perform s)

end Heard

/-! ## The end of a client -/

theorem run_concat (ss : List Step) (s : Step) (b : Browser) :
    (run (ss ++ [s]) b).2 = ((run ss b).2.perform s).2 := by
  induction ss generalizing b with
  | nil => rfl
  | cons s' ss ih => exact ih (b.perform s').2

theorem discard_vacant (h : b.Upkept) (hl : b.Heard) : b.discard.page.Vacant where
  toQuiet := h.discard
  listeners := hl.discard

/-- To dispose of a client does to the page what it does to discard it. -/
theorem dispose_vacant (h : b.Upkept) (hl : b.Heard) :
    (b.request .dispose).2.page.Vacant := by
  rw [request_eq_act]
  exact discard_vacant h hl

/-- Once the last client on a page is disposed or discarded, nothing that happens there is heard,
and nothing changes on the page or in the client. -/
theorem run_after_teardown {p : Page} (hp : p.Vacant) (ss : List Step) {last : Step}
    (hl : last = .discard ∨ last = .request .dispose) {events : List Step}
    (he : ∀ e ∈ events, e.isEvent = true) :
    let b := (run (ss ++ [last]) { page := p }).2
    run events b = (events.map Step.unheard, b) := by
  intro b
  have hupkept : (run ss { page := p }).2.Upkept := Upkept.run (b := { page := p }) hp.toQuiet ss
  have hheard : (run ss { page := p }).2.Heard := Heard.run (b := { page := p }) hp.listeners ss
  have hvacant : b.page.Vacant := by
    change (run (ss ++ [last]) { page := p }).2.page.Vacant
    rw [run_concat]
    rcases hl with rfl | rfl
    · exact discard_vacant hupkept hheard
    · exact dispose_vacant hupkept hheard
  exact hvacant.run_eq he

/-- A client that is disposed while it waits for a retry. -/
theorem run_after_teardown_waiting :
    let ss : List Step :=
      [.create none, .request .start, .socket none .opened, .keydown (some { key := "a" }),
        .socket none (.closed 1006 false)]
    let b := (run (ss ++ [.request .dispose]) {}).2
    let events : List Step :=
      [.timer, .socket (some ⟨0⟩) .opened, .keydown (some { key := "b" }), .click .terminal,
        .click .clearButton, .socket none (.message (.text "c"))]
    ({} : Page).Vacant ∧ (run ss {}).2.page.timers.length = 1 ∧
      (run ss {}).2.page.listeners = [.keyboard, .focus, .clear] ∧
      run events b = (events.map Step.unheard, b) := by
  intro ss b events
  have hp : ({} : Page).Vacant := ⟨⟨nofun, rfl⟩, rfl⟩
  refine ⟨hp, by decide +kernel, by decide +kernel, ?_⟩
  exact run_after_teardown hp ss (.inr rfl) (by decide)

end Browser

end WebTerminal
