import WebTerminal.Proofs.Browser.Binding
import WebTerminal.Proofs.Browser.World
import WebTerminal.Proofs.Connection.Sockets

/-! # What a step comes to

On a page with a client, a step comes to one operation on its session or to none, and otherwise only
things are shown. A socket that has lost its handlers is one whose reports would be ignored. -/

namespace WebTerminal

open Session (Console)

namespace Browser

/-- The session of the client, on its page. -/
def console? (b : Browser) : Option (Console Page) :=
  b.client?.map fun client => ⟨client.session, b.page⟩

/-- The operation that a request comes to, unless it only reads. -/
def Request.operation? : Request → Option Session.Operation
  | .start => some .start
  | .press k => some (.press k)
  | .clear => some .clear
  | .close => some .close
  | .reconnect => some .reconnect
  | .dispose => some .shutdown
  | .pendingLine | .isConnected | .statistics => none

def SocketEvent.signal? : SocketEvent → Option Connection.Signal
  | .opened => some .opened
  | .message payload => payload.bytes?.map .message
  | .error => some (.error "error")
  | .closed _ _ => some .closed

/-- The socket that an event is for, with handlers or without. -/
def Page.socketAt? (p : Page) (s? : Option SocketId) : Option Socket :=
  p.sockets[(s?.getD ⟨p.sockets.length - 1⟩).index]?

/-- The operation on the session that a step comes to. Sockets report in their epoch, whether they
have handlers or not. -/
def Step.operation? (s : Step) (p : Page) : Option Session.Operation :=
  match s with
  | .request r => r.operation?
  | .keydown k? => if .keyboard ∈ p.listeners then k?.map .press else none
  | .click id => if .clear ∈ p.listenersTo (some id) then some .clear else none
  | .socket s? event => (p.socketAt? s?).bind fun k => event.signal?.map (.signal k.epoch)
  | _ => none

/-- Whether a step leaves the client on the page. -/
def Step.keepsClient : Step → Bool
  | .create _ | .discard => false
  | _ => true

/-- Something is shown, and no more. -/
structure Shown (k k' : Console Page) : Prop where
  session : k'.session = k.session
  page : k.world.Keeps k'.world

/-- The operation is performed, if there is one, and otherwise things are shown. -/
inductive Happens : Option Session.Operation → Console Page → Console Page → Prop where
  | shown {k k' : Console Page} (h : Shown k k') : Happens none k k'
  | performed (o : Session.Operation) {k k₁ k' : Console Page} (h : Shown k k₁)
      (h' : Shown (k₁.perform o).2 k') : Happens (some o) k k'

namespace Shown

variable {k k' k'' : Console Page}

theorem refl (k : Console Page) : Shown k k := ⟨rfl, rfl, rfl, rfl, rfl⟩

theorem symm (h : Shown k k') : Shown k' k where
  session := h.session.symm
  page := ⟨h.page.sockets.symm, h.page.timers.symm, h.page.nextTimer.symm, h.page.throws.symm⟩

theorem trans (h : Shown k k') (h' : Shown k' k'') : Shown k k'' :=
  ⟨h'.session.trans h.session, h.page.trans h'.page⟩

/-- An operation that only shows something might as well not have been performed. -/
theorem happens {o : Session.Operation} (h : Shown k k') (ho : Shown k (k.perform o).2) :
    Happens (some o) k k' := .performed o (.refl k) (ho.symm.trans h)

theorem clear (k : Console Page) : Shown k (k.perform .clear).2 :=
  ⟨rfl, (Page.keeps_showing .clear _).trans (Page.keeps_append _ _ _)⟩

end Shown

/-! ## What the client does -/

namespace Terminal

variable (t : Terminal)

theorem shown_focus : Shown t.console t.focus.console := by
  have note (n : Notice) : Shown t.console (t.withPage (t.page.note n)).console :=
    ⟨rfl, rfl, rfl, rfl, rfl⟩
  unfold focus
  split
  · exact note _
  · split
    · exact note _
    · rename_i p hp
      exact ⟨rfl, Page.keeps_focus hp⟩

theorem shown_showLine : Shown t.console t.showLine.console := by
  unfold showLine
  split
  · exact ⟨rfl, rfl, rfl, rfl, rfl⟩
  · exact .refl _

theorem shown_unlistenAll : Shown t.console t.unlistenAll.console := by
  refine ⟨rfl, ?_⟩
  change t.page.Keeps t.unlistenAll.page
  rw [unlistenAll_page]
  exact ⟨rfl, rfl, rfl, rfl⟩

theorem press_happens (k : Keystroke) : Happens (some (.press k)) t.console (t.press k).2.console :=
  .performed (.press k) (.refl _) (shown_showLine (t.withConsole (t.console.press k).2))

theorem answerRequest_happens (r : Request) :
    Happens r.operation? t.console (answerRequest r t).2.console := by
  cases r with
  | start => exact .performed .start (.refl _) (shown_focus (t.act (·.start)))
  | press k => exact t.press_happens k
  | clear => exact .performed .clear (.refl _) (.refl _)
  | close => exact .performed .close (.refl _) (.refl _)
  | reconnect => exact .performed .reconnect (.refl _) (.refl _)
  | dispose => exact .performed .shutdown t.shown_unlistenAll (.refl _)
  | pendingLine | isConnected | statistics => exact .shown (.refl _)

/-- However far the binding comes. -/
theorem shown_bindAll (bs : List Binding) : Shown t.console (bindAll bs t).2.console := by
  obtain ⟨done, -, hdone, -⟩ := bindAll_bound bs t
  rw [hdone]
  exact ⟨rfl, rfl, rfl, rfl, rfl⟩

end Terminal

variable {b : Browser} {k : Console Page}

theorem page_eq (h : b.console? = some k) : b.page = k.world := by
  obtain ⟨client, -, rfl⟩ := Option.map_eq_some_iff.mp h
  rfl

theorem console?_withPage (p : Page) (h : b.console? = some k) :
    ({ b with page := p } : Browser).console? = some { k with world := p } := by
  obtain ⟨client, hc, rfl⟩ := Option.map_eq_some_iff.mp h
  simp [console?, hc]

theorem console?_act (f : Terminal → Terminal) (h : b.console? = some k) :
    ∃ t : Terminal, t.console = k ∧ (b.act f).console? = some (f t).console := by
  obtain ⟨client, hc, rfl⟩ := Option.map_eq_some_iff.mp h
  refine ⟨⟨client, b.page⟩, rfl, ?_⟩
  rw [act, hc]
  rfl

theorem act_happens {f : Terminal → Terminal} {o? : Option Session.Operation}
    (hf : ∀ t, Happens o? t.console (f t).console) (h : b.console? = some k) :
    ∃ k', (b.act f).console? = some k' ∧ Happens o? k k' := by
  obtain ⟨t, rfl, ht⟩ := console?_act f h
  exact ⟨_, ht, hf t⟩

theorem request_eq_act (r : Request) (b : Browser) :
    (b.request r).2 = b.act fun t => (answerRequest r t).2 := by
  rw [request, act]
  cases b.client? <;> rfl

theorem request_happens (r : Request) (h : b.console? = some k) :
    ∃ k', (b.request r).2.console? = some k' ∧ Happens r.operation? k k' := by
  rw [request_eq_act]
  exact act_happens (fun t => t.answerRequest_happens r) h

/-! ## What happens on the page -/

theorem Page.listenersTo_document (p : Page) :
    0 < (p.listenersTo none).length ↔ .keyboard ∈ p.listeners := by
  have hall : (none : Option ElementId).all (fun id => (p.elements id).onPage) = true := rfl
  rw [listenersTo, if_pos hall, List.length_pos_iff_exists_mem]
  constructor
  · rintro ⟨l, hl⟩
    obtain ⟨hmem, hnone⟩ := List.mem_filter.mp hl
    cases l with
    | keyboard => exact hmem
    | focus | clear => cases of_decide_eq_true hnone
  · intro h
    exact ⟨.keyboard, List.mem_filter.mpr ⟨h, rfl⟩⟩

theorem keydown_happens (k? : Option Keystroke) (h : b.console? = some k) :
    ∃ k', (b.keydown k?).2.console? = some k' ∧
      Happens ((Step.keydown k?).operation? b.page) k k' := by
  have hreached := b.page.listenersTo_document
  simp only [Step.operation?, ← hreached]
  obtain ⟨client, hc, rfl⟩ := Option.map_eq_some_iff.mp h
  unfold keydown
  rw [hc]
  cases k? with
  | none => exact ⟨_, h, by simpa using .shown (.refl _)⟩
  | some k =>
    cases (b.page.listenersTo none).length with
    | zero => exact ⟨_, h, .shown (.refl _)⟩
    | succ n =>
      rw [if_pos n.succ_pos]
      exact ⟨_, rfl, Terminal.press_happens ⟨client, b.page⟩ k⟩

theorem clicked_shown (l : Listener) (h : b.console? = some k) :
    ∃ k', (b.clicked l).console? = some k' ∧ Shown k k' := by
  cases l with
  | keyboard => exact ⟨k, h, .refl k⟩
  | focus =>
    unfold clicked
    cases hf : b.page.focus with
    | error _ => exact ⟨k, h, .refl k⟩
    | ok p =>
      rw [page_eq h] at hf
      exact ⟨_, console?_withPage p h, rfl, Page.keeps_focus hf⟩
  | clear =>
    obtain ⟨t, rfl, ht⟩ := console?_act (·.clear) h
    exact ⟨_, ht, .clear t.console⟩

/-- What every listener keeps when a click reaches it, the click keeps. -/
theorem click_keeps {P : Browser → Prop} (h : P b) (id : ElementId)
    (hl : ∀ {b'}, P b' → ∀ l, P (b'.clicked l)) : P (b.click id).2 := by
  change P ((b.page.listenersTo (some id)).foldl (fun b l => b.clicked l) b)
  induction b.page.listenersTo (some id) generalizing b with
  | nil => exact h
  | cons l ls ih => exact ih (hl h l)

theorem click_shown (id : ElementId) (h : b.console? = some k) :
    ∃ k', (b.click id).2.console? = some k' ∧ Shown k k' := by
  refine click_keeps (P := fun b' => ∃ k', b'.console? = some k' ∧ Shown k k')
    ⟨k, h, .refl k⟩ id ?_
  rintro b' ⟨k₁, h₁, hs₁⟩ l
  obtain ⟨k', h', hs'⟩ := clicked_shown l h₁
  exact ⟨k', h', hs₁.trans hs'⟩

theorem click_happens (id : ElementId) (h : b.console? = some k) :
    ∃ k', (b.click id).2.console? = some k' ∧ Happens ((Step.click id).operation? b.page) k k' := by
  obtain ⟨k', h', hs⟩ := click_shown id h
  refine ⟨k', h', ?_⟩
  unfold Step.operation?
  dsimp only
  split
  · exact hs.happens (.clear k)
  · exact .shown hs

theorem hear_happens (e : Epoch) (event : SocketEvent) (h : b.console? = some k) :
    ∃ k', (b.hear e event).console? = some k' ∧ Happens (event.signal?.map (.signal e)) k k' := by
  have signal (s : Connection.Signal) {b : Browser} {k k₁ : Console Page}
      (h : b.console? = some k₁) (hs : Shown k k₁) :
      ∃ k', (b.act (·.act (·.signal e s))).console? = some k' ∧
        Happens (some (.signal e s)) k k' := by
    obtain ⟨t, rfl, ht⟩ := console?_act (·.act (·.signal e s)) h
    exact ⟨_, ht, .performed (.signal e s) hs (.refl _)⟩
  have note (n : Notice) : ({ b with page := b.page.note n } : Browser).console? =
      some ⟨k.session, k.world.note n⟩ := by
    rw [page_eq h]
    exact console?_withPage _ h
  cases event with
  | opened => exact signal .opened h (.refl k)
  | error => exact signal (.error "error") h (.refl k)
  | closed code clean =>
    exact signal .closed (note (.socketClosed code clean)) ⟨rfl, rfl, rfl, rfl, rfl⟩
  | message payload =>
    unfold hear SocketEvent.signal?
    dsimp only
    cases payload.bytes? with
    | some chunk => exact signal (.message chunk) h (.refl k)
    | none => exact ⟨_, note .unsupportedPayload, .shown ⟨rfl, rfl, rfl, rfl, rfl⟩⟩

/-! ## Sockets without handlers -/

theorem Page.keeps_of_made {p p' : Page} (h : Made p [] p') : p.Keeps p' := by
  generalize hcalls : ([] : List WebTerminal.Call) = calls at h
  induction h with
  | nil => exact ⟨rfl, rfl, rfl, rfl⟩
  | @note p _ _ n _ ih =>
    have hone : p.Keeps (p.note n) := ⟨rfl, rfl, rfl, rfl⟩
    exact hone.trans (ih hcalls)
  | _ => cases hcalls

/-- A signal that is not heeded leaves no trace but a notice. -/
theorem Shown.of_unheeded {e : Epoch} {signal : Connection.Signal}
    (hi : e = k.session.connection.epoch → k.session.connection.heeds signal = false) :
    Shown k (k.perform (.signal e signal)).2 := by
  obtain ⟨calls, hm, hmade⟩ := k.link.perform_moves (.signal e signal)
  obtain ⟨ha, rfl, hc⟩ := hm.of_unheeded hi
  have hevents : (k.link.signal e signal).1 = [] := Connection.Answer.events.inj ha
  have hperform : (k.perform (.signal e signal)).2 = k.withLink (k.link.signal e signal).2 := by
    show (k.withLink (k.link.signal e signal).2).presentAll (k.link.signal e signal).1 = _
    rw [hevents]
    rfl
  rw [hperform]
  refine ⟨?_, Page.keeps_of_made hmade⟩
  exact congrArg (fun c => { k.session with connection := c }) hc

end Browser

namespace Connection

theorem isLive_of_heeds {c : Connection} {signal : Signal} (h : c.heeds signal = true) :
    c.state.isLive = true := by
  cases signal with
  | opened | message _ =>
    rw [of_decide_eq_true h]
    rfl
  | error _ | closed => exact h

/-- As epochs are not used twice, a socket that lacks a handler has nothing to report that would be
heeded. -/
theorem Attached.unheeded {c : Connection} {ks : List Browser.Socket} (h : Attached c ks)
    (hc : Coherent c) (hn : (ks.map Browser.Socket.epoch).Nodup) {i : Nat} {k : Browser.Socket}
    (hk : ks[i]? = some k) {handler : Browser.Handler} (hd : handler ∉ k.handlers)
    (signal : Signal) (he : k.epoch = c.epoch) : c.heeds signal = false := by
  refine Bool.eq_false_iff.mpr fun hh => ?_
  -- what is heeded comes from the socket that is held, and that one has all handlers
  obtain ⟨s, hs⟩ := Option.isSome_iff_exists.mp (hc.socket_iff.mpr (isLive_of_heeds hh))
  obtain ⟨k', hk', he'⟩ := h.held s hs
  have hi : i = s.index := by
    have hlt : i < (ks.map Browser.Socket.epoch).length := by
      rw [List.length_map]
      exact (List.getElem?_eq_some_iff.mp hk).1
    refine (List.getElem?_inj hlt hn).mp ?_
    rw [List.getElem?_map, List.getElem?_map, hk, hk', Option.map_some, Option.map_some, he, he']
  have hall := h.handlers i k hk
  rw [hs, hi, if_pos rfl] at hall
  rw [hall] at hd
  exact hd (Browser.Handler.mem_all handler)

end Connection

namespace Browser

variable {b : Browser} {k : Console Page}

theorem socket_happens (s? : Option SocketId) (event : SocketEvent) (h : b.console? = some k)
    (ha : Connection.Attached k.session.connection k.world.sockets)
    (hc : Connection.Coherent k.session.connection)
    (hn : (k.world.sockets.map Socket.epoch).Nodup) :
    ∃ k', (b.socket s? event).2.console? = some k' ∧
      Happens ((Step.socket s? event).operation? b.page) k k' := by
  unfold socket Step.operation?
  dsimp only
  generalize hat : b.page.socketAt? s? = at?
  unfold Page.socketAt? at hat
  rw [hat]
  cases at? with
  | none => exact ⟨k, h, .shown (.refl k)⟩
  | some s =>
    dsimp only [Option.bind_some]
    by_cases hs : event.handler ∈ s.handlers
    · rw [if_pos hs]
      exact hear_happens s.epoch event h
    · rw [if_neg hs]
      refine ⟨k, h, ?_⟩
      cases event.signal? with
      | none => exact .shown (.refl k)
      | some signal =>
        rw [page_eq h] at hat
        exact (Shown.refl k).happens (.of_unheeded (ha.unheeded hc hn hat hs signal))

/-! ## Sockets that are made -/

def Page.epochs (p : Page) : List Epoch := p.sockets.map Socket.epoch

theorem Page.epochs_of_made {p p' : Page} {calls : List WebTerminal.Call} (h : Made p calls p') :
    p'.epochs = p.epochs ++ calls.filterMap Call.opened? := by
  rw [epochs, sockets_of_made h, epochs]
  generalize p.sockets = ks
  clear h
  induction calls generalizing ks with
  | nil => exact (List.append_nil _).symm
  | cons call calls ih =>
    rw [List.foldl_cons, ih]
    cases call with
    | dial url e answer =>
      cases answer with
      | ok s => simp [socketsAfter, Call.opened?]
      | error _ => rfl
    | hangUp s | release s =>
      exact congrArg (· ++ _) (map_silence (fun _ => rfl) s ks)
    | _ => rfl

/-- In `d` attempts or fewer, sockets are only added. -/
structure Grows (d : Nat) (k k' : Console Page) : Prop where
  epochs : k.world.epochs <+: k'.world.epochs
  ordered : ∀ {n}, Connection.Ordered n k.session.connection k.world.epochs → n + d < 2 ^ 64 →
    ∃ m ≤ n + d, Connection.Ordered m k'.session.connection k'.world.epochs

theorem Grows.of_eq {k' : Console Page} (hc : k'.session.connection = k.session.connection)
    (hs : k'.world.sockets = k.world.sockets) : Grows 0 k k' where
  epochs := by
    have he : k'.world.epochs = k.world.epochs := congrArg (List.map Socket.epoch) hs
    exact he ▸ List.prefix_rfl
  ordered {n} ho _ := by
    refine ⟨n, Nat.le_refl n, ?_⟩
    rw [Page.epochs, hs, hc]
    exact ho

theorem Grows.trans {d d' : Nat} {k' k'' : Console Page} (h : Grows d k k') (h' : Grows d' k' k'') :
    Grows (d + d') k k'' where
  epochs := h.epochs.trans h'.epochs
  ordered ho hn := by
    obtain ⟨m, hm, ho'⟩ := h.ordered ho (by omega)
    obtain ⟨m', hm', ho''⟩ := h'.ordered ho' (by omega)
    exact ⟨m', by omega, ho''⟩

theorem Grows.mono {d d' : Nat} {k' : Console Page} (h : Grows d k k') (hd : d ≤ d') :
    Grows d' k k' where
  epochs := h.epochs
  ordered ho hn := by
    obtain ⟨m, hm, ho'⟩ := h.ordered ho (by omega)
    exact ⟨m, by omega, ho'⟩

theorem grows_perform (o : Session.Operation) (k : Console Page) : Grows 1 k (k.perform o).2 := by
  obtain ⟨l, hc, hs, hc', hs'⟩ := Console.perform_link Page.unshown_sockets o k
  cases hk : k.linked? o with
  | none =>
    rw [hk] at hc' hs'
    exact (Grows.of_eq (hc'.trans hc) (hs'.trans hs)).mono (Nat.zero_le 1)
  | some k' =>
    rw [hk] at hc' hs'
    obtain ⟨calls, hm, hmade⟩ := l.perform_moves k'
    have hl : l.world.epochs = k.world.epochs := congrArg (List.map Socket.epoch) hs
    have hepochs : (k.perform o).2.world.epochs =
        k.world.epochs ++ calls.filterMap Call.opened? := by
      rw [← hl, ← Page.epochs_of_made hmade]
      exact congrArg (List.map Socket.epoch) hs'
    rw [hc] at hm
    have hd := hm.dials_le
    refine ⟨?_, fun {n} ho hn => ⟨n + calls.countP WebTerminal.Call.isDial, by omega, ?_⟩⟩
    · rw [hepochs]
      exact List.prefix_append _ _
    · rw [hepochs, hc']
      exact hm.ordered ho (by omega)

theorem Shown.grows {k' : Console Page} (h : Shown k k') : Grows 0 k k' :=
  .of_eq (congrArg Session.connection h.session) h.page.sockets

theorem Happens.grows {o? : Option Session.Operation} {k' : Console Page} (h : Happens o? k k') :
    Grows 1 k k' := by
  cases h with
  | shown h => exact h.grows.mono (Nat.zero_le 1)
  | performed o h h' => exact (h.grows.trans (grows_perform o _)).trans h'.grows

/-- A timer that runs out is taken off the page before the session hears of it. -/
theorem timer_cases (h : b.console? = some k) :
    k.world.takeTimer = none ∧ b.timer.2.console? = some k ∨
      ∃ t p, k.world.takeTimer = some (t, p) ∧ b.timer.2.console? =
        some (({ k with world := p } : Console Page).perform (.retryDue t.epoch)).2 := by
  unfold timer
  rw [page_eq h]
  cases k.world.takeTimer with
  | none => exact .inl ⟨rfl, h⟩
  | some taken =>
    obtain ⟨t, p⟩ := taken
    obtain ⟨terminal, hk, hact⟩ := console?_act (·.act (·.retryDue t.epoch)) (console?_withPage p h)
    refine .inr ⟨t, p, rfl, hact.trans ?_⟩
    rw [← hk]
    rfl

theorem Page.sockets_takeTimer {p p' : Page} {t : Timer} (h : p.takeTimer = some (t, p')) :
    p'.sockets = p.sockets := by
  unfold takeTimer at h
  split at h
  · cases h
  · cases h
    rfl

/-- What a step comes to that leaves the client on the page: an operation or none, a timer that
runs out, or a change of what the page has and throws. -/
inductive Comes (k : Console Page) : Console Page → Prop where
  | happens {o? : Option Session.Operation} {k' : Console Page}
      (ho : ∀ e, o? ≠ some (.retryDue e)) (h : Happens o? k k') : Comes k k'
  | fired (t : Timer) (p : Page) (h : k.world.takeTimer = some (t, p)) :
      Comes k (({ k with world := p } : Console Page).perform (.retryDue t.epoch)).2
  | changed (p : Page) (hs : p.sockets = k.world.sockets) (ht : p.timers = k.world.timers) :
      Comes k { k with world := p }

theorem Request.operation_ne_retryDue (r : Request) (e : Epoch) :
    r.operation? ≠ some (.retryDue e) := by
  cases r <;> simp [operation?]

theorem perform_comes {s : Step} (hs : s.keepsClient = true) (h : b.console? = some k) :
    ∃ k', (b.perform s).2.console? = some k' ∧ Comes k k' := by
  have acts {o? : Option Session.Operation} (ho : ∀ e, o? ≠ some (.retryDue e)) {b' : Browser}
      (h' : ∃ k', b'.console? = some k' ∧ Happens o? k k') :
      ∃ k', b'.console? = some k' ∧ Comes k k' :=
    h'.imp fun _ hk => hk.imp_right (.happens ho)
  have idle {b' : Browser} (h' : b'.console? = some k) :
      ∃ k', b'.console? = some k' ∧ Comes k k' :=
    ⟨k, h', .happens (by simp) (.shown (.refl k))⟩
  cases s with
  | create _ | discard => cases hs
  | request r => exact acts r.operation_ne_retryDue (request_happens r h)
  | keydown k? => exact acts (by simp [Step.operation?]) (keydown_happens k? h)
  | click id => exact acts (by simp [Step.operation?]) (click_happens id h)
  | socket s? event =>
    change ∃ k', (b.socket s? event).2.console? = some k' ∧ Comes k k'
    unfold socket
    dsimp only
    split
    · split
      · exact acts (by simp) (hear_happens _ event h)
      · exact idle h
    · exact idle h
  | timer =>
    rcases timer_cases h with ⟨-, h'⟩ | ⟨t, p, ht, h'⟩
    · exact idle h'
    · exact ⟨_, h', .fired t p ht⟩
  | setThrow | setEcho | remove =>
    have hsockets : b.page.sockets = k.world.sockets := congrArg Page.sockets (page_eq h)
    have htimers : b.page.timers = k.world.timers := congrArg Page.timers (page_eq h)
    exact ⟨_, console?_withPage _ h, .changed _ hsockets htimers⟩

/-- In a step at most one attempt is made. -/
theorem Comes.grows {k' : Console Page} (h : Comes k k') : Grows 1 k k' := by
  cases h with
  | happens _ h => exact h.grows
  | fired t p ht =>
    have htaken : Grows 0 k { k with world := p } := .of_eq rfl (Page.sockets_takeTimer ht)
    exact htaken.trans (grows_perform _ _)
  | changed p hs _ =>
    have hnone : Grows 0 k { k with world := p } := .of_eq rfl hs
    exact hnone.mono (Nat.zero_le 1)

theorem run_grows {ss : List Step} (hs : ∀ s ∈ ss, s.keepsClient = true)
    (h : b.console? = some k) :
    ∃ k', (run ss b).2.console? = some k' ∧ Grows ss.length k k' := by
  induction ss generalizing b k with
  | nil => exact ⟨k, h, .of_eq rfl rfl⟩
  | cons s ss ih =>
    obtain ⟨hone, hrest⟩ := List.forall_mem_cons.mp hs
    obtain ⟨k₁, h₁, hc₁⟩ := perform_comes hone h
    obtain ⟨k', h', hg'⟩ := ih hrest h₁
    refine ⟨k', h', ?_⟩
    rw [List.length_cons, Nat.add_comm]
    exact hc₁.grows.trans hg'

end Browser

end WebTerminal
