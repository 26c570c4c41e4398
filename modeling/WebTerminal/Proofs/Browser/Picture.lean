import WebTerminal.Proofs.Browser.Drawing
import WebTerminal.Proofs.Browser.Simulation

/-! # The picture of a session

As long as nothing that is to be shown throws, the page of a client shows what its session calls on
it: its output since the last clear, the status it reported last, and the line being typed. When the
client is disposed of, the page goes on to show that. -/

namespace WebTerminal

open Session (Console)

/-- Whether a session is faithful shows in the calls it made and the status it keeps. -/
theorem Session.Console.Faithful.congr {ω : Type} {c c' : Console (Watched ω)} (h : c.Faithful)
    (hc : c'.world.calls = c.world.calls)
    (hs : c'.session.lastStatus? = c.session.lastStatus?) : c'.Faithful := by
  have hstatuses : c'.world.statuses = c.world.statuses := congrArg (List.filterMap _) hc
  constructor
  · rw [hstatuses, hs]
    exact h.last
  · rw [hstatuses]
    exact h.distinct

namespace Browser

/-- The operation that a click comes to where it is heard. -/
def Listener.operation? : Listener → Option Session.Operation
  | clear => some .clear
  | keyboard | focus => none

namespace Step

/-- The operations that a step performs on the session, in order. A click may be heard more than
once, and a socket is heard only where it has the handler. -/
def operations (s : Step) (p : Page) : List Session.Operation :=
  match s with
  | .request _ | .keydown _ => (s.operation? p).toList
  | .click id => (p.listenersTo (some id)).filterMap Listener.operation?
  | .socket s? event =>
    if (p.socketAt? s?).any (event.handler ∈ ·.handlers) then (s.operation? p).toList else []
  | .timer => (p.takeTimer.map fun taken => .retryDue taken.1.epoch).toList
  | _ => []

/-- The page that the session finds in a step. -/
def altered (s : Step) (p : Page) : Page :=
  match s with
  | .timer => p.takeTimer.elim p (·.2)
  | .setThrow h v? => p.setThrow h v?
  | .setEcho text? => { p with echo? := text? }
  | .remove id => p.remove id
  | _ => p

/-- Whether a step leaves the client at work, and lets nothing throw that is to be shown. -/
def keepsPicture : Step → Bool
  | .create _ | .discard | .request .dispose => false
  | .setThrow h v? => !h.isDisplay || v?.isNone
  | _ => true

/-- The session of a client after a step, and the calls it made on its world with those that were
made before. -/
def watched (s : Step) (client : Client) (p : Page) (calls : List WebTerminal.Call) :
    Console (Watched Page) :=
  (Console.run (s.operations p) ⟨client.session, { inner := s.altered p, calls }⟩).2

end Step

/-- The calls that the session of the client on the page makes in a run, after these. -/
def called : List Step → Browser → List WebTerminal.Call → List WebTerminal.Call
  | [], _, calls => calls
  | s :: ss, b, calls =>
    called ss (b.perform s).2
      (b.client?.elim calls fun client => (s.watched client b.page calls).world.calls)

namespace Terminal

def browser (t : Terminal) : Browser := ⟨t.page, some t.client⟩

/-- The page shows these calls of the session and the line of the client, and is able to. -/
structure Shows (calls : List WebTerminal.Call) (t : Terminal) : Prop where
  showsLine : t.client.showsLine = true
  able : t.page.Able
  depicts : t.page.Depicts calls t.pendingLine
  faithful : (⟨t.client.session, { inner := t.page, calls }⟩ : Console (Watched Page)).Faithful

/-- In the middle of a step: what is done to the client is done to its session in a watched world,
and the page shows the calls kept there. -/
structure Beside (t : Terminal) (c : Console (Watched Page)) : Prop where
  showsLine : t.client.showsLine = true
  session : t.client.session = c.session
  page : t.page.Mirrors t.pendingLine c.world
  faithful : c.Faithful

/-- At the end of a step. -/
structure Ends (t : Terminal) (c : Console (Watched Page)) : Prop where
  session : t.client.session = c.session
  shows : t.Shows c.world.calls

variable {t : Terminal} {c : Console (Watched Page)} {calls : List WebTerminal.Call} {p : Page}

theorem Shows.last (h : t.Shows calls) : Call.lastReport? calls = t.client.session.lastStatus? :=
  h.faithful.last

/-- At the beginning of a step, in which the page may be altered first. -/
theorem Shows.beside (h : t.Shows calls) (ha : p.Able) (hd : p.Depicts calls t.pendingLine) :
    Beside (t.withPage p) ⟨t.client.session, { inner := p, calls }⟩ where
  showsLine := h.showsLine
  session := rfl
  page := ⟨rfl, ha, hd⟩
  faithful := h.faithful.congr rfl rfl

namespace Beside

variable (h : Beside t c)
include h

theorem ends : Ends t c where
  session := h.session
  shows :=
    ⟨h.showsLine, h.page.able, h.page.depicts,
      h.faithful.congr rfl (congrArg Session.lastStatus? h.session)⟩

theorem withPage (hv : t.page.SameView p) (hp : p.SameCore t.page) :
    Beside (t.withPage p) c := ⟨h.showsLine, h.session, h.page.withPage hv hp, h.faithful⟩

theorem console : Console.Like (Page.Mirrors t.pendingLine) t.console c := by
  obtain ⟨s, w⟩ := c
  obtain ⟨client, p⟩ := t
  obtain rfl : client.session = s := h.session
  exact ⟨_, h.page⟩

theorem perform_like (o : Session.Operation) :
    Console.Like (Page.Mirrors t.pendingLine) (t.console.perform o).2 (c.perform o).2 :=
  (h.console.perform (Page.network_mirrors _) (Page.screen_mirrors _) o).2

/-- An operation that leaves the keyboard alone leaves the line as it is. -/
theorem perform {o : Session.Operation} (ho : ∀ e : Encoder, o.keyed e = e) :
    Beside (t.act fun k => (k.perform o).2) (c.perform o).2 := by
  have hl := h.perform_like o
  have hline : (t.act fun k => (k.perform o).2).pendingLine = t.pendingLine := by
    have he := Console.encoder_perform o t.console
    rw [ho] at he
    exact congrArg Encoder.pendingLine he
  refine ⟨h.showsLine, hl.session, ?_, Console.faithful_perform o h.faithful⟩
  rw [hline]
  exact hl.world

/-- What a key makes of the line is shown at once. -/
theorem press (k : Keystroke) : Ends (t.press k).2 (c.perform (.press k)).2 := by
  have hl := h.perform_like (.press k)
  have hshow : (t.press k).2 = (t.withConsole (t.console.press k).2).withPage
      ((t.console.press k).2.world.setText .inputLine (t.console.press k).2.session.pendingLine) :=
    if_pos h.showsLine
  rw [hshow]
  -- the watched page has no such call, so that the two have the same core no longer
  exact ⟨hl.session, h.showsLine, hl.world.able.congr rfl rfl, hl.world.depicts.setLine _,
    (Console.faithful_perform (.press k) h.faithful).congr rfl
      (congrArg Session.lastStatus? hl.session)⟩

theorem focus : Beside t.focus c := by
  have note (n : Notice) : Beside (t.withPage (t.page.note n)) c :=
    h.withPage ⟨rfl, rfl, rfl⟩ rfl
  unfold Terminal.focus
  split
  · exact note _
  · split
    · exact note _
    · rename_i hp
      exact h.withPage (.focus hp) (Page.core_focus hp)

end Beside

/-! ## Steps -/

theorem Beside.answerRequest (h : Beside t c) {r : Request} (hr : r ≠ .dispose) :
    Ends (answerRequest r t).2 (Console.run r.operation?.toList c).2 := by
  cases r with
  | start => exact (h.perform (o := .start) fun _ => rfl).focus.ends
  | press k => exact h.press k
  | clear => exact (h.perform (o := .clear) fun _ => rfl).ends
  | close => exact (h.perform (o := .close) fun _ => rfl).ends
  | reconnect => exact (h.perform (o := .reconnect) fun _ => rfl).ends
  | dispose => exact absurd rfl hr
  | pendingLine | isConnected | statistics => exact h.ends

theorem Beside.clicked (h : Beside t c) (l : Listener) :
    ∃ t', t.browser.clicked l = t'.browser ∧
      Beside t' (Console.run l.operation?.toList c).2 := by
  cases l with
  | keyboard => exact ⟨t, rfl, h⟩
  | clear => exact ⟨_, rfl, h.perform (o := .clear) fun _ => rfl⟩
  | focus =>
    unfold Browser.clicked browser
    cases hf : t.page.focus with
    | error _ => exact ⟨t, rfl, h⟩
    | ok p => exact ⟨t.withPage p, rfl, h.withPage (.focus hf) (Page.core_focus hf)⟩

theorem Beside.click (h : Beside t c) (ls : List Listener) :
    ∃ t', ls.foldl (fun b l => b.clicked l) t.browser = t'.browser ∧
      Beside t' (Console.run (ls.filterMap Listener.operation?) c).2 := by
  induction ls generalizing t c with
  | nil => exact ⟨t, rfl, h⟩
  | cons l ls ih =>
    obtain ⟨t₁, ht, h₁⟩ := h.clicked l
    rw [List.foldl_cons, ht]
    obtain ⟨t', ht', h'⟩ := ih h₁
    refine ⟨t', ht', ?_⟩
    cases l <;> exact h'

theorem Beside.hear (h : Beside t c) (e : Epoch) (event : SocketEvent) :
    ∃ t', t.browser.hear e event = t'.browser ∧
      Beside t' (Console.run (event.signal?.map (.signal e)).toList c).2 := by
  have note (n : Notice) : Beside (t.withPage (t.page.note n)) c :=
    h.withPage ⟨rfl, rfl, rfl⟩ rfl
  cases event with
  | opened => exact ⟨_, rfl, h.perform (o := .signal e .opened) fun _ => rfl⟩
  | error => exact ⟨_, rfl, h.perform (o := .signal e (.error "error")) fun _ => rfl⟩
  | closed code clean =>
    exact ⟨_, rfl, (note (.socketClosed code clean)).perform (o := .signal e .closed) fun _ => rfl⟩
  | message payload =>
    unfold Browser.hear SocketEvent.signal?
    dsimp only
    cases payload.bytes? with
    | some chunk => exact ⟨_, rfl, h.perform (o := .signal e (.message chunk)) fun _ => rfl⟩
    | none => exact ⟨_, rfl, note .unsupportedPayload⟩

theorem Beside.keydown (h : Beside t c) (k? : Option Keystroke) :
    ∃ t', (t.browser.keydown k?).2 = t'.browser ∧
      Ends t' (Console.run ((Step.keydown k?).operation? t.page).toList c).2 := by
  have hreached := t.page.listenersTo_document
  simp only [Step.operation?, ← hreached]
  unfold Browser.keydown browser
  cases k? with
  | none =>
    simp only [Option.map_none, ite_self]
    exact ⟨t, rfl, h.ends⟩
  | some k =>
    dsimp only
    cases (t.page.listenersTo none).length with
    | zero => exact ⟨t, rfl, h.ends⟩
    | succ n =>
      rw [if_pos n.succ_pos]
      exact ⟨_, rfl, h.press k⟩

theorem Beside.socket (h : Beside t c) (s? : Option SocketId) (event : SocketEvent) :
    ∃ t', (t.browser.socket s? event).2 = t'.browser ∧
      Ends t' (Console.run ((Step.socket s? event).operations t.page) c).2 := by
  unfold Step.operations Step.operation? Browser.socket
  dsimp only
  generalize hat : t.page.socketAt? s? = at?
  change t.browser.page.socketAt? s? = at? at hat
  unfold Page.socketAt? at hat
  rw [hat]
  cases at? with
  | none => exact ⟨t, rfl, h.ends⟩
  | some socket =>
    by_cases hs : event.handler ∈ socket.handlers
    · obtain ⟨t', ht', h'⟩ := h.hear socket.epoch event
      simp only [Option.any_some, hs, decide_true, if_true, Option.bind_some]
      exact ⟨t', ht', h'.ends⟩
    · simp only [Option.any_some, hs, decide_false, if_false, Bool.false_eq_true]
      exact ⟨t, rfl, h.ends⟩

/-- A step of the client is one of its session, and the page shows what that one called. -/
theorem Shows.perform (h : t.Shows calls) {s : Step} (hs : s.keepsPicture = true) :
    ∃ t', (t.browser.perform s).2 = t'.browser ∧ Ends t' (s.watched t.client t.page calls) := by
  have hb := h.beside h.able h.depicts
  -- where only the page is altered, the session calls nothing
  have altered {p : Page} (ha : p.Able) (hd : p.Depicts calls t.pendingLine) :
      ∃ t', (t.withPage p).browser = t'.browser ∧
        Ends t' ⟨t.client.session, { inner := p, calls }⟩ :=
    ⟨_, rfl, (h.beside ha hd).ends⟩
  cases s with
  | create _ | discard => cases hs
  | request r =>
    refine ⟨_, rfl, hb.answerRequest ?_⟩
    rintro rfl
    cases hs
  | keydown k? => exact hb.keydown k?
  | click id =>
    obtain ⟨t', ht', h'⟩ := hb.click (t.page.listenersTo (some id))
    exact ⟨t', ht', h'.ends⟩
  | socket s? event => exact hb.socket s? event
  | timer =>
    change ∃ t', t.browser.timer.2 = t'.browser ∧ Ends t' (Step.timer.watched t.client t.page calls)
    unfold Browser.timer Step.watched Step.operations Step.altered browser
    dsimp only
    cases ht : t.page.takeTimer with
    | none => exact ⟨t, rfl, hb.ends⟩
    | some taken =>
      have hv := Page.SameView.takeTimer ht
      have htaken := h.beside (h.able.congr hv.throws hv.whims) (h.depicts.congr hv.elements)
      exact ⟨_, rfl, (htaken.perform (o := .retryDue taken.1.epoch) fun _ => rfl).ends⟩
  | setThrow hazard v? =>
    have hv : hazard.isDisplay = false ∨ v? = none := by simpa [Step.keepsPicture] using hs
    exact altered (h.able.setThrow hv) (h.depicts.congr rfl)
  | setEcho text? => exact altered (h.able.congr rfl rfl) (h.depicts.congr rfl)
  | remove id => exact altered (h.able.congr rfl rfl) (h.depicts.remove id)

/-! ## Runs -/

theorem Shows.run (h : t.Shows calls) {ss : List Step} (hs : ∀ s ∈ ss, s.keepsPicture = true) :
    ∃ t' : Terminal, (Browser.run ss t.browser).2 = t'.browser ∧
      t'.Shows (called ss t.browser calls) := by
  induction ss generalizing t calls with
  | nil => exact ⟨t, rfl, h⟩
  | cons s ss ih =>
    obtain ⟨hone, hrest⟩ := List.forall_mem_cons.mp hs
    obtain ⟨t₁, ht₁, h₁⟩ := h.perform hone
    obtain ⟨t', ht', h'⟩ := ih h₁.shows hrest
    refine ⟨t', ?_, ?_⟩
    · rw [← ht', ← ht₁]
      rfl
    · rw [← ht₁] at h'
      exact h'

theorem Shows.bindAll (h : t.Shows calls) (bs : List Binding) :
    (Terminal.bindAll bs t).2.Shows calls := by
  obtain ⟨done, -, hdone, -⟩ := bindAll_bound bs t
  rw [hdone]
  exact ⟨h.showsLine, h.able.congr rfl rfl, h.depicts.congr rfl, h.faithful.congr rfl rfl⟩

end Terminal

/-- No element of the page has a class, a text or children. -/
def Page.Blank (p : Page) : Prop :=
  ∀ id, (p.elements id).classes = [] ∧ (p.elements id).text = "" ∧ (p.elements id).children = []

/-! The page that a browser has at first is all that a client needs. -/

theorem Page.complete_new : ({} : Page).Complete :=
  ⟨rfl, rfl, fun _ => rfl, fun _ => rfl, fun _ _ _ => rfl, rfl, rfl, rfl⟩

theorem Page.blank_new : ({} : Page).Blank := fun _ => ⟨rfl, rfl, rfl⟩

theorem Page.able_new : ({} : Page).Able := ⟨fun _ _ => rfl, by simp⟩

variable {p : Page} {config? : Option String} {config : Config}

/-- The client that is made on a complete and blank page. -/
theorem Page.Complete.create_shows (h : p.Complete) (hb : p.Blank) (ha : p.Able)
    (hc : config?.elim (.ok {}) Config.ofJson = .ok config) :
    ∃ t : Terminal, Client.create config? p = (.ok t.client, t.page) ∧ t.Shows [] := by
  unfold Client.create
  rw [h.prepare hc]
  dsimp only
  generalize hn : p.note (.clientReady (config.url p.protocol p.host) config.mode) = noted
  have hv : p.SameView noted := by
    rw [← hn]
    exact ⟨rfl, rfl, rfl⟩
  generalize ht : (⟨⟨config.session (config.url p.protocol p.host),
    (noted.find? .inputLine).isSome, []⟩, noted⟩ : Terminal) = t
  have hshows : t.Shows [] := by
    rw [← ht]
    refine ⟨?_, ha.congr hv.throws hv.whims, Page.Depicts.congr ?_ hv.elements, rfl, .nil⟩
    · simp [Page.find?, hv.elements, h.onPage]
    · exact ⟨(hb _).2.2, by simp [Call.lastReport?], by simp [Call.lastReport?, hb _], (hb _).2.1⟩
  have hthrows : ∀ hazard, hazard ≠ .socket → hazard ≠ .send → t.page.throws hazard = none := by
    rw [← ht]
    exact hv.throws ▸ h.throws
  have hnone := Terminal.bindAll_eq_none (Terminal.bindings noted) t
    (fun l => hthrows (.listen l) (by simp) (by simp)) (hthrows _ (by simp) (by simp))
  have hbound : Terminal.bindAll (Terminal.bindings noted) t =
      (none, (Terminal.bindAll (Terminal.bindings noted) t).2) := Prod.ext hnone rfl
  rw [hbound]
  exact ⟨_, rfl, hshows.bindAll _⟩

/-- Wherever a run has come to, the first client is on the page, which shows what its session
called. -/
theorem exists_shows (hp : p.Complete) (hb : p.Blank) (ha : p.Able)
    (hc : config?.elim (.ok {}) Config.ofJson = .ok config) {ss : List Step}
    (hs : ∀ s ∈ ss, s.keepsPicture = true) :
    (Browser.create config? { page := p }).1 = .created ∧
      ∃ t : Terminal, (run ss (Browser.create config? { page := p }).2).2 = t.browser ∧
        t.Shows (called ss (Browser.create config? { page := p }).2 []) := by
  obtain ⟨t, hcreate, hshows⟩ := hp.create_shows hb ha hc
  have hcreated : Browser.create config? { page := p } = (.created, t.browser) := by
    have hdiscard : (discard { page := p }).page = p := rfl
    unfold Browser.create
    rw [hdiscard, hcreate]
    rfl
  rw [hcreated]
  exact ⟨rfl, hshows.run hs⟩

/-- As long as nothing that is to be shown throws, the page of the first client on it shows what its
session called, and the line that is typed. -/
theorem run_depicts (hp : p.Complete) (hb : p.Blank) (ha : p.Able)
    (hc : config?.elim (.ok {}) Config.ofJson = .ok config) {ss : List Step}
    (hs : ∀ s ∈ ss, s.keepsPicture = true) :
    let created := Browser.create config? { page := p }
    let after := (run ss created.2).2
    let calls := called ss created.2 []
    created.1 = .created ∧ ∃ client, after.client? = some client ∧
      Call.lastReport? calls = client.session.lastStatus? ∧
      after.page.Depicts calls client.session.pendingLine := by
  intro created after calls
  obtain ⟨hcreated, t, ht, h⟩ := exists_shows hp hb ha hc hs
  have hafter : after = t.browser := ht
  rw [hafter]
  exact ⟨hcreated, t.client, rfl, h.last, h.depicts⟩

/-- The output is cleared by a click, keys come by both ways, and the connection is lost. -/
theorem run_depicts_cleared :
    let text := "\x7b\"mode\":\"line\"\x7d"
    let ss : List Step :=
      [.request .start, .socket none .opened, .keydown (some { key := "l" }),
        .socket none (.message (.text "hi")), .click .clearButton,
        .request (.press { key := "s" }), .setThrow .send (some (.text "no")),
        .socket none (.closed 1006 false)]
    let created := Browser.create (some text) { page := {} }
    let after := (run ss created.2).2
    let calls := called ss created.2 []
    Call.drawn calls = [⟨some "info", "[INFO] Terminal cleared\n"⟩,
        ⟨some "info", "[INFO] Connection closed\n"⟩,
        ⟨some "info", "[INFO] Reconnecting (1/5)...\n"⟩] ∧
      Call.lastReport? calls = some (.reconnecting 1 5) ∧
      (after.page.elements .inputLine).text = "ls" ∧
      created.1 = .created ∧ ∃ client, after.client? = some client ∧
        Call.lastReport? calls = client.session.lastStatus? ∧
        after.page.Depicts calls client.session.pendingLine := by
  have hc : (some "\x7b\"mode\":\"line\"\x7d").elim (.ok {}) Config.ofJson =
      .ok { mode := .line } := Config.ofJson_eq_ok (by decide +kernel)
  refine ⟨by decide +kernel, by decide +kernel, by decide +kernel, ?_⟩
  apply run_depicts Page.complete_new Page.blank_new Page.able_new hc
  decide

/-! ## What stays on the page -/

namespace Terminal

/-- What the page tells of the connection and of the line is so. -/
structure Agrees (t : Terminal) : Prop where
  indicator : Page.connectedClass ∈ (t.page.elements .statusIndicator).classes ↔
    t.isConnected = true
  line : (t.page.elements .inputLine).text = t.pendingLine

instance (t : Terminal) : Decidable t.Agrees :=
  decidable_of_iff
    ((Page.connectedClass ∈ (t.page.elements .statusIndicator).classes ↔ t.isConnected = true) ∧
      (t.page.elements .inputLine).text = t.pendingLine)
    ⟨fun h => ⟨h.1, h.2⟩, fun h => ⟨h.1, h.2⟩⟩

theorem elements_unlistenAll (t : Terminal) : t.unlistenAll.page.elements = t.page.elements := by
  rw [unlistenAll_page]

/-- To be disposed of changes nothing of what is shown. -/
theorem elements_dispose (t : Terminal) : t.dispose.page.elements = t.page.elements := by
  obtain ⟨calls, -, hmade⟩ := t.unlistenAll.console.link.perform_moves .shutdown
  exact (Page.SameView.of_made hmade).elements.trans t.elements_unlistenAll

theorem isConnected_dispose (t : Terminal) : t.dispose.isConnected = false := rfl

theorem pendingLine_dispose (t : Terminal) : t.dispose.pendingLine = "" := rfl

/-- A client that is disposed of is not connected and has no line, whatever its page shows. -/
theorem dispose_agrees_iff (t : Terminal) :
    t.dispose.Agrees ↔
      Page.connectedClass ∉ (t.page.elements .statusIndicator).classes ∧
        (t.page.elements .inputLine).text = "" := by
  have hiff : t.dispose.Agrees ↔
      (Page.connectedClass ∈ (t.dispose.page.elements .statusIndicator).classes ↔
        t.dispose.isConnected = true) ∧
      (t.dispose.page.elements .inputLine).text = t.dispose.pendingLine :=
    ⟨fun h => ⟨h.indicator, h.line⟩, fun h => ⟨h.1, h.2⟩⟩
  rw [hiff, elements_dispose, isConnected_dispose, pendingLine_dispose]
  simp

end Terminal

/-- The page of the first client tells the truth after the client is disposed of just when the
status reported last was not that of being connected and no line was being typed. -/
theorem run_dispose_agrees_iff (hp : p.Complete) (hb : p.Blank) (ha : p.Able)
    (hc : config?.elim (.ok {}) Config.ofJson = .ok config) {ss : List Step}
    (hs : ∀ s ∈ ss, s.keepsPicture = true) :
    let after := (run ss (Browser.create config? { page := p }).2).2
    ∃ client, after.client? = some client ∧
      ((⟨client, after.page⟩ : Terminal).dispose.Agrees ↔
        client.session.lastStatus? ≠ some .connected ∧ client.session.pendingLine = "") := by
  intro after
  obtain ⟨-, t, ht, h⟩ := exists_shows hp hb ha hc hs
  have hafter : after = t.browser := ht
  rw [hafter]
  refine ⟨t.client, rfl, ?_⟩
  change t.dispose.Agrees ↔ _
  rw [t.dispose_agrees_iff, h.depicts.indicator, h.depicts.line, h.last]
  rfl

/-- One that never connected is gone without a trace. -/
theorem run_dispose_agrees_iff_unanswered :
    let ss : List Step := [.request .start, .keydown (some { key := "a" }), .socket none .error]
    let after := (run ss (Browser.create none { page := {} }).2).2
    (∀ s ∈ ss, s.keepsPicture = true) ∧
      (∀ client ∈ after.client?, (⟨client, after.page⟩ : Terminal).dispose.Agrees) ∧
      ∃ client, after.client? = some client ∧
        ((⟨client, after.page⟩ : Terminal).dispose.Agrees ↔
          client.session.lastStatus? ≠ some .connected ∧ client.session.pendingLine = "") := by
  intro ss after
  have hs : ∀ s ∈ ss, s.keepsPicture = true := by decide
  exact ⟨hs, by decide +kernel,
    @run_dispose_agrees_iff {} none {} Page.complete_new Page.blank_new Page.able_new rfl ss hs⟩

/-- So one that is disposed of while it is connected leaves its indicator as it was. -/
theorem not_dispose_agrees :
    ¬ ∀ (p : Page) (config? : Option String) (ss : List Step), p.Complete → p.Blank → p.Able →
      (∀ s ∈ ss, s.keepsPicture = true) →
      let after := (run ss (Browser.create config? { page := p }).2).2
      ∀ client ∈ after.client?, (⟨client, after.page⟩ : Terminal).dispose.Agrees := by
  intro h
  have hi := h {} none [.request .start, .socket none .opened] Page.complete_new Page.blank_new
    Page.able_new (by decide)
  revert hi
  decide +kernel

end Browser

end WebTerminal
