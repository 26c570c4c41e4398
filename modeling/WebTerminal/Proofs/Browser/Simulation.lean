import WebTerminal.Proofs.Browser.Happens
import WebTerminal.Proofs.Browser.Tally

/-! # The bench in place of the page

A client on a page goes the way that its session would go on the bench, when what happens on the
page is told to that session: a socket reports with its epoch, whether or not it still has handlers,
and the timer of the page is the one that is live on the bench. -/

namespace WebTerminal

open Session (Console)
open Browser (Shown Happens Page)

namespace Session.Console

theorem runSteps_append (ss ss' : List (Bench.Step Operation)) (c : Console Bench) :
    (runSteps (ss ++ ss') c).2 = (runSteps ss' (runSteps ss c).2).2 := by
  induction ss generalizing c with
  | nil => rfl
  | cons s ss ih => exact ih (c.step s).2

variable {k k' : Console Page} {c : Console Bench}

theorem Mocks.shown (h : Mocks k c) (hs : Shown k k') : Mocks k' c := by
  obtain ⟨s', p'⟩ := k'
  obtain rfl : s' = k.session := hs.session
  exact h.withPage hs.page.sockets hs.page.timers hs.page.nextTimer

theorem Mocks.coherent (h : Mocks k c) : Connection.Coherent k.session.connection := by
  obtain ⟨_, ha⟩ := h.accounted
  rw [h.abreast.connection]
  exact ha.coherent

theorem Mocks.happens {o? : Option Operation} (h : Mocks k c) (hr : Page.Ready k.world c.world)
    (hk : Happens o? k k') (ho : ∀ e, o? ≠ some (.retryDue e)) :
    Mocks k' (runSteps (o?.toList.map .perform) c).2 := by
  cases hk with
  | shown hs => exact h.shown hs
  | performed o hs hs' =>
    have hnot (e : Epoch) : o ≠ .retryDue e := by
      intro he
      exact ho e (congrArg some he)
    exact ((h.shown hs).perform (hr.congr hs.page rfl) hnot).shown hs'

end Session.Console

namespace Browser

/-- What happens to the session in a step, told on the bench. -/
def Step.mocked (s : Step) (p : Page) : List (Bench.Step Session.Operation) :=
  match s with
  | .timer => [.fire]
  | _ => (s.operation? p).toList.map .perform

/-- The bench refuses a socket or a frame where the page throws. -/
def Page.hazards (p : Page) : List (Bench.Step Session.Operation) :=
  [.refuse (if (p.throws .socket).isSome then 1 else 0), .breakPipe (p.throws .send).isSome]

/-- A run on the page, told on the bench. -/
def mocked : List Step → Browser → List (Bench.Step Session.Operation)
  | [], _ => []
  | s :: ss, b => b.page.hazards ++ s.mocked b.page ++ mocked ss (b.perform s).2

open Session.Console (Mocks runSteps runSteps_append)

variable {b : Browser} {k : Console Page} {c : Console Bench}

/-- The bench can be told what the page will do. -/
theorem mocks_hazards (h : Mocks k c) :
    Mocks k (runSteps k.world.hazards c).2 ∧
      Page.Ready k.world (runSteps k.world.hazards c).2.world := by
  have hm : Mocks k (runSteps k.world.hazards c).2 := h.withBench rfl rfl rfl rfl
  refine ⟨hm, hm.abreast.world, ?_, rfl⟩
  show decide (0 < if (k.world.throws .socket).isSome = true then (1 : UInt32) else 0) = _
  cases (k.world.throws .socket).isSome <;> rfl

theorem Step.operation_ne_retryDue (s : Step) (p : Page) (e : Epoch) :
    s.operation? p ≠ some (.retryDue e) := by
  cases s with
  | request r => exact r.operation_ne_retryDue e
  | socket s? event => simp [operation?, Option.bind_eq_some_iff]
  | keydown k? => simp [operation?]
  | click id => simp [operation?]
  | _ => simp [operation?]

/-- One step on the page is what it is told to be on the bench. -/
theorem mocks_perform {s : Step} (hs : s.keepsClient = true) (hb : b.console? = some k)
    (h : Mocks k c) (hn : k.world.epochs.Nodup) :
    ∃ k', (b.perform s).2.console? = some k' ∧
      Mocks k' (runSteps (b.page.hazards ++ s.mocked b.page) c).2 := by
  obtain ⟨hm, hr⟩ := mocks_hazards h
  rw [runSteps_append, page_eq hb]
  generalize (runSteps k.world.hazards c).2 = c at hm hr
  have acts {b' : Browser} (ht : s ≠ .timer)
      (h' : ∃ k', b'.console? = some k' ∧ Happens (s.operation? b.page) k k') :
      ∃ k', b'.console? = some k' ∧ Mocks k' (runSteps (s.mocked k.world) c).2 := by
    obtain ⟨k', hk', hh⟩ := h'
    rw [page_eq hb] at hh
    have hmocked : s.mocked k.world = (s.operation? k.world).toList.map .perform := by
      cases s with
      | timer => exact absurd rfl ht
      | _ => rfl
    rw [hmocked]
    exact ⟨k', hk', hm.happens hr hh (s.operation_ne_retryDue k.world)⟩
  cases s with
  | create _ | discard => cases hs
  | request r => exact acts (by simp) (request_happens r hb)
  | keydown k? => exact acts (by simp) (keydown_happens k? hb)
  | click id => exact acts (by simp) (click_happens id hb)
  | socket s? event =>
    exact acts (by simp) (socket_happens s? event hb hm.attached hm.coherent hn)
  | setEcho text? =>
    refine acts (by simp) ⟨_, console?_withPage _ hb, .shown ⟨rfl, ?_⟩⟩
    rw [page_eq hb]
    exact ⟨rfl, rfl, rfl, rfl⟩
  | remove id =>
    refine acts (by simp) ⟨_, console?_withPage _ hb, .shown ⟨rfl, ?_⟩⟩
    rw [page_eq hb]
    exact ⟨rfl, rfl, rfl, rfl⟩
  | setThrow hazard v? =>
    refine ⟨_, console?_withPage _ hb, ?_⟩
    rw [page_eq hb]
    exact hm.withPage rfl rfl rfl
  | timer =>
    show ∃ k', b.timer.2.console? = some k' ∧ Mocks k' (c.step .fire).2
    unfold Session.Console.step
    rcases hm.fire hr with ⟨hpage, hbench⟩ | ⟨t, p, w, hpage, hbench, hfired⟩
    · rw [hbench]
      rcases timer_cases hb with ⟨-, hb'⟩ | ⟨t, p, htaken, -⟩
      · exact ⟨k, hb', hm⟩
      · rw [hpage] at htaken
        cases htaken
    · rw [hbench]
      rcases timer_cases hb with ⟨hnone, -⟩ | ⟨t', p', htaken, hb'⟩
      · rw [hpage] at hnone
        cases hnone
      · rw [hpage] at htaken
        cases htaken
        exact ⟨_, hb', hfired⟩

/-- A run on the page is what it is told to be on the bench. -/
theorem mocks_run {ss : List Step} (hs : ∀ s ∈ ss, s.keepsClient = true) (hb : b.console? = some k)
    (h : Mocks k c) (hn : (run ss b).2.page.epochs.Nodup) :
    ∃ k', (run ss b).2.console? = some k' ∧ Mocks k' (runSteps (mocked ss b) c).2 := by
  induction ss generalizing b k c with
  | nil => exact ⟨k, hb, h⟩
  | cons s ss ih =>
    obtain ⟨hone, hrest⟩ := List.forall_mem_cons.mp hs
    obtain ⟨k₂, hk₂, hg⟩ := run_grows hs hb
    -- sockets are only added, so that they differ now as they do in the end
    have hnow : k.world.epochs.Nodup := by
      rw [page_eq hk₂] at hn
      exact hn.sublist hg.epochs.sublist
    obtain ⟨k₁, hk₁, hm₁⟩ := mocks_perform hone hb h hnow
    rw [mocked, runSteps_append]
    exact ih hrest hk₁ hm₁ hn

/-! ## A client on a complete page -/

/-- A new page with all that a client needs. Only sockets and frames may throw on it. -/
structure Page.Complete (p : Page) : Prop where
  window : p.hasWindow = true
  document : p.hasDocument = true
  onPage : ∀ id, (p.elements id).onPage = true
  isHtml : ∀ id, (p.elements id).isHtml = true
  throws : ∀ h, h ≠ .socket → h ≠ .send → p.throws h = none
  sockets : p.sockets = []
  timers : p.timers = []
  nextTimer : p.nextTimer = 0

namespace Terminal

theorem bindAll_eq_none (bs : List Binding) (t : Terminal)
    (hl : ∀ l, t.page.throws (.listen l) = none) (ha : t.page.throws .setAttribute = none) :
    (bindAll bs t).1 = none := by
  obtain ⟨-, -, -, hnone⟩ := bindAll_bound bs t
  refine hnone.mpr fun binding _ => ?_
  cases binding with
  | listen l => exact hl l
  | tabIndex => exact ha

theorem bindAll_shown (bs : List Binding) (t : Terminal)
    (hl : ∀ l, t.page.throws (.listen l) = none) (ha : t.page.throws .setAttribute = none) :
    ∃ t', bindAll bs t = (none, t') ∧ Shown t.console t'.console :=
  ⟨_, Prod.ext (bindAll_eq_none bs t hl ha) rfl, t.shown_bindAll bs⟩

end Terminal

namespace Page.Complete

variable {p : Page} {config? : Option String} {config : Config}

theorem prepare (h : p.Complete) (hc : config?.elim (.ok {}) Config.ofJson = .ok config) :
    Client.prepare config? p = .ok (config, config.url p.protocol p.host) := by
  have hfind (id : ElementId) : p.requireElement id = .ok (p.elements id) := by
    simp [Page.requireElement, Page.find?, h.onPage id]
  have hhtml : p.requireHtml .terminal = .ok () := by
    simp [Page.requireHtml, hfind, h.isHtml, bind, Except.bind]
  have hdocument : p.requireDocument = .ok () := by
    simp [Page.requireDocument, h.window, h.document]
  have hhost : p.requireHost = .ok p.host := by simp [Page.requireHost, h.throws]
  have hprotocol : p.protocolOrPlain = p.protocol := by simp [Page.protocolOrPlain, h.throws]
  cases config? with
  | none =>
    obtain rfl := Except.ok.inj hc
    simp only [Client.prepare, hdocument, hfind, hhtml, hhost, hprotocol]
    rfl
  | some text =>
    rw [Option.elim_some] at hc
    simp only [Client.prepare, hc, hdocument, hfind, hhtml, hhost, hprotocol]
    rfl

/-- On a complete page a client can always be made, and the page then has no sockets and timers
yet. -/
theorem create (h : p.Complete) (hc : config?.elim (.ok {}) Config.ofJson = .ok config) :
    ∃ client p', Client.create config? p = (.ok client, p') ∧
      Shown ⟨config.session (config.url p.protocol p.host), p⟩ ⟨client.session, p'⟩ := by
  unfold Client.create
  rw [h.prepare hc]
  dsimp only
  generalize hp : p.note (.clientReady (config.url p.protocol p.host) config.mode) = noted
  have hkeeps : p.Keeps noted := by
    rw [← hp]
    exact ⟨rfl, rfl, rfl, rfl⟩
  obtain ⟨t, ht, hs⟩ := Terminal.bindAll_shown (Terminal.bindings noted)
    ⟨⟨config.session (config.url p.protocol p.host), (noted.find? .inputLine).isSome, []⟩, noted⟩
    (fun l => by simp [hkeeps.throws, h.throws]) (by simp [hkeeps.throws, h.throws])
  rw [ht]
  exact ⟨t.client, t.page, rfl, hs.session, hkeeps.trans hs.page⟩

theorem mocks (h : p.Complete) (url : String) (config : Config) :
    Mocks ⟨config.session url, p⟩ ⟨config.session url, {}⟩ where
  abreast := ⟨rfl, rfl, rfl, ⟨by simp [h.sockets], h.timers.symm, h.nextTimer.symm⟩⟩
  encoder := rfl
  attached := ⟨by simp [Config.session], by simp [h.sockets]⟩
  accounted := ⟨[], Connection.Link.accounted_new url config.policy⟩

end Page.Complete

/-- On a complete page a client is made for every configuration that is accepted. Whatever happens
then, its session goes the way that it goes on the bench when it is told there, unless two sockets
share an epoch; in fewer than `2 ^ 64` steps none do. -/
theorem run_mocked {p : Page} (hp : p.Complete) {config? : Option String} {config : Config}
    (hc : config?.elim (.ok {}) Config.ofJson = .ok config) {ss : List Step}
    (hs : ∀ s ∈ ss, s.keepsClient = true) :
    let created := Browser.create config? { page := p }
    let after := (run ss created.2).2
    let c : Console Bench := ⟨config.session (config.url p.protocol p.host), {}⟩
    created.1 = .created ∧ (ss.length < 2 ^ 64 → after.page.epochs.Nodup) ∧
      (after.page.epochs.Nodup →
        after.client?.map (·.session) = some (runSteps (mocked ss created.2) c).2.session) := by
  obtain ⟨client, p', hcreate, hshown⟩ := hp.create hc
  have hcreated : Browser.create config? { page := p } = (.created, ⟨p', some client⟩) := by
    have hdiscard : (discard { page := p }).page = p := rfl
    unfold Browser.create
    rw [hdiscard, hcreate]
  rw [hcreated]
  have hm := (hp.mocks (config.url p.protocol p.host) config).shown hshown
  have hb : (⟨p', some client⟩ : Browser).console? = some ⟨client.session, p'⟩ := rfl
  refine ⟨rfl, ?_, ?_⟩
  · intro hn
    obtain ⟨k', hk', hg⟩ := run_grows hs hb
    have hordered : Connection.Ordered 0 client.session.connection p'.epochs := by
      obtain ⟨hsession, hkeeps⟩ := hshown
      dsimp only at hsession hkeeps
      rw [Page.epochs, hkeeps.sockets, hsession, hp.sockets]
      exact ⟨rfl, .nil, by simp⟩
    obtain ⟨m, -, ho⟩ := hg.ordered hordered (by simpa using hn)
    rw [page_eq hk']
    exact Epoch.nodup_of_increasing ho.increasing
  · intro hn
    obtain ⟨k', hk', hm'⟩ := mocks_run hs hb hm hn
    obtain ⟨client', hc', rfl⟩ := Option.map_eq_some_iff.mp hk'
    rw [hc', ← hm'.session_eq]
    rfl

/-- The first socket has lost its handlers when it is closed, the third attempt is refused, and the
timer makes a fourth. -/
theorem run_mocked_detached :
    let ss : List Step :=
      [.request .start, .socket none .opened, .keydown (some { key := "a" }), .request .reconnect,
        .socket (some ⟨0⟩) (.closed 1006 false), .setThrow .socket (some (.text "no")),
        .request .reconnect, .setThrow .socket none, .timer]
    let p : Page := {}
    let config : Config := {}
    let created := Browser.create none { page := p }
    let after := (run ss created.2).2
    let c : Console Bench := ⟨config.session (config.url p.protocol p.host), {}⟩
    after.page.sockets.map (·.attached) = [false, false, true] ∧
      (runSteps (mocked ss created.2) c).2.world.epochs = [⟨1⟩, ⟨2⟩, ⟨4⟩] ∧
      after.client?.map (·.session) = some (runSteps (mocked ss created.2) c).2.session := by
  have hp : ({} : Page).Complete :=
    ⟨rfl, rfl, fun _ => rfl, fun _ => rfl, fun _ _ _ => rfl, rfl, rfl, rfl⟩
  refine ⟨by decide +kernel, by decide +kernel, ?_⟩
  refine (@run_mocked {} hp none {} rfl _ ?_).2.2 ?_
  · decide
  · decide +kernel

end Browser

end WebTerminal
