import WebTerminal.Browser.Step
import WebTerminal.Proofs.Browser.Binding
import WebTerminal.Proofs.World.Likeness

/-! # Pages that cannot be told apart

Where whatever is done to two related pages leaves them related and is answered alike, a client does
on the one just what it does on the other, and so does a browser through a whole run. Steps that
keep a page related to itself can then be left out of a run, and what an observer sees of the
related pages stays the same. -/

namespace WebTerminal

open Session (Console)

namespace Browser

/-- What a client asks of its page, and what else is done to a page, keeps the relation and is
answered alike. A page may fail to be focused where the other does not. -/
structure Page.Respects (R : Page → Page → Prop) : Prop where
  perform (o : Session.Operation) {k k' : Console Page} (h : Console.Like R k k') :
    Alike (Console.Like R) (k.perform o) (k'.perform o)
  note (n : Notice) {p p' : Page} (h : R p p') : R (p.note n) (p'.note n)
  setText (id : ElementId) (s : String) {p p' : Page} (h : R p p') :
    R (p.setText id s) (p'.setText id s)
  focus (c : Client) {p p' : Page} (h : R p p') :
    R (Terminal.focus ⟨c, p⟩).page (Terminal.focus ⟨c, p'⟩).page
  clicked (c? : Option Client) {p p' : Page} (h : R p p') :
    R (Browser.clicked .focus ⟨p, c?⟩).page (Browser.clicked .focus ⟨p', c?⟩).page
  throws (binding : Terminal.Binding) {p p' : Page} (h : R p p') :
    p.throws binding.hazard = p'.throws binding.hazard
  bound (binding : Terminal.Binding) {p p' : Page} (h : R p p') :
    R (p.bound [binding]) (p'.bound [binding])
  unlisten (l : Listener) {p p' : Page} (h : R p p') : R (p.unlisten l) (p'.unlisten l)
  prepare (config? : Option String) {p p' : Page} (h : R p p') :
    Client.prepare config? p = Client.prepare config? p'
  present (id : ElementId) {p p' : Page} (h : R p p') : (p.find? id).isSome = (p'.find? id).isSome
  listenersTo (target? : Option ElementId) {p p' : Page} (h : R p p') :
    p.listenersTo target? = p'.listenersTo target?
  sockets {p p' : Page} (h : R p p') : p.sockets = p'.sockets
  timers {p p' : Page} (h : R p p') : p.timers = p'.timers
  withTimers (ts : List Timer) {p p' : Page} (h : R p p') :
    R { p with timers := ts } { p' with timers := ts }
  setThrow (hazard : Hazard) (v? : Option Thrown) {p p' : Page} (h : R p p') :
    R (p.setThrow hazard v?) (p'.setThrow hazard v?)
  setEcho (text? : Option String) {p p' : Page} (h : R p p') :
    R { p with echo? := text? } { p' with echo? := text? }
  remove (id : ElementId) {p p' : Page} (h : R p p') : R (p.remove id) (p'.remove id)

variable {R : Page → Page → Prop}

/-! ## The client -/

namespace Terminal

/-- The same client on related pages. -/
inductive Like (R : Page → Page → Prop) : Terminal → Terminal → Prop where
  | mk (c : Client) {p p' : Page} (h : R p p') : Like R ⟨c, p⟩ ⟨c, p'⟩

variable {t t' : Terminal}

namespace Like

theorem client (h : Like R t t') : t.client = t'.client := by
  obtain ⟨c, hp⟩ := h
  rfl

theorem page (h : Like R t t') : R t.page t'.page := by
  obtain ⟨c, hp⟩ := h
  exact hp

theorem console (h : Like R t t') : Console.Like R t.console t'.console := by
  obtain ⟨c, hp⟩ := h
  exact ⟨c.session, hp⟩

theorem withConsole (h : Like R t t') {k k' : Console Page} (hk : Console.Like R k k') :
    Like R (t.withConsole k) (t'.withConsole k') := by
  obtain ⟨c, hp⟩ := h
  obtain ⟨s, hw⟩ := hk
  exact ⟨_, hw⟩

variable (hR : Page.Respects R) (h : Like R t t')
include hR h

/-- Whatever is done to the session. -/
theorem perform (o : Session.Operation) :
    Like R (t.act fun k => (k.perform o).2) (t'.act fun k => (k.perform o).2) :=
  h.withConsole (hR.perform o h.console).2

theorem showLine : Like R t.showLine t'.showLine := by
  obtain ⟨c, hp⟩ := h
  unfold Terminal.showLine
  split
  · exact ⟨c, hR.setText _ _ hp⟩
  · exact ⟨c, hp⟩

theorem focus : Like R t.focus t'.focus := by
  have hclient (t : Terminal) : t.focus.client = t.client := by
    unfold Terminal.focus
    split
    · rfl
    · split <;> rfl
  obtain @⟨c, p, p', hp⟩ := h
  have hfocus (p : Page) : Terminal.focus ⟨c, p⟩ = ⟨c, (Terminal.focus ⟨c, p⟩).page⟩ :=
    congrArg (Terminal.mk · _) (hclient ⟨c, p⟩)
  rw [hfocus p, hfocus p']
  exact ⟨c, hR.focus c hp⟩

theorem press (k : Keystroke) : Alike (Like R) (t.press k) (t'.press k) := by
  obtain ⟨ha, hk⟩ := hR.perform (.press k) h.console
  exact ⟨Session.Answer.action.inj ha, (h.withConsole hk).showLine hR⟩

theorem unlistenAll : Like R t.unlistenAll t'.unlistenAll := by
  obtain @⟨c, p, p', hp⟩ := h
  refine ⟨{ c with listeners := [] }, ?_⟩
  induction c.listeners generalizing p p' with
  | nil => exact hp
  | cons l ls ih => exact ih (hR.unlisten l hp)

theorem dispose : Like R t.dispose t'.dispose := (h.unlistenAll hR).perform hR .shutdown

theorem answerRequest (r : Request) :
    Alike (Like R) (Browser.answerRequest r t) (Browser.answerRequest r t') := by
  cases r with
  | start => exact .same _ ((h.perform hR .start).focus hR)
  | press k =>
    obtain ⟨ha, ht⟩ := h.press hR k
    exact ⟨congrArg (fun a : KeyAction => Answer.flag a.isInput) ha, ht⟩
  | clear => exact .same _ (h.perform hR .clear)
  | close => exact .same _ (h.perform hR .close)
  | reconnect => exact .same _ (h.perform hR .reconnect)
  | dispose => exact .same _ (h.dispose hR)
  | pendingLine | isConnected | statistics =>
    obtain ⟨c, hp⟩ := h
    exact .same _ ⟨c, hp⟩

theorem bindAll (bs : List Binding) :
    Alike (Like R) (Terminal.bindAll bs t) (Terminal.bindAll bs t') := by
  induction bs generalizing t t' with
  | nil => exact .same _ h
  | cons binding bs ih =>
    unfold Terminal.bindAll
    rw [bind_eq, bind_eq, hR.throws binding h.page]
    cases t'.page.throws binding.hazard with
    | some v => exact .same _ h
    | none =>
      obtain ⟨c, hp⟩ := h
      exact ih ⟨_, hR.bound binding hp⟩

end Like

end Terminal

/-- A client is made on both pages or on neither, and it is the same one. -/
theorem Client.create_alike (hR : Page.Respects R) {p p' : Page} (h : R p p')
    (config? : Option String) :
    (∃ r p₁ p₁', Client.create config? p = (.error r, p₁) ∧
        Client.create config? p' = (.error r, p₁') ∧ R p₁ p₁') ∨
      ∃ c p₁ p₁', Client.create config? p = (.ok c, p₁) ∧
        Client.create config? p' = (.ok c, p₁') ∧ R p₁ p₁' := by
  unfold Client.create
  rw [hR.prepare config? h]
  cases Client.prepare config? p' with
  | error r => exact .inl ⟨r, p, p', rfl, rfl, h⟩
  | ok prepared =>
    obtain ⟨config, url⟩ := prepared
    have hn := hR.note (.clientReady url config.mode) h
    dsimp only
    unfold Terminal.bindings
    rw [hR.present .inputLine hn, hR.present .clearButton hn]
    obtain ⟨v?, t, t', ht, ht', hl⟩ :=
      ((Terminal.Like.mk ⟨config.session url, _, []⟩ hn).bindAll hR _).exists_eq
    rw [ht, ht']
    cases v? with
    | none =>
      obtain ⟨c, hp⟩ := hl
      exact .inr ⟨c, _, _, rfl, rfl, hp⟩
    | some v => exact .inl ⟨_, _, _, rfl, rfl, (hl.dispose hR).page⟩

/-! ## The browser -/

/-- The same client, or none, on related pages. -/
structure Like (R : Page → Page → Prop) (b b' : Browser) : Prop where
  client : b.client? = b'.client?
  page : R b.page b'.page

variable {b b' : Browser}

namespace Like

theorem withPage (h : Like R b b') {p p' : Page} (hp : R p p') :
    Like R { b with page := p } { b' with page := p' } := ⟨h.client, hp⟩

theorem act (h : Like R b b') {f : Terminal → Terminal}
    (hf : ∀ {t t'}, Terminal.Like R t t' → Terminal.Like R (f t) (f t')) :
    Like R (b.act f) (b'.act f) := by
  unfold Browser.act
  rw [h.client]
  cases b'.client? with
  | none => exact h
  | some client =>
    have ht := hf (.mk client h.page)
    exact ⟨congrArg some ht.client, ht.page⟩

variable (hR : Page.Respects R) (h : Like R b b')
include hR h

theorem discard : Like R b.discard b'.discard := ⟨rfl, (h.act (·.dispose hR)).page⟩

theorem create (config? : Option String) :
    Alike (Like R) (b.create config?) (b'.create config?) := by
  unfold Browser.create
  rcases Client.create_alike hR (h.discard hR).page config? with
    ⟨r, p₁, p₁', hc, hc', hp⟩ | ⟨client, p₁, p₁', hc, hc', hp⟩
  · rw [hc, hc']
    exact .same _ ⟨rfl, hp⟩
  · rw [hc, hc']
    exact .same _ ⟨rfl, hp⟩

theorem request (r : Request) : Alike (Like R) (b.request r) (b'.request r) := by
  unfold Browser.request
  rw [h.client]
  cases b'.client? with
  | none => exact .same _ h
  | some client =>
    obtain ⟨ha, ht⟩ := Terminal.Like.answerRequest hR (.mk client h.page) r
    exact ⟨ha, congrArg some ht.client, ht.page⟩

theorem keydown (k? : Option Keystroke) :
    Alike (Like R) (b.keydown k?) (b'.keydown k?) := by
  unfold Browser.keydown
  rw [h.client, hR.listenersTo none h.page]
  dsimp only
  split
  · rename_i _ k client _ _ _
    obtain ⟨ha, ht⟩ := Terminal.Like.press hR (.mk client h.page) k
    refine ⟨?_, congrArg some ht.client, ht.page⟩
    rw [ha]
  · exact .same _ h

theorem clicked (l : Listener) : Like R (b.clicked l) (b'.clicked l) := by
  cases l with
  | keyboard => exact h
  | focus =>
    have hclient (b : Browser) : (b.clicked .focus).client? = b.client? := by
      unfold Browser.clicked
      dsimp only
      split <;> rfl
    obtain ⟨p, c?⟩ := b
    obtain ⟨p', c'?⟩ := b'
    obtain rfl : c? = c'? := h.client
    exact ⟨(hclient ⟨p, c?⟩).trans (hclient ⟨p', c?⟩).symm, hR.clicked c? h.page⟩
  | clear => exact h.act fun ht => ht.perform hR .clear

theorem click (id : ElementId) : Alike (Like R) (b.click id) (b'.click id) := by
  unfold Browser.click
  rw [hR.listenersTo (some id) h.page]
  refine ⟨rfl, ?_⟩
  dsimp only
  induction b'.page.listenersTo (some id) generalizing b b' with
  | nil => exact h
  | cons l ls ih => exact ih (h.clicked hR l)

theorem hear (e : Epoch) (event : SocketEvent) : Like R (b.hear e event) (b'.hear e event) := by
  cases event with
  | opened => exact h.act fun ht => ht.perform hR (.signal e .opened)
  | error => exact h.act fun ht => ht.perform hR (.signal e (.error "error"))
  | closed code clean =>
    have hn := hR.note (.socketClosed code clean) h.page
    exact (h.withPage hn).act fun ht => ht.perform hR (.signal e .closed)
  | message payload =>
    unfold Browser.hear
    dsimp only
    cases payload.bytes? with
    | some chunk => exact h.act fun ht => ht.perform hR (.signal e (.message chunk))
    | none => exact h.withPage (hR.note _ h.page)

theorem socket (s? : Option SocketId) (event : SocketEvent) :
    Alike (Like R) (b.socket s? event) (b'.socket s? event) := by
  unfold Browser.socket
  rw [hR.sockets h.page]
  dsimp only
  split
  · split
    · exact .same _ (h.hear hR _ event)
    · exact .same _ h
  · exact .same _ h

theorem timer : Alike (Like R) b.timer b'.timer := by
  unfold Browser.timer Page.takeTimer
  rw [hR.timers h.page]
  cases b'.page.timers with
  | nil => exact .same _ h
  | cons t rest =>
    have htaken := h.withPage (hR.withTimers rest h.page)
    exact .same _ (htaken.act fun ht => ht.perform hR (.retryDue t.epoch))

theorem perform (s : Step) : Alike (Like R) (b.perform s) (b'.perform s) := by
  cases s with
  | create config? => exact h.create hR config?
  | discard => exact .same _ (h.discard hR)
  | request r => exact h.request hR r
  | keydown k? => exact h.keydown hR k?
  | click id => exact h.click hR id
  | socket s? event => exact h.socket hR s? event
  | timer => exact h.timer hR
  | setThrow hazard v? => exact .same _ (h.withPage (hR.setThrow hazard v? h.page))
  | setEcho text? => exact .same _ (h.withPage (hR.setEcho text? h.page))
  | remove id => exact .same _ (h.withPage (hR.remove id h.page))

theorem run (ss : List Step) : Alike (Like R) (Browser.run ss b) (Browser.run ss b') := by
  induction ss generalizing b b' with
  | nil => exact .same _ h
  | cons s ss ih =>
    obtain ⟨ha, hl⟩ := h.perform hR s
    obtain ⟨has, hls⟩ := ih hl
    refine ⟨?_, hls⟩
    unfold Browser.run
    rw [ha, has]

end Like

/-! ## What an observer sees of a run -/

/-- After every step that is not skipped, the answer to it, the client, and what is seen of the
page. -/
def observed {α : Type} (see : Page → α) (skip : Step → Bool) :
    List Step → Browser → List (Answer × Option Client × α)
  | [], _ => []
  | s :: ss, b =>
    if skip s then observed see skip ss (b.perform s).2
    else
      ((b.perform s).1, (b.perform s).2.client?, see (b.perform s).2.page) ::
        observed see skip ss (b.perform s).2

/-- Steps that are skipped can be left out when they keep a browser like what it was like. -/
theorem Like.observed_eq {α : Type} {see : Page → α} {skip : Step → Bool} (hR : Page.Respects R)
    (hsee : ∀ {p p'}, R p p' → see p = see p')
    (hskip : ∀ {s : Step} {b b'}, skip s = true → Like R b b' → Like R (b.perform s).2 b')
    (h : Like R b b') (ss : List Step) :
    observed see skip ss b = observed see skip (ss.filter fun s => !skip s) b' := by
  induction ss generalizing b b' with
  | nil => rfl
  | cons s ss ih =>
    cases hs : skip s with
    | true =>
      -- the second run stands still, and the first stays like it
      rw [observed, if_pos hs, List.filter_cons_of_neg (by simp [hs])]
      exact ih (hskip hs h)
    | false =>
      obtain ⟨ha, hl⟩ := h.perform hR s
      have hn : ¬ skip s = true := by simp [hs]
      rw [observed, if_neg hn, List.filter_cons_of_pos (by simp [hs]), observed, if_neg hn, ha,
        hl.client, hsee hl.page, ih hl]

end Browser

end WebTerminal
