import WebTerminal.Proofs.Browser.Binding
import WebTerminal.Proofs.Json.Tokens

/-! # Clients that are refused

Just when a client can be made on a page. Where it cannot, what was already bound to the page is
taken off again, and nothing else has been touched. -/

namespace WebTerminal.Browser

/-! ## What a client requires -/

/-- The page has all that a client needs and lets itself be bound. -/
structure Page.Welcomes (p : Page) : Prop where
  hasWindow : p.hasWindow = true
  hasDocument : p.hasDocument = true
  output : (p.elements .output).onPage = true
  terminal : (p.elements .terminal).onPage = true
  isHtml : (p.elements .terminal).isHtml = true
  statusIndicator : (p.elements .statusIndicator).onPage = true
  statusText : (p.elements .statusText).onPage = true
  host : p.throws .host = none
  tabIndex : p.throws .setAttribute = none
  keyboard : p.throws (.listen .keyboard) = none
  focus : p.throws (.listen .focus) = none
  clear : (p.elements .clearButton).onPage = true → p.throws (.listen .clear) = none

namespace Page

variable {p : Page} {id : ElementId}

theorem requireDocument_eq_ok {u : Unit} :
    p.requireDocument = .ok u ↔ p.hasWindow = true ∧ p.hasDocument = true := by
  unfold requireDocument
  cases p.hasWindow <;> cases p.hasDocument <;> simp

theorem requireElement_eq_ok {e : Element} :
    p.requireElement id = .ok e ↔ (p.elements id).onPage = true ∧ p.elements id = e := by
  unfold requireElement find?
  cases (p.elements id).onPage <;> simp

theorem requireHtml_eq_ok {u : Unit} :
    p.requireHtml id = .ok u ↔
      (p.elements id).onPage = true ∧ (p.elements id).isHtml = true := by
  simp only [requireHtml, Json.bind_eq_ok, requireElement_eq_ok]
  cases hh : (p.elements id).isHtml <;> simp [hh]

theorem requireHost_eq_ok {host : String} :
    p.requireHost = .ok host ↔ p.throws .host = none ∧ p.host = host := by
  unfold requireHost
  cases p.throws .host <;> simp

end Page

theorem exists_bind_eq_ok {ε α β : Type} {x : Except ε α} {f : α → Except ε β} :
    (∃ b, (x >>= f) = .ok b) ↔ ∃ a, x = .ok a ∧ ∃ b, f a = .ok b := by
  simp only [Json.bind_eq_ok]
  exact ⟨fun ⟨b, a, hx, hf⟩ => ⟨a, hx, b, hf⟩, fun ⟨a, hx, b, hf⟩ => ⟨b, a, hx, hf⟩⟩

/-- What is asked of a page before anything is bound to it. -/
theorem Client.exists_prepare_iff (config? : Option String) (p : Page) :
    (∃ prepared, prepare config? p = .ok prepared) ↔
      (∀ text ∈ config?, ∃ config, Config.ofJson text = .ok config) ∧
      (p.hasWindow = true ∧ p.hasDocument = true) ∧ (p.elements .output).onPage = true ∧
      ((p.elements .terminal).onPage = true ∧ (p.elements .terminal).isHtml = true) ∧
      (p.elements .statusIndicator).onPage = true ∧ (p.elements .statusText).onPage = true ∧
      p.throws .host = none := by
  have hmapped {text : String} {config : Config} :
      (Config.ofJson text).mapError Refusal.config = .ok config ↔
        Config.ofJson text = .ok config := by
    cases Config.ofJson text <;> simp [Except.mapError]
  cases config? <;>
    simp [-bind_pure_comp, pure, Except.pure, prepare, exists_bind_eq_ok, hmapped,
      Page.requireDocument_eq_ok, Page.requireElement_eq_ok, Page.requireHtml_eq_ok,
      Page.requireHost_eq_ok]

/-! ## What is taken off again -/

namespace Terminal

/-- A session that has done nothing leaves nothing behind. -/
theorem dispose_page {t : Terminal} {config : Config} {url : String}
    (h : t.client.session = config.session url) : t.dispose.page = t.unlistenAll.page := by
  obtain ⟨⟨session, showsLine, listeners⟩, page⟩ := t
  obtain rfl : session = config.session url := h
  rfl

end Terminal

/-- The page is as it was. Things were bound to it in order, and then the listeners among them were
taken off again. -/
structure Page.Reverted (p p' : Page) : Prop where
  same : p' = { p with listeners := p'.listeners, calls := p'.calls, journal := p'.journal }
  listeners : p'.listeners.Perm p.listeners
  calls : ∃ done, done <+: Terminal.bindings p ∧
    p'.calls = p.calls ++ done.map Terminal.Binding.call ++
      (done.filterMap Terminal.Binding.listener?).map .unlisten
  journal : p.journal <+: p'.journal

theorem Page.Reverted.refl (p : Page) : p.Reverted p :=
  ⟨rfl, .refl _, ⟨[], List.nil_prefix, by simp⟩, List.prefix_rfl⟩

theorem Terminal.bound_reverted {t : Terminal} {config : Config} {url : String}
    (hs : t.client.session = config.session url) (hl : t.client.listeners = [])
    {done : List Binding} (hd : done <+: bindings t.page) :
    t.page.Reverted (t.bound done).dispose.page := by
  have hpage : (t.bound done).dispose.page = (t.bound done).unlistenAll.page := dispose_page hs
  have hbound : (t.bound done).client.listeners = done.filterMap Binding.listener? := by
    rw [bound, hl]
    rfl
  rw [hpage, unlistenAll_page, hbound]
  exact ⟨rfl, foldl_erase_perm List.perm_append_comm, ⟨done, hd, rfl⟩, List.prefix_rfl⟩

theorem Page.Reverted.of_note {p p' : Page} {n : Notice} (h : (p.note n).Reverted p') :
    p.Reverted p' := ⟨h.same, h.listeners, h.calls, (List.prefix_append _ _).trans h.journal⟩

/-- What a client is bound to without fail. -/
theorem Terminal.forall_bindings_iff (p : Page) :
    (∀ binding ∈ bindings p, p.throws binding.hazard = none) ↔
      p.throws (.listen .keyboard) = none ∧ p.throws .setAttribute = none ∧
        p.throws (.listen .focus) = none ∧
        ((p.elements .clearButton).onPage = true → p.throws (.listen .clear) = none) := by
  unfold bindings Page.find?
  cases (p.elements .clearButton).onPage <;> simp [Binding.hazard]

namespace Client

theorem create_of_refused {config? : Option String} {p : Page} {r : Refusal}
    (h : prepare config? p = .error r) : create config? p = (.error r, p) := by
  rw [create, h]

/-- A client that asks no more of the page is made unless something throws that it is bound by. -/
theorem create_of_prepared {config? : Option String} {p : Page} {prepared : Config × String}
    (h : prepare config? p = .ok prepared) :
    ((∃ c, (create config? p).1 = .ok c) ↔
      ∀ binding ∈ Terminal.bindings p, p.throws binding.hazard = none) ∧
    ∀ r, (create config? p).1 = .error r → p.Reverted (create config? p).2 := by
  obtain ⟨config, url⟩ := prepared
  unfold create
  rw [h]
  dsimp only
  generalize hn : Notice.clientReady url config.mode = n
  generalize ht : Terminal.mk ⟨config.session url, ((p.note n).find? .inputLine).isSome, []⟩
    (p.note n) = t
  have hp : t.page = p.note n := ht ▸ rfl
  obtain ⟨done, hprefix, hdone, hnone⟩ := Terminal.bindAll_bound (Terminal.bindings (p.note n)) t
  rw [hp] at hnone
  have hbound : (∀ binding ∈ Terminal.bindings p, p.throws binding.hazard = none) ↔
      (Terminal.bindAll (Terminal.bindings (p.note n)) t).1 = none := hnone.symm
  rw [hbound]
  generalize Terminal.bindAll (Terminal.bindings (p.note n)) t = r at hdone ⊢
  obtain ⟨v?, t'⟩ := r
  obtain rfl : t' = t.bound done := hdone
  cases v? with
  | none => simp
  | some v =>
    -- the client that is disposed of listens to just what it was bound to before the throw
    refine ⟨by simp, fun _ _ => ?_⟩
    have hreverted : t.page.Reverted (t.bound done).dispose.page := by
      subst ht
      exact Terminal.bound_reverted rfl rfl hprefix
    rw [hp] at hreverted
    exact hreverted.of_note

/-- A client is made just when its configuration is in order and the page welcomes it. Where it is
refused the page is as it was. -/
theorem create_iff (config? : Option String) (p : Page) :
    ((∃ c, (create config? p).1 = .ok c) ↔
      (∀ text ∈ config?, ∃ config, Config.ofJson text = .ok config) ∧ p.Welcomes) ∧
    ∀ r, (create config? p).1 = .error r → p.Reverted (create config? p).2 := by
  have hprepare := exists_prepare_iff config? p
  cases h : prepare config? p with
  | error r =>
    rw [create_of_refused h]
    refine ⟨?_, fun _ _ => .refl p⟩
    simp only [reduceCtorEq, exists_false, false_iff]
    rintro ⟨hc, hp⟩
    have hprepared := hprepare.mpr ⟨hc, ⟨hp.hasWindow, hp.hasDocument⟩, hp.output,
      ⟨hp.terminal, hp.isHtml⟩, hp.statusIndicator, hp.statusText, hp.host⟩
    rw [h] at hprepared
    obtain ⟨prepared, hprepared⟩ := hprepared
    cases hprepared
  | ok prepared =>
    obtain ⟨hcreate, hreverted⟩ := create_of_prepared h
    refine ⟨?_, hreverted⟩
    rw [hcreate, Terminal.forall_bindings_iff]
    obtain ⟨hc, ⟨hw, hd⟩, ho, ⟨ht, hh⟩, hi, hs, hhost⟩ := hprepare.mp ⟨prepared, h⟩
    constructor
    · rintro ⟨hkeyboard, htab, hfocus, hclear⟩
      exact ⟨hc, hw, hd, ho, ht, hh, hi, hs, hhost, htab, hkeyboard, hfocus, hclear⟩
    · rintro ⟨-, hp⟩
      exact ⟨hp.keyboard, hp.tabIndex, hp.focus, hp.clear⟩

/-- The last listener cannot be added, and the first two are taken off again. -/
example :
    let p : Page := { throws := fun h => if h = .listen .clear then some (.text "no") else none }
    let refused := create none p
    refused.2.listeners = [] ∧ refused.2.calls =
      [.listen .keyboard, .attribute .terminal "tabindex" "0", .listen .focus,
        .unlisten .keyboard, .unlisten .focus] := by
  decide +kernel

end Client

end WebTerminal.Browser
