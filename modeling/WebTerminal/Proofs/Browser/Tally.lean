import WebTerminal.Proofs.Browser.World
import WebTerminal.Proofs.Connection.Timers

/-! # A page and a bench that tally

A session on a page and the same session on a bench do the same, as long as the bench has the
sockets and timers that the page has and refuses what the page throws at. -/

namespace WebTerminal

namespace Bench

theorem bare_showing {f : Bench → Bench} (hf : Session.Console.Showing f) (b : Bench) :
    (f b).bare = b.bare := by
  cases hf with
  | focus =>
    simp only [Screen.focus]
    split <;> rfl
  | note | append | clear | scrollToEnd => rfl

theorem unshown_bare : Session.Console.Unshown bare where
  showing hf b := bare_showing hf b
  report _ _ := rfl

end Bench

namespace Browser.Page

/-- The bench has the sockets and the timers of the page. -/
structure Tallies (p : Page) (b : Bench) : Prop where
  sockets : b.opened = p.sockets.map fun k => (k.epoch, k.url)
  timers : b.live = p.timers
  count : b.scheduled.length = p.nextTimer

/-- And it refuses sockets and frames when the page throws instead. -/
structure Ready (p : Page) (b : Bench) : Prop extends Tallies p b where
  refuses : decide (0 < b.refusals) = (p.throws .socket).isSome
  breaks : b.brokenPipe = (p.throws .send).isSome

theorem Ready.forecast {p : Page} {b : Bench} (h : Ready p b) : b.forecast = p.forecast := by
  simp only [Bench.forecast, Page.forecast, h.sockets, h.count, h.refuses, h.breaks,
    List.length_map]

theorem Tallies.bare {p : Page} {b : Bench} (h : Tallies p b) : Tallies p b.bare :=
  ⟨h.sockets, h.timers, h.count⟩

theorem Tallies.congr {p p' : Page} {b b' : Bench} (h : Tallies p b) (hs : p'.sockets = p.sockets)
    (ht : p'.timers = p.timers) (hn : p'.nextTimer = p.nextTimer) (hb : b'.bare = b.bare) :
    Tallies p' b' where
  sockets := by
    rw [hs, ← h.sockets]
    exact congrArg (fun b => b.opened) hb
  timers := by
    rw [ht, ← h.timers]
    exact congrArg (fun b => b.live) hb
  count := by
    rw [hn, ← h.count]
    exact congrArg (fun b => b.scheduled.length) hb

theorem Ready.congr {p p' : Page} {b b' : Bench} (h : Ready p b) (hk : Keeps p p')
    (hb : b'.bare = b.bare) : Ready p' b' where
  toTallies := h.toTallies.congr hk.sockets hk.timers hk.nextTimer hb
  refuses := by
    rw [hk.throws, ← h.refuses]
    exact congrArg (fun b => decide (0 < b.refusals)) hb
  breaks := by
    rw [hk.throws, ← h.breaks]
    exact congrArg (fun b => b.brokenPipe) hb

theorem tolerates_of_keeps {R : Page → Bench → Prop}
    (hR : ∀ {p p' b b'}, R p b → Keeps p p' → b'.bare = b.bare → R p' b') :
    Screen.Tolerates R where
  note n _ _ h := hR h (keeps_showing (.note n) _) rfl
  line text _ style _ _ _ h := hR h (keeps_append text style _) rfl
  output text _ _ h := hR h (keeps_append text .output _) rfl
  clear h := hR h (keeps_showing .clear _) rfl
  scrollToEnd h := hR h (keeps_showing .scrollToEnd _) rfl
  focus h := hR h (keeps_showing .focus _) (Bench.bare_showing .focus _)
  report s _ _ h := hR h (keeps_report s _) rfl

theorem tolerates_tallies : Screen.Tolerates Tallies :=
  tolerates_of_keeps fun h hk hb => h.congr hk.sockets hk.timers hk.nextTimer hb

theorem tolerates_ready : Screen.Tolerates Ready :=
  tolerates_of_keeps fun h hk hb => h.congr hk hb

theorem map_detach (s : SocketId) (p : Page) :
    (p.detach s).sockets.map (fun k => (k.epoch, k.url)) =
      p.sockets.map fun k => (k.epoch, k.url) := map_silence (fun _ => rfl) s p.sockets

/-- Calls on the page do the same to the sockets and timers of the bench. -/
theorem Tallies.of_made {p p' : Page} {calls : List WebTerminal.Call} (hm : Made p calls p')
    {b : Bench} (h : Tallies p b) : Tallies p' (calls.foldl Bench.after b) := by
  induction hm generalizing b with
  | nil => exact h
  | note _ _ ih => exact ih ⟨h.sockets, h.timers, h.count⟩
  | @dial p _ calls url e r hr _ ih =>
    subst hr
    refine ih ?_
    show Tallies (p.dial url e).2 (b.after (.dial url e (p.dial url e).1))
    unfold dial
    split
    · exact ⟨h.sockets, h.timers, h.count⟩
    · refine ⟨?_, h.timers, h.count⟩
      show b.opened ++ [(e, url)] = (p.sockets ++ [_]).map _
      rw [List.map_append, ← h.sockets]
      rfl
  | @transmit p _ calls s f r hr _ ih =>
    subst hr
    have hk := keeps_transmit s f p
    exact ih (h.congr hk.sockets hk.timers hk.nextTimer rfl)
  | @hangUp p _ calls s _ ih =>
    have hk := hangUp_keeps s p
    refine ih ⟨?_, h.timers.trans hk.timers.symm, h.count.trans hk.nextTimer.symm⟩
    show b.opened = (p.hangUp s).sockets.map _
    rw [hk.sockets, map_detach]
    exact h.sockets
  | @release p _ calls s _ ih =>
    refine ih ⟨?_, h.timers, h.count⟩
    show b.opened = (p.detach s).sockets.map _
    rw [map_detach]
    exact h.sockets
  | @schedule p _ calls delay e r hr _ ih =>
    subst hr
    refine ih ⟨h.sockets, congrArg (· ++ [_]) h.timers, ?_⟩
    show (b.scheduled ++ [_]).length = p.nextTimer + 1
    rw [List.length_append, h.count]
    rfl
  | @cancel p _ calls t _ ih =>
    obtain ⟨hs, ht, hn, -⟩ := cancel_eq t p
    refine ih ⟨h.sockets.trans (congrArg (List.map _) hs.symm), ?_, h.count.trans hn.symm⟩
    show b.live.filter _ = (p.cancel t).timers
    rw [ht, h.timers]

end Browser.Page

open Browser (Page)

/-- Every operation on a connection does the same on the page and on the bench. -/
theorem Connection.Operation.keeps_tallies (k : Operation) :
    k.Keeps (· = ·) Page.Ready Page.Tallies := by
  intro l l' h
  obtain ⟨calls, hm, hmade⟩ := l.perform_moves k
  obtain ⟨calls', hm', hmade'⟩ := l'.perform_moves k
  have hφ := hm.foretold Page.reliable_forecast hmade
  have hφ' := hm'.foretold Bench.reliable_forecast hmade'
  rw [h.world.forecast] at hφ'
  rw [← h.connection] at hm'
  -- worlds of one forecast leave the connection one move, but for the words of a failure
  obtain ⟨ha, hc, hafter⟩ := hm.unique hφ hφ' hm'
  have ht := h.world.bare.of_made hmade
  rw [← Bench.foldl_after_terse, hc, Bench.foldl_after_terse, ← (Bench.bare_of_made hmade').1] at ht
  exact ⟨ha, hafter, ht.congr rfl rfl rfl rfl⟩

namespace Connection.Link

variable {l l' : Link Bench} {whole : Prop} {fired : List TimerId}

theorem timers_eq_of_bare (h : l'.world.bare = l.world.bare) : l'.timers = l.timers := by
  have ht := congrArg (fun b : Bench => Timers.mk b.scheduled b.live b.cancelled []) h
  exact ht

theorem Accounted.congr (h : Accounted whole fired l) (hc : l'.connection = l.connection)
    (ht : l'.timers = l.timers) : Accounted whole fired l' where
  coherent := hc ▸ h.coherent
  numbered := ht ▸ h.numbered
  tended := by
    rw [hc, ht]
    exact h.tended

end Connection.Link

namespace Session.Console

/-- The same session on the page and on the bench, where the timers and the handlers are in
order. -/
structure Mocks (k : Console Page) (c : Console Bench) : Prop where
  abreast : Abreast (· = ·) Page.Tallies k c
  encoder : k.session.encoder = c.session.encoder
  attached : Connection.Attached k.session.connection k.world.sockets
  accounted : ∃ fired, Connection.Link.Accounted True fired c.link

variable {k k' : Console Page} {c c' : Console Bench}

theorem Mocks.session_eq (h : Mocks k c) : k.session = c.session := by
  obtain ⟨⟨hc, hd, hl, -⟩, he, -, -⟩ := h
  generalize k.session = s at *
  generalize c.session = s' at *
  cases s
  cases s'
  simp_all

/-- Timers and sockets aside, it does not matter what becomes of the page. -/
theorem Mocks.withPage (h : Mocks k c) {p : Page} (hs : p.sockets = k.world.sockets)
    (ht : p.timers = k.world.timers) (hn : p.nextTimer = k.world.nextTimer) :
    Mocks { k with world := p } c where
  abreast := { h.abreast with world := h.abreast.world.congr hs ht hn rfl }
  encoder := h.encoder
  attached := by
    show Connection.Attached k.session.connection p.sockets
    rw [hs]
    exact h.attached
  accounted := h.accounted

/-- Nor does it matter what becomes of the bench. -/
theorem Mocks.withBench (h : Mocks k c) {b : Bench} (ho : b.opened = c.world.opened)
    (hs : b.scheduled = c.world.scheduled) (hl : b.live = c.world.live)
    (hc : b.cancelled = c.world.cancelled) : Mocks k { c with world := b } where
  abreast :=
    { h.abreast with world :=
      ⟨ho.trans h.abreast.world.sockets, hl.trans h.abreast.world.timers,
        (congrArg List.length hs).trans h.abreast.world.count⟩ }
  encoder := h.encoder
  attached := h.attached
  accounted := by
    obtain ⟨fired, ha⟩ := h.accounted
    refine ⟨fired, ha.congr rfl ?_⟩
    show Connection.Link.timers ⟨c.session.connection, b⟩ = c.link.timers
    simp only [Connection.Link.timers, Connection.Link.attended, Attended.timers, hs, hl, hc]
    rfl

theorem attached_perform (o : Operation)
    (h : Connection.Attached k.session.connection k.world.sockets) :
    Connection.Attached (k.perform o).2.session.connection (k.perform o).2.world.sockets := by
  obtain ⟨l, hc, hs, hc', hs'⟩ := perform_link Page.unshown_sockets o k
  rw [hc', hs']
  rw [← hc, ← hs] at h
  cases k.linked? o with
  | none => exact h
  | some k' =>
    obtain ⟨calls, hm, hmade⟩ := l.perform_moves k'
    rw [Option.elim_some, Page.sockets_of_made hmade]
    exact hm.attached h (hm.foretold Page.reliable_forecast hmade) rfl

/-- What every move of the connection keeps of the timers, an operation on the session keeps. -/
theorem accounted_perform {o : Operation} {k' : Connection.Operation} {fired : List TimerId}
    (hk : c.linked? o = some k') (hc : Connection.Coherent c.session.connection)
    (hn : c.link.timers.Numbered)
    (h : ∀ {a calls k₁}, Connection.Move c.session.connection k' a calls k₁ →
      Connection.Tended True fired k₁ (calls.foldl Timers.after c.link.timers)) :
    Connection.Link.Accounted True fired (c.perform o).2.link := by
  obtain ⟨l, hl, hb, hl', hb'⟩ := perform_link Bench.unshown_bare o c
  have ht : l.timers = c.link.timers := Connection.Link.timers_eq_of_bare hb
  rw [hk] at hl' hb'
  rw [← ht] at hn h
  rw [← hl] at hc h
  exact (Connection.Link.Accounted.perform hc hn h).2.congr hl'
    (Connection.Link.timers_eq_of_bare hb')

theorem linked_eq_retryDue {ω : Type} {c : Console ω} {o : Operation} {e : Epoch}
    (h : c.linked? o = some (.retryDue e)) : o = .retryDue e := by
  cases o with
  | press k =>
    dsimp only [linked?] at h
    cases hk : k.action with
    | input i => simp [hk, sent_eq_map] at h
    | passThrough | ignore => simp [hk] at h
  | input i => simp [linked?, sent_eq_map] at h
  | retryDue e' => simpa [linked?] using h
  | _ => simp [linked?] at h

theorem Mocks.perform (h : Mocks k c) (hr : Page.Ready k.world c.world) {o : Operation}
    (ho : ∀ e, o ≠ .retryDue e) : Mocks (k.perform o).2 (c.perform o).2 where
  abreast :=
    Abreast.perform Page.tolerates_ready Page.tolerates_tallies { h.abreast with world := hr }
      (fun h => h.toTallies) (fun _ => h.encoder) fun k _ => k.keeps_tallies
  encoder := by rw [encoder_perform, encoder_perform, h.encoder]
  attached := attached_perform o h.attached
  accounted := by
    obtain ⟨fired, ha⟩ := h.accounted
    refine ⟨fired, ?_⟩
    cases hk : c.linked? o with
    | none =>
      obtain ⟨l, hl, hb, hl', hb'⟩ := perform_link Bench.unshown_bare o c
      rw [hk] at hl' hb'
      exact ha.congr (hl'.trans hl) (Connection.Link.timers_eq_of_bare (hb'.trans hb))
    | some k' =>
      refine accounted_perform hk ha.coherent ha.numbered fun hm => hm.tended ?_ ha.tended
      rintro e rfl
      exact absurd (linked_eq_retryDue hk) (ho e)

/-- The timer of the page is the one that is live on the bench. -/
theorem Mocks.fire (h : Mocks k c) (hr : Page.Ready k.world c.world) :
    k.world.takeTimer = none ∧ c.world.takeTimer = none ∨
      ∃ t p b, k.world.takeTimer = some (t, p) ∧ c.world.takeTimer = some (t, b) ∧
        Mocks (({ k with world := p } : Console Page).perform (.retryDue t.epoch)).2
          (({ c with world := b } : Console Bench).perform (.retryDue t.epoch)).2 := by
  obtain ⟨fired, ha⟩ := h.accounted
  have htimers := hr.timers
  rcases ha.takeTimer with ⟨hlive, hnone⟩ | ⟨t, hlive, htake, hretry, hawaits⟩
  · refine .inl ⟨?_, hnone⟩
    rw [Page.takeTimer, ← htimers, show c.world.live = [] from hlive]
  · refine .inr ⟨t, { k.world with timers := [] }, { c.world with live := [] }, ?_, htake, ?_⟩
    · rw [Page.takeTimer, ← htimers, show c.world.live = [t] from hlive]
    · have hready : Page.Ready { k.world with timers := [] } { c.world with live := [] } :=
        { hr with timers := rfl }
      have habreast : Abreast (· = ·) Page.Ready
          ({ k with world := { k.world with timers := [] } } : Console Page)
          ({ c with world := { c.world with live := [] } } : Console Bench) :=
        { h.abreast with world := hready }
      constructor
      · exact habreast.perform Page.tolerates_ready Page.tolerates_tallies
          (fun h => h.toTallies) (fun _ => h.encoder) fun k _ => k.keeps_tallies
      · rw [encoder_perform, encoder_perform]
        exact congrArg (Operation.keyed _) h.encoder
      · exact attached_perform _ h.attached
      · exact ⟨fired ++ [t.id], accounted_perform rfl ha.coherent ha.numbered
          fun hm => hm.tended_retry hawaits (ha.tended.popped hretry)⟩

end Session.Console

end WebTerminal
