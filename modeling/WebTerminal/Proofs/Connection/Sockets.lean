import WebTerminal.Proofs.Connection.Determinism

/-! # Sockets on the bench

No socket is leaked and none is closed twice. Each that was opened is held, or was closed once by
the connection, or was closed by the network while it was held. -/

namespace WebTerminal

/-- The epoch in which a socket was opened. -/
def Call.opened? : Call → Option Epoch
  | dial _ e (.ok _) => some e
  | _ => none

theorem Call.filterMap_opened_letsGo {calls : List Call} (h : ∀ call ∈ calls, call.letsGo = true) :
    calls.filterMap opened? = [] :=
  List.filterMap_eq_nil_iff.mpr
    (forall_letsGo (fun _ => rfl) (fun _ => rfl) (fun _ => rfl) h)

/-- The epochs in which sockets were opened, in that order. -/
def Bench.epochs (b : Bench) : List Epoch := b.opened.map Prod.fst

theorem Bench.epochs_after (calls : List Call) (b : Bench) :
    (calls.foldl after b).epochs = b.epochs ++ calls.filterMap Call.opened? := by
  induction calls generalizing b with
  | nil => exact (List.append_nil _).symm
  | cons call calls ih =>
    rw [List.foldl_cons, ih]
    cases call with
    | dial url e answer =>
      cases answer with
      | ok s => simp [after, epochs, Call.opened?]
      | error _ => rfl
    | _ => rfl

theorem Epoch.nodup_of_increasing {es : List Epoch} (h : es.Pairwise (· < ·)) : es.Nodup := by
  refine h.imp fun {a b} hlt he => ?_
  rw [he] at hlt
  exact UInt64.lt_irrefl _ hlt

namespace Connection

/-- The epoch of the attempt that an event tells of. -/
def Event.attempted? : Event → Option Epoch
  | .connecting _ e => some e
  | _ => none

variable {c c' : Connection} {es : List Event} {calls : List Call} {o : Operation} {a : Answer}

/-! ## One attempt, one socket -/

theorem Loss.opens (h : Loss c es calls c') : calls.filterMap Call.opened? = [] := by
  cases h with
  | retry timer _ =>
    rw [List.filterMap_append, Call.filterMap_opened_letsGo c.letsGo_cancelling]
    rfl
  | giveUp | again => rfl

theorem Attempt.opens (h : Attempt c es calls c') :
    calls.filterMap Call.opened? = [] ∨ calls.filterMap Call.opened? = [c'.epoch] := by
  cases h with
  | dialled s =>
    rw [List.filterMap_append, Call.filterMap_opened_letsGo c.letsGo_clearing]
    exact .inr rfl
  | refused error hl =>
    rw [List.filterMap_append, Call.filterMap_opened_letsGo c.letsGo_clearing]
    exact .inl hl.opens

/-- A move opens a socket in the epoch it leads to, or none. -/
theorem Move.opens (h : Move c o a calls c') :
    calls.filterMap Call.opened? = [] ∨
      calls.filterMap Call.opened? = [c'.epoch] ∧ calls.countP Call.isDial = 1 := by
  have attempt {c : Connection} {es : List Event} {calls : List Call} (ha : Attempt c es calls c') :
      calls.filterMap Call.opened? = [] ∨
        calls.filterMap Call.opened? = [c'.epoch] ∧ calls.countP Call.isDial = 1 :=
    ha.opens.imp_right fun h => ⟨h, ha.dials_eq⟩
  cases h with
  | connectAnew _ _ ha | connect _ _ ha | reconnect _ ha | retry _ _ ha => exact attempt ha
  | replace _ ha =>
    rw [List.filterMap_append, Call.filterMap_opened_letsGo c.letsGo_clearing, List.countP_append,
      dials_clearing, Nat.zero_add]
    exact attempt ha
  | closeIgnored | close | shutdown => exact .inl (Call.filterMap_opened_letsGo c.letsGo_clearing)
  | lost _ hl =>
    rw [List.filterMap_append, Call.filterMap_opened_letsGo c.letsGo_releasing]
    exact .inl hl.opens
  | _ => exact .inl rfl

theorem Loss.attempted (h : Loss c es calls c') : es.filterMap Event.attempted? = [] := by
  cases h <;> rfl

theorem Attempt.attempted (h : Attempt c es calls c') :
    (es.filterMap Event.attempted?).length = calls.countP Call.isDial := by
  rw [h.dials_eq]
  cases h with
  | dialled s => rfl
  | refused error hl => exact congrArg (fun es => es.length + 1) hl.attempted

/-- Every attempt is told of, and nothing else is told as one. -/
theorem Move.attempted (h : Move c o a calls c') :
    (a.events?.filterMap Event.attempted?).length = calls.countP Call.isDial := by
  cases h with
  | connectAnew _ _ ha | connect _ _ ha | reconnect _ ha | retry _ _ ha => exact ha.attempted
  | replace _ ha =>
    rw [List.countP_append, dials_clearing, Nat.zero_add]
    exact ha.attempted
  | closeIgnored | close | shutdown => exact (dials_clearing c).symm
  | lost _ hl =>
    rw [List.countP_append, dials_releasing, hl.dials_eq]
    exact congrArg List.length hl.attempted
  | _ => rfl

/-- The epochs of the sockets opened after `n` attempts. -/
structure Ordered (n : Nat) (c : Connection) (epochs : List Epoch) : Prop where
  paced : Paced c n
  increasing : epochs.Pairwise (· < ·)
  past : ∀ e ∈ epochs, e.raw.toNat ≤ n

theorem Move.ordered (h : Move c o a calls c') {n : Nat} {epochs : List Epoch}
    (ho : Ordered n c epochs) (hn : n + calls.countP Call.isDial < 2 ^ 64) :
    Ordered (n + calls.countP Call.isDial) c' (epochs ++ calls.filterMap Call.opened?) := by
  have hp := h.paced ho.paced
  rcases h.opens with he | ⟨he, hd⟩
  · rw [he, List.append_nil]
    exact ⟨hp, ho.increasing, fun e hm => Nat.le_trans (ho.past e hm) (Nat.le_add_right _ _)⟩
  · have hepoch := hp.toNat_epoch hn
    rw [he]
    refine ⟨hp, ?_, ?_⟩
    · refine List.pairwise_append.mpr ⟨ho.increasing, List.pairwise_singleton _ _, ?_⟩
      intro e hm e' hm'
      obtain rfl : e' = c'.epoch := List.mem_singleton.mp hm'
      have hle := ho.past e hm
      refine UInt64.lt_iff_toNat_lt.mpr ?_
      omega
    · intro e hm
      rcases List.mem_append.mp hm with hm | hm
      · exact Nat.le_trans (ho.past e hm) (Nat.le_add_right _ _)
      · obtain rfl : e = c'.epoch := List.mem_singleton.mp hm
        exact Nat.le_of_eq hepoch

/-! ## What becomes of a socket -/

/-- The epoch whose socket an operation found closed by the network. -/
def Operation.lost? : Operation → Answer → Option Epoch
  | .signal e .closed, .events (_ :: _) => some e
  | _, _ => none

def held? (c : Connection) : Option Epoch := c.socket?.map fun _ => c.epoch

/-- Of the sockets opened, `lost` were closed by the network. -/
structure Kept (lost : List Epoch) (c : Connection) (b : Bench) : Prop where
  held : ∀ s, c.socket? = some s → b.epochs[s.index]? = some c.epoch
  settled : (b.closed ++ lost ++ c.held?.toList).Perm b.epochs

variable {lost : List Epoch} {b : Bench} {φ : Forecast}

theorem opened_cancelling (c : Connection) (b : Bench) :
    (c.cancelling.foldl Bench.after b).opened = b.opened ∧
      (c.cancelling.foldl Bench.after b).closed = b.closed := by
  unfold cancelling
  cases c.retry? <;> exact ⟨rfl, rfl⟩

namespace Kept

/-- Of a bench only the sockets opened and closed matter, and of a connection its epoch and its
socket. -/
theorem congr {c' : Connection} {b' : Bench} (h : Kept lost c b) (hs : c'.socket? = c.socket?)
    (he : c'.epoch = c.epoch) (ho : b'.opened = b.opened) (hc : b'.closed = b.closed) :
    Kept lost c' b' where
  held := by
    rw [hs, he, Bench.epochs, ho]
    exact h.held
  settled := by
    rw [held?, hs, he, Bench.epochs, ho, hc]
    exact h.settled

theorem bare (h : Kept lost c b) : Kept lost c b.bare := h.congr rfl rfl rfl rfl

theorem of_unheld {c' : Connection} (h : Kept lost c b) (hs : c.socket? = none)
    (hs' : c'.socket? = none) : Kept lost c' b where
  held s hs₁ := by
    rw [hs'] at hs₁
    cases hs₁
  settled := by
    have hp := h.settled
    rw [held?, hs] at hp
    rw [held?, hs']
    exact hp

/-- A connection that is cleared closes the socket it held. -/
theorem closed_clearing (h : Kept lost c b) :
    (c.clearing.foldl Bench.after b).closed = b.closed ++ c.held?.toList := by
  obtain ⟨ho, hc⟩ := opened_cancelling c b
  rw [clearing, List.foldl_append, ← hc]
  unfold hangingUp held?
  cases hs : c.socket? with
  | none => exact (List.append_nil _).symm
  | some s =>
    have hheld := h.held s hs
    rw [Bench.epochs, List.getElem?_map, ← ho] at hheld
    simp [Bench.after, hheld]

theorem clear (h : Kept lost c b) : Kept lost c.cleared (c.clearing.foldl Bench.after b) where
  held s hs := by cases hs
  settled := by
    have hp := h.settled
    rw [List.append_assoc] at hp
    rw [h.closed_clearing, Bench.epochs_after, Call.filterMap_opened_letsGo c.letsGo_clearing,
      List.append_nil, show c.cleared.held?.toList = [] from rfl, List.append_nil,
      List.append_assoc]
    exact (List.perm_append_comm.append_left _).trans hp

/-- A socket that is let go of has been closed by the network. -/
theorem release (h : Kept lost c b) :
    Kept (lost ++ c.held?.toList) { c with socket? := none } (c.releasing.foldl Bench.after b) := by
  have hb : c.releasing.foldl Bench.after b = b := by
    unfold releasing
    cases c.socket? <;> rfl
  rw [hb]
  refine ⟨fun s hs => (by cases hs), ?_⟩
  show (b.closed ++ (lost ++ c.held?.toList) ++ []).Perm b.epochs
  rw [List.append_nil, ← List.append_assoc]
  exact h.settled

end Kept

theorem Loss.closed (h : Loss c es calls c') : ∃ es', es = .closed .network :: es' := by
  cases h <;> exact ⟨_, rfl⟩

theorem Loss.kept (h : Loss c es calls c') (hk : Kept lost c b) :
    Kept lost c' (calls.foldl Bench.after b) := by
  cases h with
  | retry timer _ =>
    obtain ⟨ho, hc⟩ := opened_cancelling c b
    rw [List.foldl_append]
    exact hk.congr rfl rfl ho hc
  | giveUp | again => exact hk.congr rfl rfl rfl rfl

theorem Attempt.kept (h : Attempt c es calls c') (hk : Kept lost c b)
    (hφ : ∀ call ∈ calls, call.Foretold b.forecast) :
    Kept lost c' (calls.foldl Bench.after b) := by
  have hclear := hk.clear
  have hopened : (c.clearing.foldl Bench.after b).epochs = b.epochs := by
    rw [Bench.epochs_after, Call.filterMap_opened_letsGo c.letsGo_clearing, List.append_nil]
  cases h with
  | dialled s =>
    obtain ⟨-, hs⟩ := hφ _ (List.mem_append_right _ List.mem_cons_self)
    rw [List.foldl_append]
    generalize c.clearing.foldl Bench.after b = b₁ at hclear hopened
    have hepochs : (b₁.after (.dial c.url c.epoch.next (.ok s))).epochs =
        b.epochs ++ [c.epoch.next] := by
      rw [← hopened]
      exact List.map_append
    constructor
    · rintro _ ⟨⟩
      have hindex : s.index = b.epochs.length := by
        rw [hs, Bench.epochs, List.length_map]
        rfl
      rw [List.foldl_cons, List.foldl_nil, hepochs, hindex, List.getElem?_concat_length]
      rfl
    · rw [List.foldl_cons, List.foldl_nil, hepochs]
      have hp := hclear.settled
      rw [hopened, show c.cleared.held?.toList = [] from rfl, List.append_nil] at hp
      exact hp.append_right _
  | refused error hl =>
    rw [List.foldl_append]
    have hbegun : Kept lost c.cleared.beginAttempt _ := hclear.of_unheld rfl rfl
    exact hl.kept (hbegun.congr rfl rfl rfl rfl)

theorem Loss.closes (h : Loss c es calls c') (b : Bench) :
    (calls.foldl Bench.after b).closed = b.closed := by
  cases h with
  | retry timer _ =>
    rw [List.foldl_append]
    exact (opened_cancelling c b).2
  | giveUp | again => rfl

theorem Attempt.closes (h : Attempt c es calls c') (hk : Kept lost c b) :
    (calls.foldl Bench.after b).closed = b.closed ++ c.held?.toList := by
  rw [← hk.closed_clearing]
  cases h with
  | dialled s =>
    rw [List.foldl_append]
    rfl
  | refused error hl =>
    rw [List.foldl_append]
    exact hl.closes _

/-- A move closes no socket but the one that is held. -/
theorem Move.closes (h : Move c o a calls c') (hk : Kept lost c b) :
    ∃ new, (calls.foldl Bench.after b).closed = b.closed ++ new ∧ new ⊆ c.held?.toList := by
  have none {closed : List Epoch} (h : closed = b.closed) :
      ∃ new, closed = b.closed ++ new ∧ new ⊆ c.held?.toList :=
    ⟨[], h.trans (List.append_nil _).symm, List.nil_subset _⟩
  cases h with
  | connectAnew _ _ ha | reconnect _ ha | retry _ _ ha =>
    exact ⟨_, ha.closes (hk.congr rfl rfl rfl rfl), List.Subset.refl _⟩
  | connect _ _ ha => exact ⟨_, ha.closes hk, List.Subset.refl _⟩
  | replace _ ha =>
    have hleft : Kept lost c.left.resetPolicy (c.clearing.foldl Bench.after b) :=
      hk.clear.congr rfl rfl rfl rfl
    refine ⟨_, ?_, List.Subset.refl _⟩
    rw [List.foldl_append, ha.closes hleft, hk.closed_clearing]
    exact List.append_nil _
  | closeIgnored | close | shutdown => exact ⟨_, hk.closed_clearing, List.Subset.refl _⟩
  | lost _ hl =>
    have hrelease : (c.releasing.foldl Bench.after b).closed = b.closed := by
      unfold releasing
      cases c.socket? <;> rfl
    rw [List.foldl_append, hl.closes, hrelease]
    exact none rfl
  | _ => exact none rfl

/-- A socket that is held is still to be closed: by a move, or by the network. -/
theorem Move.kept (h : Move c o a calls c') (hc : Coherent c) (hk : Kept lost c b)
    (hφ : ∀ call ∈ calls, call.Foretold b.forecast) :
    Kept (lost ++ (o.lost? a).toList) c' (calls.foldl Bench.after b) := by
  have unlost {k : Connection} {cs : List Call} (hn : o.lost? a = none)
      (hk : Kept lost k (cs.foldl Bench.after b)) :
      Kept (lost ++ (o.lost? a).toList) k (cs.foldl Bench.after b) := by
    rw [hn, Option.toList_none, List.append_nil]
    exact hk
  cases h with
  | connectAnew _ _ ha | reconnect _ ha | retry _ _ ha =>
    exact unlost rfl (ha.kept (hk.congr rfl rfl rfl rfl) hφ)
  | connect _ _ ha => exact unlost rfl (ha.kept hk hφ)
  | replace _ ha =>
    refine unlost rfl ?_
    rw [List.foldl_append]
    refine ha.kept (hk.clear.congr rfl rfl rfl rfl) fun call hcall => ?_
    rw [Bench.forecast_letsGo c.letsGo_clearing]
    exact hφ call (List.mem_append_right _ hcall)
  | closeIgnored => exact unlost rfl hk.clear
  | close | shutdown => exact unlost rfl (hk.clear.congr rfl rfl rfl rfl)
  | lost hl hloss =>
    obtain ⟨es, rfl⟩ := hloss.closed
    obtain ⟨s, hs⟩ := Option.isSome_iff_exists.mp (hc.socket_iff.mpr hl)
    have hheld : c.held? = some c.epoch := by rw [held?, hs, Option.map_some]
    have hrelease := hk.release
    rw [hheld] at hrelease
    rw [List.foldl_append]
    exact hloss.kept hrelease
  | signalIgnored e s _ =>
    refine unlost ?_ hk
    cases s <;> rfl
  | _ => exact unlost rfl (hk.congr rfl rfl rfl rfl)

/-! ## Along a run -/

end Connection

namespace Bench

open Connection

/-- The epoch whose socket a step found closed by the network. -/
def Step.lost? : Step Operation → Reply Answer → Option Epoch
  | .perform o, .answer a => o.lost? a
  | _, _ => none

/-- The epochs whose sockets were closed by the network, as steps and replies tell. -/
def lost (ss : List (Step Operation)) (rs : List (Reply Answer)) : List Epoch :=
  (ss.zip rs).filterMap fun (s, r) => s.lost? r

/-- The epochs of the attempts that a reply tells of. -/
def Reply.attempts : Reply Answer → List Epoch
  | .answer a | .fired _ a => a.events?.filterMap Event.attempted?
  | .lost _ | .noTimer | .done => []

theorem sockets_takeTimer {b : Bench} {taken : Timer × Bench} (h : b.takeTimer = some taken) :
    taken.2.opened = b.opened ∧ taken.2.closed = b.closed := by
  obtain ⟨_, _, rfl⟩ := Option.map_eq_some_iff.mp h
  exact ⟨rfl, rfl⟩

end Bench

namespace Connection.Link

variable {lost : List Epoch} {n : Nat} {l : Link Bench}

/-- The epoch in which the socket that is held was opened. -/
def held? (l : Link Bench) : Option Epoch :=
  l.connection.socket?.bind fun s => l.world.epochs[s.index]?

/-- What holds of the sockets all along a run. -/
structure Balanced (n : Nat) (lost : List Epoch) (l : Link Bench) : Prop where
  coherent : Coherent l.connection
  ordered : Ordered n l.connection l.world.epochs
  kept : Kept lost l.connection l.world

theorem balanced_new (url : String) (policy : RetryPolicy) :
    Balanced 0 [] ⟨{ url, policy }, {}⟩ where
  coherent := coherent_new url policy
  ordered := ⟨rfl, .nil, by simp [Bench.epochs]⟩
  kept := ⟨by simp, .nil⟩

namespace Balanced

theorem perform (h : Balanced n lost l) (o : Operation)
    (hn : n + ((l.perform o).1.events?.filterMap Event.attempted?).length < 2 ^ 64) :
    Balanced (n + ((l.perform o).1.events?.filterMap Event.attempted?).length)
      (lost ++ (o.lost? (l.perform o).1).toList) (l.perform o).2 := by
  obtain ⟨calls, hm, hmade⟩ := l.perform_moves o
  have hφ := hm.foretold Bench.reliable_forecast hmade
  have hbare := (Bench.bare_of_made hmade).1
  have hkept := hm.kept h.coherent h.kept.bare hφ
  rw [hm.attempted] at hn ⊢
  have hordered := hm.ordered h.ordered hn
  have hepochs : (l.perform o).2.world.epochs = l.world.epochs ++ calls.filterMap Call.opened? := by
    show (l.perform o).2.world.bare.epochs = l.world.bare.epochs ++ _
    rw [hbare, Bench.epochs_after]
  rw [← hbare] at hkept
  rw [← hepochs] at hordered
  exact ⟨hm.coherent h.coherent, hordered, hkept.congr rfl rfl rfl rfl⟩

/-- Nothing else on the bench matters to its sockets. -/
theorem withWorld (h : Balanced n lost l) {b : Bench} (ho : b.opened = l.world.opened)
    (hc : b.closed = l.world.closed) : Balanced n lost { l with world := b } where
  coherent := h.coherent
  ordered := by
    show Ordered n l.connection (b.opened.map Prod.fst)
    rw [ho]
    exact h.ordered
  kept := h.kept.congr rfl rfl ho hc

/-- A step without an attempt and without a loss. -/
theorem quiet {s : Bench.Step Operation} {r : Bench.Reply Answer} (h : Balanced n lost l)
    (ha : r.attempts = []) (hl : s.lost? r = none) :
    Balanced (n + r.attempts.length) (lost ++ (s.lost? r).toList) l := by
  rw [ha, hl, Option.toList_none, List.append_nil]
  exact h

theorem step (h : Balanced n lost l) (s : Bench.Step Operation)
    (hn : n + (l.step s).1.attempts.length < 2 ^ 64) :
    Balanced (n + (l.step s).1.attempts.length) (lost ++ (s.lost? (l.step s).1).toList)
      (l.step s).2 := by
  cases s with
  | perform o => exact h.perform o hn
  | refuse count =>
    have hb : Balanced n lost (l.step (.refuse count)).2 := h.withWorld rfl rfl
    exact hb.quiet rfl rfl
  | breakPipe broken =>
    have hb : Balanced n lost (l.step (.breakPipe broken)).2 := h.withWorld rfl rfl
    exact hb.quiet rfl rfl
  | lose =>
    unfold Link.step
    cases ht : l.world.takeTimer with
    | none => exact h.quiet rfl rfl
    | some taken =>
      obtain ⟨ho, hc⟩ := Bench.sockets_takeTimer ht
      exact (h.withWorld ho hc).quiet rfl rfl
  | fire =>
    unfold Link.step at hn ⊢
    cases ht : l.world.takeTimer with
    | none => exact h.quiet rfl rfl
    | some taken =>
      rw [ht] at hn
      obtain ⟨ho, hc⟩ := Bench.sockets_takeTimer ht
      exact (h.withWorld ho hc).perform (.retryDue taken.1.epoch) hn

theorem runSteps (ss : List (Bench.Step Operation)) (h : Balanced n lost l)
    (hn : n + ((runSteps ss l).1.flatMap Bench.Reply.attempts).length < 2 ^ 64) :
    Balanced (n + ((Link.runSteps ss l).1.flatMap Bench.Reply.attempts).length)
      (lost ++ Bench.lost ss (Link.runSteps ss l).1) (Link.runSteps ss l).2 := by
  induction ss generalizing l n lost with
  | nil => simpa [Link.runSteps, Bench.lost] using h
  | cons s ss ih =>
    rw [Link.runSteps, List.flatMap_cons, List.length_append] at hn
    have hrest := ih (h.step s (by omega)) (by omega)
    have hlost : Bench.lost (s :: ss) (Link.runSteps (s :: ss) l).1 =
        (s.lost? (l.step s).1).toList ++ Bench.lost ss (Link.runSteps ss (l.step s).2).1 := by
      rw [Link.runSteps, Bench.lost, List.zip_cons_cons, List.filterMap_cons]
      dsimp only
      cases s.lost? (l.step s).1 <;> rfl
    rw [hlost, Link.runSteps, List.flatMap_cons, List.length_append, ← Nat.add_assoc,
      ← List.append_assoc]
    exact hrest

end Balanced

theorem held_eq (h : Kept lost l.connection l.world) : l.held? = l.connection.held? := by
  unfold held? Connection.held?
  cases hs : l.connection.socket? with
  | none => rfl
  | some s => exact h.held s hs

theorem closed_perform (h : Kept lost l.connection l.world) (o : Operation) :
    ∃ new, (l.perform o).2.world.closed = l.world.closed ++ new ∧ new ⊆ l.held?.toList := by
  obtain ⟨calls, hm, hmade⟩ := l.perform_moves o
  obtain ⟨new, hnew, hsub⟩ := hm.closes h.bare
  rw [← (Bench.bare_of_made hmade).1] at hnew
  rw [held_eq h]
  exact ⟨new, hnew, hsub⟩

theorem closed_step (h : Kept lost l.connection l.world) (s : Bench.Step Operation) :
    ∃ new, (l.step s).2.world.closed = l.world.closed ++ new ∧ new ⊆ l.held?.toList := by
  have none {closed : List Epoch} (hc : closed = l.world.closed) :
      ∃ new, closed = l.world.closed ++ new ∧ new ⊆ l.held?.toList :=
    ⟨[], hc.trans (List.append_nil _).symm, List.nil_subset _⟩
  cases s with
  | perform o => exact closed_perform h o
  | refuse | breakPipe => exact none rfl
  | lose =>
    unfold step
    cases ht : l.world.takeTimer with
    | none => exact none rfl
    | some taken => exact none (Bench.sockets_takeTimer ht).2
  | fire =>
    unfold step
    cases ht : l.world.takeTimer with
    | none => exact none rfl
    | some taken =>
      obtain ⟨ho, hc⟩ := Bench.sockets_takeTimer ht
      obtain ⟨new, hnew, hsub⟩ := closed_perform (l := { l with world := taken.2 })
        (h.congr rfl rfl ho hc) (.retryDue taken.1.epoch)
      refine ⟨new, hnew.trans (congrArg (· ++ new) hc), ?_⟩
      have hheld : ({ l with world := taken.2 } : Link Bench).held? = l.held? := by
        simp only [held?, Bench.epochs, ho]
      rw [← hheld]
      exact hsub

/-- In every run on the bench with fewer than `2 ^ 64` attempts: sockets are opened in increasing
epochs; none is closed twice; those that were opened are those closed by the connection, those
closed by the network while they were held, and the one that is held, so that at most one is
neither; and a step closes no socket but the one that was held before it. -/
theorem run_sockets (url : String) (policy : RetryPolicy) (ss : List (Bench.Step Operation)) :
    let (rs, l) := runSteps ss ⟨{ url, policy }, {}⟩
    (rs.flatMap Bench.Reply.attempts).length < 2 ^ 64 →
      l.world.epochs.Pairwise (· < ·) ∧ l.world.closed.Nodup ∧ l.world.closed ⊆ l.world.epochs ∧
      (l.world.closed ++ Bench.lost ss rs ++ l.held?.toList).Perm l.world.epochs ∧
      (l.world.epochs.filter (· ∉ l.world.closed ++ Bench.lost ss rs)).length ≤ 1 ∧
      ∀ s, ∃ new, (l.step s).2.world.closed = l.world.closed ++ new ∧ new ⊆ l.held?.toList := by
  generalize hr : runSteps ss ⟨{ url, policy }, {}⟩ = r
  obtain ⟨rs, l⟩ := r
  intro hn
  have hb := (balanced_new url policy).runSteps ss (by rwa [hr, Nat.zero_add])
  rw [hr] at hb
  have hperm := hb.kept.settled
  rw [List.nil_append, ← held_eq hb.kept] at hperm
  have hnodup := hperm.nodup_iff.mpr (Epoch.nodup_of_increasing hb.ordered.increasing)
  refine ⟨hb.ordered.increasing, (List.nodup_append.mp (List.nodup_append.mp hnodup).1).1, ?_,
    hperm, ?_, closed_step hb.kept⟩
  · intro e he
    exact hperm.subset (List.mem_append_left _ (List.mem_append_left _ he))
  · generalize l.world.closed ++ Bench.lost ss rs = gone at hperm ⊢
    have hgone : gone.filter (· ∉ gone) = [] :=
      List.filter_eq_nil_iff.mpr fun e he => by simpa using he
    rw [← (hperm.filter _).length_eq, List.filter_append, hgone, List.nil_append]
    exact Nat.le_trans (List.length_filter_le _ _) Option.length_toList_le

/-- Of four attempts the first is refused, the second is lost, the third is replaced and the fourth
is held. -/
theorem run_sockets_four :
    let ss : List (Bench.Step Operation) :=
      [.refuse 1, .perform .connect, .fire, .perform (.signal ⟨2⟩ .closed), .fire,
        .perform (.signal ⟨2⟩ .closed), .perform .reconnect]
    let (rs, l) := runSteps ss ⟨{ url := "ws://h/ws", policy := .standard }, {}⟩
    (rs.flatMap Bench.Reply.attempts).length < 2 ^ 64 ∧
      l.world.epochs = [⟨2⟩, ⟨3⟩, ⟨4⟩] ∧ l.world.closed = [⟨3⟩] ∧ Bench.lost ss rs = [⟨2⟩] ∧
      l.held? = some ⟨4⟩ ∧
      (l.world.closed ++ Bench.lost ss rs ++ l.held?.toList).Perm l.world.epochs := by
  have hn : (((runSteps [.refuse 1, .perform .connect, .fire, .perform (.signal ⟨2⟩ .closed), .fire,
      .perform (.signal ⟨2⟩ .closed), .perform .reconnect]
      ⟨{ url := "ws://h/ws", policy := .standard }, {}⟩).1).flatMap
        Bench.Reply.attempts).length < 2 ^ 64 := by decide +kernel
  obtain ⟨_, _, _, hperm, _⟩ := run_sockets _ _ _ hn
  exact ⟨hn, by decide +kernel, by decide +kernel, by decide +kernel, by decide +kernel, hperm⟩

end Connection.Link

end WebTerminal
