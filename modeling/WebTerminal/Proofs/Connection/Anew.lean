import WebTerminal.Proofs.Connection.Progress
import WebTerminal.Proofs.Connection.Twins

/-! # Beginning anew

A connection that begins anew has no past: from then on it is the twin of a new connection with the
same terms. It begins anew whenever it reconnects, and when it connects after the user has closed
it, after it has given up, or after a shutdown. -/

namespace WebTerminal.Connection

/-- Whether an operation leaves nothing of the past behind. -/
def forgets (past : List Operation) (c : Connection) : Operation → Bool
  | .reconnect => true
  | .connect =>
    match c.state with
    | .closed .user => true
    | .closed .network => c.policy.isExhausted
    | .idle => .shutdown ∈ past
    | .connecting | .opened => false
  | _ => false

/-- A connection at rest has nothing to forget. -/
def Rested (c : Connection) : Prop :=
  c.state = .idle → c.policy.reset = c.policy ∧ c.exhaustionReported = false

variable {c c' : Connection} {es : List Event} {calls : List Call} {o : Operation} {a : Answer}

/-! ## What a run keeps -/

/-- The address and the terms of the policy stay as they were made. -/
def SameTerms (c c' : Connection) : Prop := c'.url = c.url ∧ c'.policy.reset = c.policy.reset

theorem Loss.sameTerms (h : Loss c es calls c') : SameTerms c c' := by
  cases h <;> exact ⟨rfl, rfl⟩

theorem Attempt.sameTerms (h : Attempt c es calls c') : SameTerms c c' := by
  cases h with
  | dialled => exact ⟨rfl, rfl⟩
  | refused error hl => exact hl.sameTerms

theorem Move.sameTerms (h : Move c o a calls c') : SameTerms c c' := by
  cases h with
  | connectAnew _ _ ha | connect _ _ ha | reconnect _ ha | replace _ ha | retry _ _ ha =>
    exact ha.sameTerms
  | lost _ hl => exact hl.sameTerms
  | _ => exact ⟨rfl, rfl⟩

theorem Attempt.rested (h : Attempt c es calls c') : Rested c' := by
  cases h with
  | dialled => exact fun hs => by cases hs
  | refused error hl => exact fun hs => by simp [hl.state_eq] at hs

/-- Only a shutdown comes to rest. -/
theorem Move.rested (h : Move c o a calls c') (hr : Rested c) : Rested c' := by
  cases h with
  | connectAnew _ _ ha | connect _ _ ha | reconnect _ ha | replace _ ha | retry _ _ ha =>
    exact ha.rested
  | lost _ hl => exact fun hs => by simp [hl.state_eq] at hs
  | shutdown => exact fun _ => ⟨rfl, rfl⟩
  | close | opened => exact fun hs => by cases hs
  | _ => exact hr

namespace Link

variable {ω : Type} [Network ω]

theorem run_sameTerms (os : List Operation) (l : Link ω) :
    SameTerms l.connection (run os l).2.connection :=
  run_keeps (P := SameTerms l.connection) (fun o l' h => by
    obtain ⟨_, hm, _⟩ := l'.perform_moves o
    exact ⟨hm.sameTerms.1.trans h.1, hm.sameTerms.2.trans h.2⟩) os ⟨rfl, rfl⟩

theorem rested_perform {l : Link ω} (o : Operation) (h : Rested l.connection) :
    Rested (l.perform o).2.connection := by
  obtain ⟨_, hm, _⟩ := l.perform_moves o
  exact hm.rested h

theorem run_rested {os : List Operation} (h : .shutdown ∈ os) (l : Link ω) :
    Rested (run os l).2.connection := by
  induction os generalizing l with
  | nil => cases h
  | cons o os ih =>
    rcases List.mem_cons.mp h with rfl | h
    · exact run_keeps (P := Rested) (fun o _ => rested_perform o) os fun _ => ⟨rfl, rfl⟩
    · exact ih h _

end Link

/-! ## The past is forgotten -/

/-- What is left of a connection that begins anew. -/
structure Renewed (c c' : Connection) : Prop where
  url : c'.url = c.url
  policy : c'.policy = c.policy.reset
  epoch : c'.epoch = c.epoch
  reported : c'.exhaustionReported = false

theorem renewed_resetPolicy (c : Connection) : Renewed c c.resetPolicy := ⟨rfl, rfl, rfl, rfl⟩

/-- A connection that forgets its past lets go of what it holds and tries as one renewed. -/
theorem Move.renews {past : List Operation} (h : Move c o a calls c')
    (ho : c.forgets past o = true) (hr : .shutdown ∈ past → Rested c) :
    ∃ gone es rest c₀, calls = gone ++ rest ∧ (∀ call ∈ gone, call.letsGo = true) ∧
      Renewed c c₀ ∧ Attempt c₀ es rest c' := by
  cases h with
  | connectIgnored hl =>
    cases hs : c.state with
    | idle | closed _ => simp [hs, State.isLive] at hl
    | connecting | opened => simp [forgets, hs] at ho
  | connectAnew _ _ ha =>
    exact ⟨[], _, _, _, rfl, by simp, c.renewed_resetPolicy, ha⟩
  | connect hl hn ha =>
    simp only [startsAnew, Bool.or_eq_false_iff, decide_eq_false_iff_not] at hn
    cases hs : c.state with
    | idle =>
      have hrest : Rested c := hr (by simpa [forgets, hs] using ho)
      exact ⟨[], _, _, c, rfl, by simp, ⟨rfl, (hrest hs).1.symm, rfl, (hrest hs).2⟩, ha⟩
    | connecting | opened => simp [forgets, hs] at ho
    | closed reason =>
      cases reason with
      | user => exact absurd hs hn.2
      | network => simp [forgets, hs, hn.1] at ho
  | replace _ ha =>
    exact ⟨c.clearing, _, _, c.left.resetPolicy, rfl, c.letsGo_clearing, ⟨rfl, rfl, rfl, rfl⟩, ha⟩
  | reconnect _ ha =>
    exact ⟨[], _, _, _, rfl, by simp, c.renewed_resetPolicy, ha⟩
  | _ => cases ho

namespace Link

variable {ω ω' : Type} [Network ω] [Network ω']

theorem deed_renews {past : List Operation} {l : Link (Watched ω)}
    (ho : l.connection.forgets past o = true) (hr : .shutdown ∈ past → Rested l.connection) :
    ∃ gone es rest c₀, (l.deed o).calls = gone ++ rest ∧ (∀ call ∈ gone, call.letsGo = true) ∧
      Renewed l.connection c₀ ∧ Attempt c₀ es rest (l.perform o).2.connection := by
  obtain ⟨calls, hm, hmade⟩ := l.perform_moves o
  rw [deed_eq hmade]
  exact hm.renews ho hr

/-- After any run, an operation that forgets the past makes the connection a twin of a new one that
has connected, and from then on they do the same: the answers, the states, the attempts counted, the
retries waited for and the timers set are the same up to the epochs, as long as the same sockets and
frames fail. -/
theorem run_anew (url : String) (policy : RetryPolicy) (past os : List Operation) (o : Operation)
    (w : ω) (w' : ω') (s : Script) :
    let l := (run past (⟨{ url, policy }, { inner := w }⟩ : Link (Watched ω))).2
    let l' : Link (Watched ω') := ⟨{ url, policy := policy.reset }, { inner := w' }⟩
    let k := (l.perform o).2
    let k' := (l'.perform .connect).2
    let δ := k.connection.epoch.raw - k'.connection.epoch.raw
    let later := history (os.map (Operation.shift δ)) k
    let later' := history os k'
    l.connection.forgets past o = true →
      s.Governs ((l.deed o).calls ++ later.flatMap Deed.calls) →
      s.Governs ((l'.deed .connect).calls ++ later'.flatMap Deed.calls) →
      Twins δ k.connection k'.connection ∧
        Parallel δ (l.deed o).calls (l'.deed .connect).calls ∧
        List.Forall₂ (Deed.Echoes δ) later later' := by
  intro l l' k k' δ later later' ho hs hs'
  obtain ⟨gone, es, rest, c₀, hcalls, hgone, hn, ha⟩ :=
    deed_renews ho fun h => run_rested h _
  -- a new connection is at rest, as after a shutdown
  have ho' : l'.connection.forgets [.shutdown] .connect = true := rfl
  obtain ⟨gone', es', rest', c₀', hcalls', hgone', hn', ha'⟩ :=
    deed_renews ho' fun _ _ => ⟨rfl, rfl⟩
  have hterms : SameTerms { url, policy } l.connection := run_sameTerms past _
  have hpeers : Peers δ c₀ c₀' := by
    refine ⟨?_, ?_, ?_, hn.reported.trans hn'.reported.symm⟩
    · rw [hn.url, hn'.url, hterms.1]
    · rw [hn.policy, hn'.policy, hterms.2]
      rfl
    · show c₀.epoch = c₀'.epoch.shift (k.connection.epoch.raw - k'.connection.epoch.raw)
      rw [ha.epoch_eq, ha'.epoch_eq]
      exact c₀.epoch.eq_shift c₀'.epoch
  have hc : Parallel δ gone gone' := .of_letsGo hgone hgone'
  rw [hcalls] at hs
  rw [hcalls'] at hs'
  obtain ⟨_, hrest, ht⟩ :=
    ha.twins ha' hpeers (hs.left.drop hgone) (hs'.left.drop hgone')
  have hcalled : Parallel δ (gone ++ rest) (gone' ++ rest') := hc.append hrest
  have hlater := hs'.right
  rw [← hcalled.after_eq] at hlater
  rw [hcalls, hcalls']
  exact ⟨ht, hcalled, history_echoes os ht hs.right hlater⟩

/-- A connection that has given up and connects again, to be refused once more. -/
theorem run_anew_given_up :
    let policy : RetryPolicy := { maxAttempts := 1 }
    let past : List Operation := [.connect, .retryDue ⟨1⟩]
    let os : List Operation :=
      [.retryDue ⟨1⟩, .signal ⟨2⟩ .opened, .send ⟨[108, 115]⟩, .signal ⟨1⟩ .closed,
        .signal ⟨2⟩ .closed]
    let s : Script := ⟨[some (.construction "mock: refused"), none], [none]⟩
    let l := (run past
      (⟨{ url := "ws://h/ws", policy }, { inner := { refusals := 3 } }⟩ : Link (Watched Bench))).2
    let l' : Link (Watched Bench) :=
      ⟨{ url := "ws://h/ws", policy := policy.reset }, { inner := { refusals := 1 } }⟩
    let k := (l.perform .connect).2
    let k' := (l'.perform .connect).2
    let δ := k.connection.epoch.raw - k'.connection.epoch.raw
    let later := history (os.map (Operation.shift δ)) k
    let later' := history os k'
    δ = 2 ∧ l.connection.forgets past .connect = true ∧
      s.Governs ((l.deed .connect).calls ++ later.flatMap Deed.calls) ∧
      s.Governs ((l'.deed .connect).calls ++ later'.flatMap Deed.calls) ∧
      Twins δ k.connection k'.connection ∧
      Parallel δ (l.deed .connect).calls (l'.deed .connect).calls ∧
      List.Forall₂ (Deed.Echoes δ) later later' := by
  intro policy past os s l l' k k' δ later later'
  have ho : l.connection.forgets past .connect = true := by decide +kernel
  have hs : s.Governs ((l.deed .connect).calls ++ later.flatMap Deed.calls) :=
    ⟨by decide +kernel, by decide +kernel⟩
  have hs' : s.Governs ((l'.deed .connect).calls ++ later'.flatMap Deed.calls) :=
    ⟨by decide +kernel, by decide +kernel⟩
  have h := run_anew "ws://h/ws" policy past os .connect ({ refusals := 3 } : Bench)
    ({ refusals := 1 } : Bench) s ho hs hs'
  exact ⟨by decide +kernel, ho, hs, hs', h⟩

end Link

end WebTerminal.Connection
