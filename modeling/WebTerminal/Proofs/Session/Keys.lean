import WebTerminal.Proofs.Session.Output

/-! # Keys

What a keystroke is for is read off its key and two of the modifiers. In a session a keystroke that
means an input is that input, after which the screen is scrolled to its end; any other leaves all as
it was, and may as well not have been made. -/

namespace WebTerminal

namespace Keystroke

/-- Named keys mean an input with any modifiers, letters do with control in either case, and all
single characters do without control and command. -/
def Means (k : Keystroke) : Input → Prop
  | .submit => k.key = "Enter"
  | .backspace => k.key = "Backspace"
  | .tab => k.key = "Tab"
  | .interrupt => k.modifiers.control ∧ (k.key = "c" ∨ k.key = "C")
  | .endOfInput => k.modifiers.control ∧ (k.key = "d" ∨ k.key = "D")
  | .char c => k.key = String.singleton c ∧ ¬ k.modifiers.control ∧ ¬ k.modifiers.command

/-- The keystroke is left to the browser. -/
def Passes (k : Keystroke) : Prop :=
  k.key = "F5" ∨ k.key = "F12" ∨ (k.modifiers.control ∧ (k.key = "r" ∨ k.key = "R")) ∨
    ((∃ c, k.key = String.singleton c) ∧ k.modifiers.command ∧ ¬ k.modifiers.control)

def Fits (k : Keystroke) : KeyAction → Prop
  | .input i => k.Means i
  | .passThrough => k.Passes
  | .ignore => ¬ k.Passes ∧ ∀ i, ¬ k.Means i

variable {k : Keystroke} {i : Input} {a : KeyAction} {c : Char} {m : Modifiers}

theorem singleton_eq_iff {s : String} : String.singleton c = s ↔ [c] = s.toList := by
  rw [← String.toList_inj, String.toList_singleton]

theorem named_singleton (c : Char) : named? (String.singleton c) = none := by
  unfold named?
  split
  case h_4 => rfl
  all_goals
    rename_i h
    simp [singleton_eq_iff] at h

theorem isReserved_iff : k.isReserved = true ↔ k.key = "F5" ∨ k.key = "F12" ∨
    (k.modifiers.control = true ∧ (k.key = "r" ∨ k.key = "R")) := by
  simp [isReserved, or_assoc]

/-- Among single characters only those that reload the page are reserved, and none is a name. -/
theorem action_singleton (h : ¬ (m.control = true ∧ (c = 'r' ∨ c = 'R'))) :
    action ⟨String.singleton c, m⟩ = typed c m := by
  have hr : ¬ isReserved ⟨String.singleton c, m⟩ = true := by
    simpa [isReserved_iff, singleton_eq_iff] using h
  simp only [action, if_neg hr, named_singleton, String.toList_singleton]

theorem action_of_passes (h : k.Passes) : k.action = .passThrough := by
  rcases h with h | h | h | ⟨⟨c, hc⟩, hm, hn⟩
  · exact if_pos (isReserved_iff.mpr (.inl h))
  · exact if_pos (isReserved_iff.mpr (.inr (.inl h)))
  · exact if_pos (isReserved_iff.mpr (.inr (.inr h)))
  · obtain ⟨_, m⟩ := k
    obtain rfl : _ = String.singleton c := hc
    rw [action_singleton fun h => hn h.1, typed, if_neg hn, if_pos hm]

theorem action_of_means (h : k.Means i) : k.action = .input i := by
  obtain ⟨key, m⟩ := k
  have held {c : Char} (hm : m.control = true) (hc : ¬ (c = 'r' ∨ c = 'R')) :
      action ⟨String.singleton c, m⟩ = chord c := by
    rw [action_singleton fun h => hc h.2, typed, if_pos hm]
  cases i with
  | submit | backspace | tab =>
    obtain rfl : key = _ := h
    simp [action, isReserved, named?]
  | interrupt =>
    rcases h with ⟨hm, rfl | rfl⟩
    · exact held (c := 'c') hm (by decide)
    · exact held (c := 'C') hm (by decide)
  | endOfInput =>
    rcases h with ⟨hm, rfl | rfl⟩
    · exact held (c := 'd') hm (by decide)
    · exact held (c := 'D') hm (by decide)
  | char c =>
    obtain ⟨rfl, hn, hm⟩ := h
    rw [action_singleton fun h => hn h.1, typed, if_neg hn, if_neg hm]

theorem means_of_named (h : named? k.key = some i) : k.Means i := by
  unfold named? at h
  split at h
  case h_4 => cases h
  all_goals
    obtain rfl := Option.some.inj h
    assumption

theorem chord_of_not_means (hm : k.modifiers.control = true) (hc : k.key = String.singleton c)
    (h : ∀ i, ¬ k.Means i) : chord c = .ignore := by
  have interrupt : ¬ (c = 'c' ∨ c = 'C') := by
    rintro (rfl | rfl)
    · exact h .interrupt ⟨hm, .inl hc⟩
    · exact h .interrupt ⟨hm, .inr hc⟩
  have endOfInput : ¬ (c = 'd' ∨ c = 'D') := by
    rintro (rfl | rfl)
    · exact h .endOfInput ⟨hm, .inl hc⟩
    · exact h .endOfInput ⟨hm, .inr hc⟩
  rw [chord, if_neg interrupt, if_neg endOfInput]

theorem action_of_neither (hp : ¬ k.Passes) (h : ∀ i, ¬ k.Means i) : k.action = .ignore := by
  have hr : ¬ k.isReserved = true := by
    intro hr
    rcases isReserved_iff.mp hr with hr | hr | hr
    · exact hp (.inl hr)
    · exact hp (.inr (.inl hr))
    · exact hp (.inr (.inr (.inl hr)))
  have hn : named? k.key = none := by
    rw [Option.eq_none_iff_forall_ne_some]
    exact fun i hi => h i (means_of_named hi)
  rw [action, if_neg hr, hn]
  dsimp only
  split
  case h_2 => rfl
  case h_1 c hs =>
    have hc : k.key = String.singleton c := (singleton_eq_iff.mpr hs.symm).symm
    rw [typed]
    by_cases hm : k.modifiers.control = true
    · rw [if_pos hm, chord_of_not_means hm hc h]
    · by_cases hcmd : k.modifiers.command = true
      · exact absurd (.inr (.inr (.inr ⟨⟨c, hc⟩, hcmd, hm⟩))) hp
      · exact absurd ⟨hc, hm, hcmd⟩ (h (.char c))

theorem action_of_fits (h : k.Fits a) : k.action = a := by
  cases a with
  | input i => exact action_of_means h
  | passThrough => exact action_of_passes h
  | ignore => exact action_of_neither h.1 h.2

theorem exists_fits (k : Keystroke) : ∃ a, k.Fits a := by
  by_cases hp : k.Passes
  · exact ⟨.passThrough, hp⟩
  · by_cases hm : ∃ i, k.Means i
    · obtain ⟨i, hi⟩ := hm
      exact ⟨.input i, hi⟩
    · exact ⟨.ignore, hp, not_exists.mp hm⟩

theorem action_eq_iff : k.action = a ↔ k.Fits a := by
  constructor
  · rintro rfl
    obtain ⟨a, ha⟩ := k.exists_fits
    rwa [action_of_fits ha]
  · exact action_of_fits

end Keystroke

namespace Session

variable {k : Keystroke} {i : Input}

/-- A keystroke that means no input. -/
def Operation.isVain : Operation → Bool
  | .press k => !k.action.isInput
  | _ => false

namespace Console

variable {ω : Type} [Network ω] [Screen ω]

theorem press_of_means (h : k.Means i) (c : Console ω) :
    c.press k = (.input i, (c.input i).2.scrollToEnd) := by
  simp only [press, Keystroke.action_of_means h]

theorem press_of_not_isInput (h : k.action.isInput = false) (c : Console ω) :
    c.press k = (k.action, c) := by
  unfold press
  cases ha : k.action with
  | input i =>
    rw [ha] at h
    cases h
  | passThrough | ignore => rfl

theorem isInput_of_not_means (h : ∀ i, ¬ k.Means i) : k.action.isInput = false := by
  cases ha : k.action with
  | input i => exact absurd (Keystroke.action_eq_iff.mp ha) (h i)
  | passThrough | ignore => rfl

theorem perform_vain {o : Operation} (h : o.isVain = true) (c : Console ω) :
    (c.perform o).2 = c := by
  cases o with
  | press k =>
    have hk : k.action.isInput = false := by simpa [Operation.isVain] using h
    rw [perform, press_of_not_isInput hk]
  | _ => cases h

theorem run_filter_vain (os : List Operation) (c : Console ω) :
    (run (os.filter (!·.isVain)) c).2 = (run os c).2 := by
  induction os generalizing c with
  | nil => rfl
  | cons o os ih =>
    cases ho : o.isVain with
    | true =>
      rw [List.filter_cons_of_neg (by simp [ho]), ih, run, perform_vain ho]
    | false =>
      rw [List.filter_cons_of_pos (by simp [ho]), run, run]
      exact ih _

/-! ## What is done to the world -/

theorem calls_send (f : Frame) (c : Console (Watched ω)) : ∃ calls,
    (c.send f).2.world.calls = c.world.calls ++ calls ∧ .scrollToEnd ∉ calls := by
  obtain ⟨calls, -, hmade⟩ := c.link.send_moves f
  have hc : (c.link.send f).2.world.calls = c.world.calls ++ calls :=
    Watched.calls_of_made hmade
  have hn : .scrollToEnd ∉ calls := by
    intro h
    cases hmade.onNetwork _ h
  unfold send
  dsimp only
  cases (c.link.send f).1 with
  | sent | dropped => exact ⟨calls, hc, hn⟩
  | failed error =>
    refine ⟨calls ++ [.append (Style.error.tag ++ error.message ++ "\n") .error], ?_, by simp [hn]⟩
    rw [← List.append_assoc, ← hc]
    rfl

/-- An input does not scroll the screen. -/
theorem calls_input (i : Input) (c : Console (Watched ω)) : ∃ calls,
    (c.input i).2.world.calls = c.world.calls ++ calls ∧ .scrollToEnd ∉ calls := by
  simp only [input]
  generalize (c.session.encoder.encode i).1 = encoded
  have noted := calls_noteAll (encoded.notices c.session.encoder.line) c
  cases encoded with
  | frame f =>
    obtain ⟨calls, hc, hn⟩ := calls_send f ((c.noteAll _).withEncoder _)
    exact ⟨calls, hc.trans (congrArg (· ++ calls) noted), hn⟩
  | held | refused _ => exact ⟨[], noted.trans (List.append_nil _).symm, List.not_mem_nil⟩

/-- A keystroke is taken for what it fits, whether alt is held or not. Whatever a session has come
to, one that means an input is that input and nothing else, but for a scrolling of the screen after
it. One that means none leaves the session and its world as they were, so that a run comes to the
same without any of these. -/
theorem press_fits (k : Keystroke) (c : Console (Watched ω)) :
    (∀ a, k.action = a ↔ k.Fits a) ∧
    (∀ alt, ({ k with modifiers.alt := alt } : Keystroke).action = k.action) ∧
    (∀ i, k.Means i → c.press k = (.input i, (c.input i).2.scrollToEnd) ∧ ∃ calls,
      (c.input i).2.world.calls = c.world.calls ++ calls ∧ .scrollToEnd ∉ calls ∧
      (c.press k).2.world.calls = c.world.calls ++ calls ++ [.scrollToEnd]) ∧
    ((∀ i, ¬ k.Means i) → c.press k = (k.action, c)) ∧
    ∀ os : List Operation, (run (os.filter (!·.isVain)) c).2 = (run os c).2 := by
  refine ⟨fun a => Keystroke.action_eq_iff, fun alt => rfl, ?_, ?_, fun os => run_filter_vain os c⟩
  · intro i hi
    obtain ⟨calls, hc, hn⟩ := calls_input i c
    refine ⟨press_of_means hi c, calls, hc, hn, ?_⟩
    rw [press_of_means hi, ← hc]
    rfl
  · intro h
    exact press_of_not_isInput (isInput_of_not_means h) c

/-- With every modifier held an interrupt is an interrupt, and discards the line. A letter with
command alone is left to the browser. -/
theorem press_fits_interrupt :
    let start : Console (Watched Bench) :=
      ⟨({ mode := .line } : Config).session "ws://h/ws", { inner := {} }⟩
    let c := (run [.start, .signal ⟨1⟩ .opened, .press ⟨"é", {}⟩] start).2
    let k : Keystroke := ⟨"C", { control := true, alt := true, command := true }⟩
    let k' : Keystroke := ⟨"v", { command := true }⟩
    c.session.pendingLine = "é" ∧ k.Means .interrupt ∧
      c.press k = (.input .interrupt, (c.input .interrupt).2.scrollToEnd) ∧
      (c.press k).2.world.inner.sent = [⟨[3]⟩] ∧ (c.press k).2.session.pendingLine = "" ∧
      (∀ i, ¬ k'.Means i) ∧ k'.action = .passThrough ∧ c.press k' = (k'.action, c) := by
  intro start c k k'
  have hk : k.Means .interrupt := ⟨rfl, .inr rfl⟩
  have ha : k'.action = .passThrough := by decide
  have hk' : ∀ i, ¬ k'.Means i := by
    intro i hi
    have hi := Keystroke.action_of_means hi
    rw [ha] at hi
    cases hi
  obtain ⟨-, -, hpress, -⟩ := press_fits k c
  obtain ⟨-, -, -, hvain, -⟩ := press_fits k' c
  exact ⟨by decide +kernel, hk, (hpress _ hk).1, by decide +kernel, by decide +kernel, hk', ha,
    hvain hk'⟩

end Console

end Session

end WebTerminal
