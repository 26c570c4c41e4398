import Mathlib.Data.List.Chain
import WebTerminal.Text.Quoted

/-! # Printable characters

The ranges of the characters that are not shown as themselves are in increasing order and apart, so
a character is in one of them at most, and what is shown of the first characters can be read off the
first two ranges. All that a quoted text consists of is shown as itself. -/

namespace WebTerminal.Text

variable {c d quote : Char} {r r' : Nat × Nat}

/-- A range lies before another one, with a character between them. -/
def Before (r r' : Nat × Nat) : Prop := r.1 ≤ r.2 ∧ r.2 + 1 < r'.1

instance : DecidableRel Before := fun _ _ => inferInstanceAs (Decidable (_ ∧ _))

instance : Trans Before Before Before where
  trans h h' := ⟨h.1, Nat.lt_trans h.2 (Nat.lt_of_le_of_lt h'.1 (Nat.lt_of_succ_lt h'.2))⟩

/-- The ranges are in increasing order and apart. -/
theorem hiddenRanges_before : hiddenRanges.Pairwise Before := by
  -- neighbours suffice, there are far fewer of them than pairs
  have neighbours : hiddenRanges.IsChain Before := by decide +kernel
  exact neighbours.pairwise

theorem isHidden_iff :
    isHidden c = true ↔ ∃ r ∈ hiddenRanges, r.1 ≤ c.toNat ∧ c.toNat ≤ r.2 := by
  simp [isHidden, List.any_eq_true]

/-- A hidden character is in one range only. -/
theorem hiddenRange_unique (hr : r ∈ hiddenRanges) (hr' : r' ∈ hiddenRanges)
    (h : r.1 ≤ c.toNat ∧ c.toNat ≤ r.2) (h' : r'.1 ≤ c.toNat ∧ c.toNat ≤ r'.2) : r = r' := by
  obtain ⟨i, hi, rfl⟩ := List.mem_iff_getElem.mp hr
  obtain ⟨j, hj, rfl⟩ := List.mem_iff_getElem.mp hr'
  have before := List.pairwise_iff_getElem.mp hiddenRanges_before
  rcases Nat.lt_trichotomy i j with hij | rfl | hij
  · have hb := (before i j hi hj hij).2
    omega
  · rfl
  · have hb := (before j i hj hi hij).2
    omega

/-- Among the first characters those from the space to the tilde are shown. -/
theorem isPrintable_iff_of_le (hc : c.toNat ≤ 0xA0) :
    isPrintable c = true ↔ 0x20 ≤ c.toNat ∧ c.toNat ≤ 0x7E := by
  have split : hiddenRanges = (0x0, 0x1F) :: (0x7F, 0xA0) :: hiddenRanges.drop 2 := rfl
  have later (r : Nat × Nat) (hr : r ∈ hiddenRanges.drop 2) : 0xA0 < r.1 := by
    have sorted := hiddenRanges_before
    rw [split] at sorted
    have hb := (List.pairwise_cons.mp (List.pairwise_cons.mp sorted).2).1 r hr
    exact Nat.lt_of_succ_lt hb.2
  have hidden : isHidden c = true ↔ c.toNat ≤ 0x1F ∨ 0x7F ≤ c.toNat := by
    rw [isHidden_iff, split]
    constructor
    · rintro ⟨r, hr, hle, hle'⟩
      rcases List.mem_cons.mp hr with rfl | hr
      · exact .inl hle'
      · rcases List.mem_cons.mp hr with rfl | hr
        · exact .inr hle
        · have hl := later r hr
          omega
    · rintro (h | h)
      · exact ⟨_, List.mem_cons_self, Nat.zero_le _, h⟩
      · exact ⟨_, List.mem_cons_of_mem _ List.mem_cons_self, h, hc⟩
  rw [isPrintable, Bool.not_eq_true', ← Bool.not_eq_true, hidden]
  omega

example : isPrintable ' ' ∧ isPrintable '~' ∧ ¬ isPrintable '\x7f' := by decide +kernel

/-! ## Quoted text -/

theorem isPrintable_of_ascii (h : 0x20 ≤ c.toNat ∧ c.toNat ≤ 0x7E) : isPrintable c = true :=
  (isPrintable_iff_of_le (by omega)).mpr h

/-- What escapes are made of, besides the quote and the digits of a code point. -/
def escapeMarks : List Char := ['\\', '0', 't', 'r', 'n', 'u', '\x7b', '\x7d']

theorem isPrintable_of_mem_escapeMarks (h : d ∈ escapeMarks) : isPrintable d = true := by
  have ascii : ∀ d ∈ escapeMarks, 0x20 ≤ d.toNat ∧ d.toNat ≤ 0x7E := by simp [escapeMarks]
  exact isPrintable_of_ascii (ascii d h)

theorem isPrintable_digitChar {n : Nat} (h : n < 16) : isPrintable n.digitChar = true := by
  have ascii : ∀ n < 16, 0x20 ≤ n.digitChar.toNat ∧ n.digitChar.toNat ≤ 0x7E := by decide
  exact isPrintable_of_ascii (ascii n h)

theorem isPrintable_of_mem_toDigits {n : Nat} (h : d ∈ Nat.toDigits 16 n) :
    isPrintable d = true := by
  induction n using Nat.strongRecOn with
  | ind n ih =>
    rw [Nat.toDigits_eq_if (by decide)] at h
    split at h
    case isTrue hn =>
      obtain rfl := List.mem_singleton.mp h
      exact isPrintable_digitChar hn
    case isFalse hn =>
      rcases List.mem_append.mp h with h | h
      · exact ih (n / 16) (by omega) h
      · obtain rfl := List.mem_singleton.mp h
        exact isPrintable_digitChar (Nat.mod_lt n (by decide))

theorem isPrintable_of_mem_escapeCodePoint (h : d ∈ escapeCodePoint c) : isPrintable d = true := by
  have front : ['\\', 'u', '\x7b'] ⊆ escapeMarks := by decide
  have back : ['\x7d'] ⊆ escapeMarks := by decide
  simp only [escapeCodePoint, List.mem_append] at h
  rcases h with (h | h) | h
  · exact isPrintable_of_mem_escapeMarks (front h)
  · exact isPrintable_of_mem_toDigits h
  · exact isPrintable_of_mem_escapeMarks (back h)

theorem isPrintable_of_mem_escape (hq : isPrintable quote = true) (h : d ∈ escape quote c) :
    isPrintable d = true := by
  have short {e : Char} (he : e ∈ escapeMarks) (h : d ∈ ['\\', e]) : isPrintable d = true := by
    rcases List.mem_pair.mp h with rfl | rfl
    · exact isPrintable_of_mem_escapeMarks (by decide)
    · exact isPrintable_of_mem_escapeMarks he
  unfold escape at h
  split at h
  · exact short (by decide) h
  split at h
  · exact short (by decide) h
  split at h
  · exact short (by decide) h
  split at h
  · exact short (by decide) h
  split at h
  case isTrue hc =>
    rcases List.mem_pair.mp h with rfl | rfl
    · exact isPrintable_of_mem_escapeMarks (by decide)
    · rcases hc with rfl | rfl
      · exact hq
      · exact isPrintable_of_mem_escapeMarks (by decide)
  split at h
  case isTrue hp =>
    obtain rfl := List.mem_singleton.mp h
    exact hp
  case isFalse => exact isPrintable_of_mem_escapeCodePoint h

theorem isPrintable_of_mem_quotedWith (hq : isPrintable quote = true) {cs : List Char}
    (h : d ∈ (quotedWith quote cs).toList) : isPrintable d = true := by
  simp only [quotedWith, String.toList_ofList, List.mem_append, List.mem_singleton,
    List.mem_flatMap] at h
  rcases h with (rfl | ⟨c, -, h⟩) | rfl
  · exact hq
  · exact isPrintable_of_mem_escape hq h
  · exact hq

/-- Whatever a text is, its quoted form consists of printable characters. -/
theorem isPrintable_of_mem_quoted {s : String} (h : d ∈ (quoted s).toList) :
    isPrintable d = true :=
  isPrintable_of_mem_quotedWith (isPrintable_of_ascii (by decide)) h

theorem isPrintable_of_mem_quotedChar (h : d ∈ (quotedChar c).toList) : isPrintable d = true :=
  isPrintable_of_mem_quotedWith (isPrintable_of_ascii (by decide)) h

end WebTerminal.Text
