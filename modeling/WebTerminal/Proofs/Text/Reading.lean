import Mathlib.Tactic.SplitIfs
import WebTerminal.Text.Utf8

/-! # What bytes read as

Bytes read as a character just when they are its encoding, and as one that has begun just when they
are the beginning of an encoding and not the whole of it. So no encoding is the beginning of
another. -/

namespace WebTerminal.Utf8

theorem toNat_char {n : Nat} (h : n.isValidChar) : (Char.ofNat n).toNat = n := by
  rw [Char.ofNat, dif_pos h]
  rfl

theorem ofNat_byte {n : Nat} {b : UInt8} (h : n = b.toNat) : UInt8.ofNat n = b := by
  rw [h, UInt8.ofNat_toNat]

theorem isTrailing_iff {b : UInt8} : isTrailing b = true ↔ 0x80 ≤ b.toNat ∧ b.toNat ≤ 0xBF := by
  simp [isTrailing, UInt8.le_iff_toNat_le]

theorem isSecond_iff {a b : UInt8} : isSecond a b = true ↔
    (0x80 ≤ b.toNat ∧ b.toNat ≤ 0xBF) ∧ (a.toNat = 0xE0 → 0xA0 ≤ b.toNat) ∧
      (a.toNat = 0xED → b.toNat ≤ 0x9F) ∧ (a.toNat = 0xF0 → 0x90 ≤ b.toNat) ∧
      (a.toNat = 0xF4 → b.toNat ≤ 0x8F) := by
  simp only [isSecond, Bool.and_eq_true, Bool.or_eq_true, isTrailing_iff, bne_iff_ne, ne_eq,
    decide_eq_true_eq, ← UInt8.toNat_inj, UInt8.le_iff_toNat_le, UInt8.reduceToNat]
  omega

/-! ## Characters -/

/-- The bytes spell the code of a character, by the number of bytes. -/
inductive Spells : Bytes → Nat → Prop where
  | one {a : UInt8} (ha : a.toNat < 0x80) : Spells [a] a.toNat
  | two {a b : UInt8} (ha : 0xC2 ≤ a.toNat) (ha' : a.toNat < 0xE0) (hb : isSecond a b = true) :
      Spells [a, b] (a.toNat % 32 * 64 + payload b)
  | three {a b c : UInt8} (ha : 0xE0 ≤ a.toNat) (ha' : a.toNat < 0xF0) (hb : isSecond a b = true)
      (hc : isTrailing c = true) :
      Spells [a, b, c] ((a.toNat % 16 * 64 + payload b) * 64 + payload c)
  | four {a b c d : UInt8} (ha : 0xF0 ≤ a.toNat) (ha' : a.toNat ≤ 0xF4) (hb : isSecond a b = true)
      (hc : isTrailing c = true) (hd : isTrailing d = true) :
      Spells [a, b, c, d] (((a.toNat % 8 * 64 + payload b) * 64 + payload c) * 64 + payload d)

variable {bs p q : Bytes} {c : Char} {n : Nat}

theorem read_eq_char_iff_spells : read bs = .char c ↔ ∃ n, Spells bs n ∧ Char.ofNat n = c := by
  constructor
  · intro h
    unfold read at h
    simp only [UInt8.lt_iff_toNat_lt, UInt8.le_iff_toNat_le, UInt8.reduceToNat] at h
    split at h
    · split_ifs at h with ha
      exact ⟨_, .one ha, Reading.char.inj h⟩
    · split_ifs at h with hg ha
      exact ⟨_, .two hg.1 ha hg.2.2, Reading.char.inj h⟩
    · split_ifs at h with hg ha
      exact ⟨_, .three hg.1 ha hg.2.2.1 hg.2.2.2, Reading.char.inj h⟩
    · split_ifs at h with hg
      exact ⟨_, .four hg.1 hg.2.1 hg.2.2.1 hg.2.2.2.1 hg.2.2.2.2, Reading.char.inj h⟩
    · cases h
  · rintro ⟨n, h, rfl⟩
    cases h with
    | one ha => simp [read, UInt8.lt_iff_toNat_lt, ha]
    | @two a b ha ha' hb =>
      have hle : a.toNat ≤ 0xF4 := by omega
      simp [read, UInt8.lt_iff_toNat_lt, UInt8.le_iff_toNat_le, ha, ha', hle, hb]
    | @three a b c ha ha' hb hc =>
      have hle : a.toNat ≤ 0xF4 := by omega
      simp [read, UInt8.lt_iff_toNat_lt, UInt8.le_iff_toNat_le, ha, ha', hle, hb, hc]
    | four ha ha' hb hc hd => simp [read, UInt8.le_iff_toNat_le, ha, ha', hb, hc, hd]

theorem Spells.isValidChar (h : Spells bs n) : n.isValidChar := by
  unfold Nat.isValidChar
  cases h with
  | one ha => omega
  | two ha ha' hb =>
    unfold payload
    omega
  | three ha ha' hb hc | four ha ha' hb hc hd =>
    rw [isSecond_iff] at hb
    unfold payload
    omega

theorem Spells.encode_eq (h : Spells bs n) : String.utf8EncodeChar (Char.ofNat n) = bs := by
  have hn : (Char.ofNat n).val.toNat = n := toNat_char h.isValidChar
  unfold String.utf8EncodeChar
  simp only [hn]
  cases h with
  | one ha => rw [if_pos (by omega), ofNat_byte rfl]
  | two ha ha' hb =>
    rw [isSecond_iff] at hb
    unfold payload
    rw [if_neg (by omega), if_pos (by omega)]
    simp only [List.cons.injEq, and_true]
    exact ⟨ofNat_byte (by omega), ofNat_byte (by omega)⟩
  | three ha ha' hb hc =>
    rw [isSecond_iff] at hb
    rw [isTrailing_iff] at hc
    unfold payload
    rw [if_neg (by omega), if_neg (by omega), if_pos (by omega)]
    simp only [List.cons.injEq, and_true]
    exact ⟨ofNat_byte (by omega), ofNat_byte (by omega), ofNat_byte (by omega)⟩
  | four ha ha' hb hc hd =>
    rw [isSecond_iff] at hb
    rw [isTrailing_iff] at hc hd
    unfold payload
    rw [if_neg (by omega), if_neg (by omega), if_neg (by omega)]
    simp only [List.cons.injEq, and_true]
    exact ⟨ofNat_byte (by omega), ofNat_byte (by omega), ofNat_byte (by omega),
      ofNat_byte (by omega)⟩

theorem spells_encode (c : Char) : Spells (String.utf8EncodeChar c) c.toNat := by
  have hv : c.toNat < 0xD800 ∨ 0xDFFF < c.toNat ∧ c.toNat < 0x110000 := c.valid
  unfold String.utf8EncodeChar
  simp only [show c.val.toNat = c.toNat from rfl]
  generalize c.toNat = n at hv
  have byte (m : Nat) (h : m < 256) : (UInt8.ofNat m).toNat = m := UInt8.toNat_ofNat_of_lt' h
  split_ifs with h₁ h₂ h₃
  · have ha := byte n (by omega)
    generalize UInt8.ofNat n = a at ha ⊢
    rw [← ha]
    exact .one (by omega)
  · have ha := byte (n / 64 % 32 + 192) (by omega)
    have hb := byte (n % 64 + 128) (by omega)
    generalize UInt8.ofNat (n / 64 % 32 + 192) = a at ha ⊢
    generalize UInt8.ofNat (n % 64 + 128) = b at hb ⊢
    have hn : n = a.toNat % 32 * 64 + payload b := by unfold payload; omega
    rw [hn]
    exact .two (by omega) (by omega) (isSecond_iff.mpr (by omega))
  · have ha := byte (n / 4096 % 16 + 224) (by omega)
    have hb := byte (n / 64 % 64 + 128) (by omega)
    have hc := byte (n % 64 + 128) (by omega)
    generalize UInt8.ofNat (n / 4096 % 16 + 224) = a at ha ⊢
    generalize UInt8.ofNat (n / 64 % 64 + 128) = b at hb ⊢
    generalize UInt8.ofNat (n % 64 + 128) = c at hc ⊢
    have hn : n = (a.toNat % 16 * 64 + payload b) * 64 + payload c := by unfold payload; omega
    rw [hn]
    exact .three (by omega) (by omega) (isSecond_iff.mpr (by omega)) (isTrailing_iff.mpr (by omega))
  · have ha := byte (n / 262144 % 8 + 240) (by omega)
    have hb := byte (n / 4096 % 64 + 128) (by omega)
    have hc := byte (n / 64 % 64 + 128) (by omega)
    have hd := byte (n % 64 + 128) (by omega)
    generalize UInt8.ofNat (n / 262144 % 8 + 240) = a at ha ⊢
    generalize UInt8.ofNat (n / 4096 % 64 + 128) = b at hb ⊢
    generalize UInt8.ofNat (n / 64 % 64 + 128) = c at hc ⊢
    generalize UInt8.ofNat (n % 64 + 128) = d at hd ⊢
    have hn : n = ((a.toNat % 8 * 64 + payload b) * 64 + payload c) * 64 + payload d := by
      unfold payload
      omega
    rw [hn]
    exact .four (by omega) (by omega) (isSecond_iff.mpr (by omega)) (isTrailing_iff.mpr (by omega))
      (isTrailing_iff.mpr (by omega))

theorem read_eq_char_iff : read bs = .char c ↔ String.utf8EncodeChar c = bs := by
  rw [read_eq_char_iff_spells]
  constructor
  · rintro ⟨n, h, rfl⟩
    exact h.encode_eq
  · rintro rfl
    exact ⟨c.toNat, spells_encode c, Char.ofNat_toNat c⟩

theorem read_encode_ne_broken (c : Char) : read (String.utf8EncodeChar c) ≠ .broken := by
  rw [read_eq_char_iff.mpr rfl]
  simp

/-! ## Characters that have begun -/

/-- The bytes can go on to spell the code of a character, by the number of bytes. -/
inductive Opens : Bytes → Prop where
  | one {a : UInt8} (ha : 0xC2 ≤ a.toNat) (ha' : a.toNat ≤ 0xF4) : Opens [a]
  | two {a b : UInt8} (ha : 0xE0 ≤ a.toNat) (ha' : a.toNat ≤ 0xF4) (hb : isSecond a b = true) :
      Opens [a, b]
  | three {a b c : UInt8} (ha : 0xF0 ≤ a.toNat) (ha' : a.toNat ≤ 0xF4) (hb : isSecond a b = true)
      (hc : isTrailing c = true) : Opens [a, b, c]

theorem read_eq_begun_iff_opens : read p = .begun ↔ Opens p := by
  constructor
  · intro h
    unfold read at h
    simp only [UInt8.lt_iff_toNat_lt, UInt8.le_iff_toNat_le, UInt8.reduceToNat] at h
    split at h
    · split_ifs at h with ha hg
      exact .one hg.1 hg.2
    · split_ifs at h with hg ha
      exact .two (by omega) hg.2.1 hg.2.2
    · split_ifs at h with hg ha
      exact .three (by omega) hg.2.1 hg.2.2.1 hg.2.2.2
    · split_ifs at h
    · cases h
  · intro h
    cases h with
    | @one a ha ha' =>
      have hlt : ¬ a.toNat < 0x80 := by omega
      simp [read, UInt8.lt_iff_toNat_lt, UInt8.le_iff_toNat_le, hlt, ha, ha']
    | @two a b ha ha' hb =>
      have hle : 0xC2 ≤ a.toNat := by omega
      simp [read, UInt8.lt_iff_toNat_lt, UInt8.le_iff_toNat_le, ha, ha', hle, hb]
    | @three a b c ha ha' hb hc =>
      have hle : 0xE0 ≤ a.toNat := by omega
      simp [read, UInt8.lt_iff_toNat_lt, UInt8.le_iff_toNat_le, ha, ha', hle, hb, hc]

theorem Opens.init {b : UInt8} (hp : p ≠ []) (h : Opens (p ++ [b])) : Opens p := by
  generalize hq : p ++ [b] = q at h
  cases h with
  | one ha ha' => exact absurd (List.append_inj' (show p ++ [b] = [] ++ [_] from hq) rfl).1 hp
  | @two a _ ha ha' hb =>
    obtain ⟨rfl, -⟩ := List.append_inj' (show p ++ [b] = [a] ++ [_] from hq) rfl
    exact .one (by omega) ha'
  | @three a a' _ ha ha' hb hc =>
    obtain ⟨rfl, -⟩ := List.append_inj' (show p ++ [b] = [a, a'] ++ [_] from hq) rfl
    exact .two (by omega) ha' hb

theorem Spells.init {b : UInt8} (hp : p ≠ []) (h : Spells (p ++ [b]) n) : Opens p := by
  generalize hq : p ++ [b] = q at h
  cases h with
  | one ha => exact absurd (List.append_inj' (show p ++ [b] = [] ++ [_] from hq) rfl).1 hp
  | @two a _ ha ha' hb =>
    obtain ⟨rfl, -⟩ := List.append_inj' (show p ++ [b] = [a] ++ [_] from hq) rfl
    exact .one ha (by omega)
  | @three a a' _ ha ha' hb hc =>
    obtain ⟨rfl, -⟩ := List.append_inj' (show p ++ [b] = [a, a'] ++ [_] from hq) rfl
    exact .two ha (by omega) hb
  | @four a a' a'' _ ha ha' hb hc hd =>
    obtain ⟨rfl, -⟩ := List.append_inj' (show p ++ [b] = [a, a', a''] ++ [_] from hq) rfl
    exact .three ha ha' hb hc

theorem Opens.exists_snoc (h : Opens p) :
    ∃ b, Opens (p ++ [b]) ∨ ∃ n, Spells (p ++ [b]) n := by
  cases h with
  | @one a ha ha' =>
    -- the two leading bytes with a later first choice of second byte
    have second : ∃ b, isSecond a b = true := by
      by_cases h0 : a.toNat = 0xE0
      · exact ⟨0xA0, isSecond_iff.mpr (by simp [h0])⟩
      by_cases h1 : a.toNat = 0xF0
      · exact ⟨0x90, isSecond_iff.mpr (by simp [h1])⟩
      · exact ⟨0x80, isSecond_iff.mpr (by simp [h0, h1])⟩
    obtain ⟨b, hb⟩ := second
    rcases Nat.lt_or_ge a.toNat 0xE0 with hlt | hge
    · exact ⟨b, .inr ⟨_, .two ha hlt hb⟩⟩
    · exact ⟨b, .inl (.two hge ha' hb)⟩
  | @two a b ha ha' hb =>
    rcases Nat.lt_or_ge a.toNat 0xF0 with hlt | hge
    · exact ⟨0x80, .inr ⟨_, .three ha hlt hb rfl⟩⟩
    · exact ⟨0x80, .inl (.three hge ha' hb rfl)⟩
  | three ha ha' hb hc => exact ⟨0x80, .inr ⟨_, .four ha ha' hb hc rfl⟩⟩

theorem Opens.length_le (h : Opens p) : p.length ≤ 3 := by
  cases h <;> simp

theorem Opens.ne_nil (h : Opens p) : p ≠ [] := by
  cases h <;> simp

theorem Opens.of_append (hp : p ≠ []) (hq : q ≠ []) (h : Opens (p ++ q) ∨ ∃ n, Spells (p ++ q) n) :
    Opens p := by
  induction q generalizing p with
  | nil => exact absurd rfl hq
  | cons b q ih =>
    have hb : Opens (p ++ [b]) ∨ ∃ n, Spells (p ++ [b]) n := by
      cases q with
      | nil => exact h
      | cons b' q =>
        exact .inl (ih (by simp) (by simp) (by simpa using h))
    rcases hb with hb | ⟨n, hb⟩
    · exact hb.init hp
    · exact hb.init hp

theorem Opens.exists_append (h : Opens p) : ∃ q n, q ≠ [] ∧ Spells (p ++ q) n := by
  induction hk : 3 - p.length generalizing p with
  | zero =>
    obtain ⟨b, hb | ⟨n, hb⟩⟩ := h.exists_snoc
    · have hle := hb.length_le
      simp only [List.length_append, List.length_singleton] at hle
      omega
    · exact ⟨[b], n, by simp, hb⟩
  | succ k ih =>
    obtain ⟨b, hb | ⟨n, hb⟩⟩ := h.exists_snoc
    · obtain ⟨q, n, -, hq⟩ := ih hb (by simp; omega)
      exact ⟨b :: q, n, by simp, by simpa using hq⟩
    · exact ⟨[b], n, by simp, hb⟩

/-- The beginning of the encoding of a character, and not the whole of it. -/
def Begun (p : Bytes) : Prop := p ≠ [] ∧ ∃ c q, q ≠ [] ∧ String.utf8EncodeChar c = p ++ q

theorem read_eq_begun_iff : read p = .begun ↔ Begun p := by
  rw [read_eq_begun_iff_opens]
  constructor
  · intro h
    obtain ⟨q, n, hq, hs⟩ := h.exists_append
    exact ⟨h.ne_nil, _, q, hq, hs.encode_eq⟩
  · rintro ⟨hp, c, q, hq, hc⟩
    refine .of_append hp hq (.inr ⟨c.toNat, ?_⟩)
    rw [← hc]
    exact spells_encode c

theorem Begun.read_ne_broken (h : Begun p) : read p ≠ .broken := by
  rw [read_eq_begun_iff.mpr h]
  simp

theorem Begun.length_le (h : Begun p) : p.length ≤ 3 :=
  (read_eq_begun_iff_opens.mp (read_eq_begun_iff.mpr h)).length_le

theorem Begun.of_append (h : Begun (p ++ q)) (hp : p ≠ []) : Begun p := by
  obtain ⟨-, c, q', hq', hc⟩ := h
  exact ⟨hp, c, q ++ q', by simp [hq'], by rw [hc, List.append_assoc]⟩

theorem not_begun_encode (c : Char) : ¬ Begun (String.utf8EncodeChar c) := by
  intro h
  have hb := read_eq_begun_iff.mpr h
  rw [read_eq_char_iff.mpr rfl] at hb
  cases hb

theorem encode_inj {c c' : Char} (h : String.utf8EncodeChar c = String.utf8EncodeChar c') :
    c = c' := by
  have hc := read_eq_char_iff.mpr h
  rw [read_eq_char_iff.mpr rfl] at hc
  exact (Reading.char.inj hc).symm

/-- An encoding that stands at the beginning of another is that other one. -/
theorem eq_nil_of_encode_append {c c' : Char}
    (h : String.utf8EncodeChar c ++ q = String.utf8EncodeChar c') : q = [] := by
  by_cases hq : q = []
  · exact hq
  · exact absurd ⟨String.utf8EncodeChar_ne_nil, c', q, hq, h.symm⟩ (not_begun_encode c)

theorem encode_append_inj {c c' : Char}
    (h : String.utf8EncodeChar c ++ p = String.utf8EncodeChar c' ++ q) : c = c' ∧ p = q := by
  rcases List.append_eq_append_iff.mp h with ⟨r, hc, hr⟩ | ⟨r, hc, hr⟩
  · obtain rfl := eq_nil_of_encode_append hc.symm
    exact ⟨(encode_inj (by simpa using hc)).symm, by simpa using hr⟩
  · obtain rfl := eq_nil_of_encode_append hc.symm
    exact ⟨encode_inj (by simpa using hc), by simpa using hr.symm⟩

end WebTerminal.Utf8
