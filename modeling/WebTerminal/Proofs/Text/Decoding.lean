import WebTerminal.Proofs.Text.Reading

/-! # Text in pieces

However bytes are cut, pushing the pieces decodes them as one. What a decoder shows are the
characters that stand in the bytes and a replacement character for each stretch that belongs to
none; what it carries is the beginning of a character. -/

namespace WebTerminal.Utf8

/-- A stretch that belongs to no character, before the rest: as long a beginning of a character as
stands there, or a single byte. -/
structure Broken (bad rest : Bytes) : Prop where
  not_char : ∀ c, ¬ String.utf8EncodeChar c <+: bad ++ rest
  begun_or_one : Begun bad ∨ bad.length = 1
  longest : ∀ p, Begun p → p <+: bad ++ rest → p.length ≤ bad.length

/-- The text of bytes to which nothing will be added. -/
inductive Lossy : Bytes → List Char → Prop where
  | nil : Lossy [] []
  | char (c : Char) {bs : Bytes} {cs : List Char} (h : Lossy bs cs) :
      Lossy (String.utf8EncodeChar c ++ bs) (c :: cs)
  | broken {bad bs : Bytes} {cs : List Char} (hb : Broken bad bs) (h : Lossy bs cs) :
      Lossy (bad ++ bs) (replacement :: cs)

/-- The text of bytes to which more may be added, as far as it is settled, and the bytes of a
character that has begun. -/
inductive Splits : Bytes → List Char → Bytes → Prop where
  | rest {carry : Bytes} (h : carry = [] ∨ Begun carry) : Splits carry [] carry
  | char (c : Char) {bs carry : Bytes} {cs : List Char} (h : Splits bs cs carry) :
      Splits (String.utf8EncodeChar c ++ bs) (c :: cs) carry
  | broken {bad bs carry : Bytes} {cs : List Char} (hb : Broken bad bs)
      (hn : ¬ Begun (bad ++ bs)) (h : Splits bs cs carry) :
      Splits (bad ++ bs) (replacement :: cs) carry

variable {bs bs' bad bad' carry : Bytes} {cs cs' : List Char}

/-! ## Lossy decoding -/

theorem Begun.broken (h : Begun bad) : Broken bad [] where
  not_char c hc := by
    obtain ⟨rest, hr⟩ := hc
    rw [List.append_nil] at hr
    exact not_begun_encode c (Begun.of_append (hr ▸ h) String.utf8EncodeChar_ne_nil)
  begun_or_one := .inl h
  longest p _ hp := by simpa using hp.length_le

theorem Broken.ne_nil (h : Broken bad bs) : bad ≠ [] := by
  rintro rfl
  rcases h.begun_or_one with hb | hb
  · exact hb.1 rfl
  · cases hb

theorem Broken.length_le (h : Broken bad bs) (h' : Broken bad' bs')
    (he : bad ++ bs = bad' ++ bs') : bad.length ≤ bad'.length := by
  rcases h.begun_or_one with hb | hb
  · exact h'.longest bad hb ⟨bs, he⟩
  · rw [hb]
    exact List.length_pos_iff.mpr h'.ne_nil

/-- Where a stretch is broken, it is as long as any other that could be. -/
theorem Broken.append_inj (h : Broken bad bs) (h' : Broken bad' bs')
    (he : bad ++ bs = bad' ++ bs') : bad = bad' ∧ bs = bs' :=
  List.append_inj he (Nat.le_antisymm (h.length_le h' he) (h'.length_le h he.symm))

theorem Lossy.unique (h : Lossy bs cs) (h' : Lossy bs cs') : cs = cs' := by
  induction h generalizing cs' with
  | nil =>
    generalize hbs : [] = l at h'
    cases h' with
    | nil => rfl
    | char c _ => exact absurd hbs.symm (by simp [String.utf8EncodeChar_ne_nil])
    | broken hb _ => exact absurd hbs.symm (by simp [hb.ne_nil])
  | @char c bs cs _ ih =>
    generalize hbs : String.utf8EncodeChar c ++ bs = l at h'
    cases h' with
    | nil => exact absurd hbs (by simp [String.utf8EncodeChar_ne_nil])
    | char c' h' =>
      obtain ⟨rfl, rfl⟩ := encode_append_inj hbs
      rw [ih h']
    | broken hb _ => exact absurd ⟨bs, hbs⟩ (hb.not_char c)
  | @broken bad bs cs hb _ ih =>
    generalize hbs : bad ++ bs = l at h'
    cases h' with
    | nil => exact absurd hbs (by simp [hb.ne_nil])
    | @char c bs' cs' h' => exact absurd ⟨bs', hbs.symm⟩ (hb.not_char c)
    | broken hb' h' =>
      obtain ⟨rfl, rfl⟩ := hb.append_inj hb' hbs
      rw [ih h']

theorem Splits.lossy (h : Splits bs cs carry) :
    Lossy bs (cs ++ if carry = [] then [] else [replacement]) := by
  induction h with
  | @rest carry h =>
    by_cases hc : carry = []
    · subst hc
      exact .nil
    · have hb := (h.resolve_left hc).broken
      rw [if_neg hc]
      simpa using Lossy.broken hb .nil
  | char c _ ih => exact .char c ih
  | broken hb _ _ ih => exact .broken hb ih

theorem Splits.carry_le (h : Splits bs cs carry) : carry.length ≤ 3 := by
  induction h with
  | rest h =>
    rcases h with rfl | h
    · simp
    · exact h.length_le
  | char _ _ ih | broken _ _ _ ih => exact ih

/-! ## The decoder -/

/-- Past a byte that breaks a character off, nothing reaches back to where it began. -/
theorem prefix_of_read_broken {b : UInt8} {p : Bytes} (hr : read (carry ++ [b]) = .broken)
    (hp : read p ≠ .broken) (h : p <+: carry ++ b :: bs) : p <+: carry := by
  have hb : carry ++ [b] <+: carry ++ b :: bs := ⟨bs, by simp⟩
  rcases List.prefix_or_prefix_of_prefix h hb with hle | ⟨q, rfl⟩
  · rcases List.prefix_concat_iff.mp hle with rfl | hle
    · exact absurd hr hp
    · exact hle
  · exfalso
    have begun : Begun (carry ++ [b]) := by
      cases hread : read (carry ++ [b] ++ q) with
      | char c =>
        have hq : q ≠ [] := by
          rintro rfl
          rw [List.append_nil] at hp
          exact hp hr
        exact ⟨by simp, c, q, hq, read_eq_char_iff.mp hread⟩
      | begun => exact (read_eq_begun_iff.mp hread).of_append (by simp)
      | broken => exact absurd hread hp
    rw [read_eq_begun_iff.mpr begun] at hr
    cases hr

theorem not_begun_of_read_broken {b : UInt8} (hr : read (carry ++ [b]) = .broken) :
    ¬ Begun (carry ++ b :: bs) := by
  intro h
  have hle := (prefix_of_read_broken hr h.read_ne_broken (List.prefix_refl _)).length_le
  simp only [List.length_append, List.length_cons] at hle
  omega

/-- A byte that is no beginning is broken by itself. -/
theorem broken_byte {b : UInt8} (hr : read ([] ++ [b]) = .broken) : Broken [b] bs where
  not_char c h := by
    have hnil := prefix_of_read_broken hr (read_encode_ne_broken c) h
    exact String.utf8EncodeChar_ne_nil (List.prefix_nil.mp hnil)
  begun_or_one := .inr rfl
  longest p hp h := by
    have hnil := prefix_of_read_broken hr hp.read_ne_broken h
    exact absurd (List.prefix_nil.mp hnil) hp.1

/-- A character that was broken off is broken as far as it had come. -/
theorem broken_carry {b : UInt8} (hc : Begun carry) (hr : read (carry ++ [b]) = .broken) :
    Broken carry (b :: bs) where
  not_char c h := by
    obtain ⟨q, rfl⟩ := prefix_of_read_broken hr (read_encode_ne_broken c) h
    exact not_begun_encode c (hc.of_append String.utf8EncodeChar_ne_nil)
  begun_or_one := .inl hc
  longest p hp h := (prefix_of_read_broken hr hp.read_ne_broken h).length_le

namespace Decoder

theorem splits_lead {b : UInt8}
    (ih : ∀ d : Decoder, d.carry = [] ∨ Begun d.carry →
      Splits (d.carry ++ bs) (d.push bs).1 (d.push bs).2.carry) :
    Splits (b :: bs) ((lead b).1 ++ ((lead b).2.push bs).1) ((lead b).2.push bs).2.carry := by
  unfold lead
  cases hr : read [b] with
  | char c =>
    have hc := read_eq_char_iff.mp hr
    have h := Splits.char c (ih ⟨[]⟩ (.inl rfl))
    rw [hc] at h
    exact h
  | begun => exact ih ⟨[b]⟩ (.inr (read_eq_begun_iff.mp hr))
  | broken =>
    have hr' : read ([] ++ [b]) = .broken := hr
    exact .broken (broken_byte hr') (not_begun_of_read_broken hr') (ih ⟨[]⟩ (.inl rfl))

theorem splits_push (d : Decoder) (hd : d.carry = [] ∨ Begun d.carry) (bs : Bytes) :
    Splits (d.carry ++ bs) (d.push bs).1 (d.push bs).2.carry := by
  induction bs generalizing d with
  | nil =>
    rw [List.append_nil]
    exact .rest hd
  | cons b bs ih =>
    obtain ⟨carry⟩ := d
    cases carry with
    | nil => exact splits_lead ih
    | cons a rest =>
      have hc : Begun (a :: rest) := hd.resolve_left (by simp)
      simp only [push, feed]
      cases hr : read (a :: rest ++ [b]) with
      | char c =>
        have h := Splits.char c (ih ⟨[]⟩ (.inl rfl))
        rw [read_eq_char_iff.mp hr] at h
        simpa using h
      | begun =>
        have h := ih ⟨a :: rest ++ [b]⟩ (.inr (read_eq_begun_iff.mp hr))
        simpa using h
      | broken =>
        exact .broken (broken_carry hc hr) (not_begun_of_read_broken hr)
          (splits_lead ih)

/-- Pushes pieces one after another. -/
def pushAll (d : Decoder) : List Bytes → List Char × Decoder
  | [] => ([], d)
  | chunk :: chunks =>
    ((d.push chunk).1 ++ ((d.push chunk).2.pushAll chunks).1, ((d.push chunk).2.pushAll chunks).2)

theorem pushAll_eq_push (d : Decoder) (chunks : List Bytes) :
    d.pushAll chunks = d.push chunks.flatten := by
  induction chunks generalizing d with
  | nil => rfl
  | cons chunk chunks ih => rw [pushAll, ih, List.flatten_cons, push_append]

theorem pending_push_le (bs : Bytes) : (push {} bs).2.pending ≤ 3 :=
  (splits_push {} (.inl rfl) bs).carry_le

/-- From every state two pieces decode as the one they make, and so do any number of them. A new
decoder shows the lossy text of all that was pushed, up to one replacement character for a
character that has begun. -/
theorem push_pieces :
    (∀ (d : Decoder) (a b : Bytes),
      d.push (a ++ b) = ((d.push a).1 ++ ((d.push a).2.push b).1, ((d.push a).2.push b).2)) ∧
    (∀ (d : Decoder) (chunks : List Bytes), d.pushAll chunks = d.push chunks.flatten) ∧
    ∀ (chunks : List Bytes) (cs : List Char),
      Lossy chunks.flatten cs ↔
        cs = (pushAll {} chunks).1 ++
          if 0 < (pushAll {} chunks).2.pending then [replacement] else [] := by
  refine ⟨push_append, pushAll_eq_push, fun chunks cs => ?_⟩
  have h := (splits_push {} (.inl rfl) chunks.flatten).lossy
  rw [← pushAll_eq_push] at h
  have hp (d : Decoder) : (0 < d.pending) = ¬ d.carry = [] := by
    rw [pending, List.length_pos_iff]
  simp only [hp, ite_not]
  constructor
  · intro h'
    exact h'.unique h
  · rintro rfl
    exact h

/-- A surrogate is broken at its first byte, and a character that has begun is held back. -/
example : (pushAll {} [[0x68, 0xC3], [0xA9, 0xED], [0xA0, 0x80, 0xE3, 0x81]]) =
    (['h', 'é', replacement, replacement, replacement], ⟨[0xE3, 0x81]⟩) := by decide

end Decoder

end WebTerminal.Utf8
