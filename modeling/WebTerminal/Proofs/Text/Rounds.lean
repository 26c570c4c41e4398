import WebTerminal.Proofs.Text.Typing

/-! # Decoding in rounds

Bytes that are all at hand can be decoded in rounds: each round shows the text up to the next
stretch that belongs to no character, puts a replacement character for it and goes on after it.
There are as many rounds as there are such stretches, and one more, and together they show what a
decoder shows byte by byte. No byte is lost, and none is carried on but the beginning of a
character. -/

namespace WebTerminal.Utf8

/-- What ends the text at the beginning of bytes: the bytes do, a character that has begun and is
not complete, or a number of bytes that belong to no character. -/
inductive Stop where
  | finished
  | begun
  | broken (length : Nat)
  deriving DecidableEq, Repr

structure Scan where
  text : List Char
  stop : Stop
  deriving DecidableEq, Repr

/-- Reads the characters that follow each other in bytes, after the beginning of one. -/
def scan (carry : Bytes) : Bytes → Scan
  | [] => ⟨[], if carry = [] then .finished else .begun⟩
  | b :: bs =>
    match read (carry ++ [b]) with
    | .char c => { scan [] bs with text := c :: (scan [] bs).text }
    | .begun => scan (carry ++ [b]) bs
    | .broken => ⟨[], .broken (max carry.length 1)⟩

/-- What a round shows, with what it carries on if it is the last one and else with the bytes that
are left for the next. -/
inductive Round where
  | last (shown : List Char) (carry : Bytes)
  | more (shown : List Char) (rest : Bytes)
  deriving DecidableEq, Repr

def round (bs : Bytes) : Round :=
  match scan [] bs with
  | ⟨text, .finished⟩ => .last text []
  | ⟨text, .begun⟩ => .last text (bs.drop (size text))
  | ⟨text, .broken n⟩ => .more (text ++ [replacement]) (bs.drop (size text + n))

/-- Bytes take this many rounds, which show this text and carry these bytes on. -/
inductive Rounds : Nat → Bytes → List Char → Bytes → Prop where
  | last {bs carry : Bytes} {cs : List Char} (h : round bs = .last cs carry) : Rounds 1 bs cs carry
  | more {n : Nat} {bs rest carry : Bytes} {cs cs' : List Char} (h : round bs = .more cs rest)
      (hr : Rounds n rest cs' carry) : Rounds (n + 1) bs (cs ++ cs') carry

/-- A stretch of bytes for which one character is shown. -/
inductive Piece where
  | char (c : Char)
  | broken (bad : Bytes)
  deriving DecidableEq, Repr

namespace Piece

def bytes : Piece → Bytes
  | char c => String.utf8EncodeChar c
  | broken bad => bad

def shown : Piece → Char
  | char c => c
  | broken _ => replacement

def isBroken : Piece → Bool
  | char _ => false
  | broken _ => true

end Piece

variable {bs bad carry p q : Bytes} {cs : List Char} {c : Char} {n : Nat}

/-! ## Scans -/

theorem scan_of_begun (h : q = [] ∨ Begun (p ++ q)) : scan p (q ++ bs) = scan (p ++ q) bs := by
  induction q generalizing p with
  | nil => rw [List.append_nil, List.nil_append]
  | cons b q ih =>
    have whole : Begun (p ++ [b] ++ q) := by simpa using h
    have hb : read (p ++ [b]) = .begun := read_eq_begun_iff.mpr (whole.of_append (by simp))
    rw [List.cons_append, scan, hb]
    dsimp only
    rw [ih (.inr whole), List.append_assoc, List.singleton_append]

theorem scan_char (c : Char) (bs : Bytes) : scan [] (String.utf8EncodeChar c ++ bs) =
    { scan [] bs with text := c :: (scan [] bs).text } := by
  rcases (String.utf8EncodeChar c).eq_nil_or_concat with h | ⟨p, b, h⟩
  · exact absurd h String.utf8EncodeChar_ne_nil
  · rw [List.concat_eq_append] at h
    have begun : p = [] ∨ Begun ([] ++ p) := by
      by_cases hp : p = []
      · exact .inl hp
      · exact .inr ⟨hp, c, [b], by simp, h⟩
    have whole : read ([] ++ p ++ [b]) = .char c := read_eq_char_iff.mpr h
    rw [h, List.append_assoc, scan_of_begun begun, List.singleton_append, scan, whole]

/-- A scan goes up to a stretch that belongs to no character. -/
theorem scan_broken (hb : Broken bad bs) (hn : ¬ Begun (bad ++ bs)) :
    scan [] (bad ++ bs) = ⟨[], .broken bad.length⟩ := by
  have not_char (r : Bytes) (hr : r <+: bad ++ bs) (c : Char) : read r ≠ .char c := by
    intro h
    rw [← read_eq_char_iff.mp h] at hr
    exact hb.not_char c hr
  -- what has begun is broken off by the byte after it, any other byte belongs to none by itself
  by_cases hbad : Begun bad
  · obtain ⟨b, bs, rfl⟩ : ∃ b bs', bs = b :: bs' := by
      cases bs with
      | nil => exact absurd (by simpa using hbad) hn
      | cons b bs => exact ⟨b, bs, rfl⟩
    have onward : bad ++ [b] <+: bad ++ b :: bs := ⟨bs, by simp⟩
    have hr : read (bad ++ [b]) = .broken := by
      cases hr : read (bad ++ [b]) with
      | char c => exact absurd hr (not_char _ onward c)
      | begun =>
        have hle := hb.longest _ (read_eq_begun_iff.mp hr) onward
        simp only [List.length_append, List.length_singleton] at hle
        omega
      | broken => rfl
    have begun : Begun ([] ++ bad) := hbad
    rw [scan_of_begun (.inr begun), List.nil_append, scan, hr,
      Nat.max_eq_left (List.length_pos_iff.mpr hbad.1)]
  · obtain ⟨b, rfl⟩ := List.length_eq_one_iff.mp (hb.begun_or_one.resolve_left hbad)
    have hr : read ([] ++ [b]) = .broken := by
      cases hr : read ([] ++ [b]) with
      | char c => exact absurd hr (not_char _ ⟨bs, rfl⟩ c)
      | begun => exact absurd (read_eq_begun_iff.mp hr) hbad
      | broken => rfl
    rw [List.singleton_append, scan, hr]
    rfl

/-! ## Rounds -/

/-- The round with one more character before it. -/
def Round.cons (c : Char) : Round → Round
  | last cs carry => last (c :: cs) carry
  | more cs rest => more (c :: cs) rest

theorem round_char (c : Char) (bs : Bytes) :
    round (String.utf8EncodeChar c ++ bs) = (round bs).cons c := by
  have drop (k : Nat) : (String.utf8EncodeChar c ++ bs).drop (c.utf8Size + k) = bs.drop k := by
    rw [← String.length_utf8EncodeChar, List.drop_length_add_append]
  unfold round
  rw [scan_char]
  rcases scan [] bs with ⟨text, stop⟩
  cases stop with
  | finished => rfl
  | begun => simp only [size, drop, Round.cons]
  | broken n => simp only [size, drop, Round.cons, Nat.add_assoc, List.cons_append]

theorem round_rest (h : carry = [] ∨ Begun carry) : round carry = .last [] carry := by
  rcases h with rfl | h
  · rfl
  · have begun : Begun ([] ++ carry) := h
    have hs : scan [] (carry ++ []) = scan carry [] := scan_of_begun (.inr begun)
    rw [List.append_nil] at hs
    rw [round, hs, scan, if_neg h.1]
    rfl

theorem round_broken (hb : Broken bad bs) (hn : ¬ Begun (bad ++ bs)) :
    round (bad ++ bs) = .more [replacement] bs := by
  rw [round, scan_broken hb hn]
  simp [size]

example : round [0x61, 0xE3, 0x81, 0x62] = .more ['a', replacement] [0x62] := by decide

theorem Rounds.char (c : Char) (h : Rounds n bs cs carry) :
    Rounds n (String.utf8EncodeChar c ++ bs) (c :: cs) carry := by
  cases h with
  | last h => exact .last (by rw [round_char, h]; rfl)
  | @more _ _ rest _ cs _ h hr =>
    have hc : round (String.utf8EncodeChar c ++ bs) = .more (c :: cs) rest := by
      rw [round_char, h]
      rfl
    exact .more hc hr

/-! ## The pieces of bytes -/

theorem Splits.begun (h : Splits bs cs carry) : carry = [] ∨ Begun carry := by
  induction h with
  | rest h => exact h
  | char _ _ ih | broken _ _ _ ih => exact ih

theorem Broken.length_le_three (h : Broken bad bs) : bad.length ≤ 3 := by
  rcases h.begun_or_one with hb | hb
  · exact hb.length_le
  · omega

/-- What is shown is shown piece by piece, and each piece that is broken takes a round. -/
theorem Splits.exists_pieces (h : Splits bs cs carry) : ∃ ps : List Piece,
    ps.flatMap Piece.bytes ++ carry = bs ∧ ps.map Piece.shown = cs ∧
      Rounds (ps.countP Piece.isBroken + 1) bs cs carry ∧
      ∀ before bad after, ps = before ++ .broken bad :: after →
        Broken bad (after.flatMap Piece.bytes ++ carry) ∧
          ¬ Begun (bad ++ (after.flatMap Piece.bytes ++ carry)) := by
  induction h with
  | rest h => exact ⟨[], rfl, rfl, .last (round_rest h), by simp⟩
  | char c _ ih =>
    obtain ⟨ps, rfl, rfl, hr, hb⟩ := ih
    refine ⟨.char c :: ps, by simp [Piece.bytes], rfl, ?_, ?_⟩
    · rw [List.countP_cons_of_neg (by simp [Piece.isBroken])]
      exact hr.char c
    · rintro (_ | ⟨_, before⟩) bad after hps
      · cases hps
      · exact hb before bad after (List.cons.inj hps).2
  | @broken bad _ _ _ hbad hn _ ih =>
    obtain ⟨ps, rfl, rfl, hr, hb⟩ := ih
    refine ⟨.broken bad :: ps, by simp [Piece.bytes], rfl, ?_, ?_⟩
    · rw [List.countP_cons_of_pos rfl]
      exact .more (round_broken hbad hn) hr
    · rintro (_ | ⟨_, before⟩) bad after hps
      · obtain ⟨⟨rfl⟩, rfl⟩ := List.cons.inj hps
        exact ⟨hbad, hn⟩
      · exact hb before bad after (List.cons.inj hps).2

namespace Decoder

/-- A decoder that can be come by. -/
inductive Reachable : Decoder → Prop where
  | new : Reachable {}
  | push {d : Decoder} (h : Reachable d) (chunk : Bytes) : Reachable (d.push chunk).2
  | reset {d : Decoder} (h : Reachable d) : Reachable d.reset

variable {d : Decoder}

theorem Reachable.begun (h : d.Reachable) : d.carry = [] ∨ Begun d.carry := by
  induction h with
  | new | reset => exact .inl rfl
  | push _ chunk ih => exact (splits_push _ ih chunk).begun

/-- What a decoder carries and what it is given fall, in order, into characters, stretches of which
no bytes that follow make one, and what the decoder carries then. It shows one character for each,
as decoding in rounds does, which comes to an end. What is carried becomes one character with some
bytes after it, and stays as it is where no bytes come. -/
theorem push_accounts (h : d.Reachable) (chunk : Bytes) :
    (∃ ps : List Piece,
      ps.flatMap Piece.bytes ++ (d.push chunk).2.carry = d.carry ++ chunk ∧
      ps.map Piece.shown = (d.push chunk).1 ∧
      (∀ before bad after, ps = before ++ .broken bad :: after →
        1 ≤ bad.length ∧ bad.length ≤ 3 ∧
          Broken bad (after.flatMap Piece.bytes ++ (d.push chunk).2.carry) ∧
          ¬ Begun (bad ++ (after.flatMap Piece.bytes ++ (d.push chunk).2.carry))) ∧
      Rounds (ps.countP Piece.isBroken + 1) (d.carry ++ chunk) (d.push chunk).1
        (d.push chunk).2.carry) ∧
    (d.push chunk).2.pending ≤ 3 ∧
    ((d.push chunk).2.carry = [] ∨ (d.push chunk).2.carry ≠ [] ∧ ∃ c rest, rest ≠ [] ∧
      String.utf8EncodeChar c = (d.push chunk).2.carry ++ rest ∧
      (d.push chunk).2.push rest = ([c], {})) ∧
    d.push [] = ([], d) := by
  have hs := splits_push d h.begun chunk
  refine ⟨?_, hs.carry_le, ?_, push_nil d⟩
  · obtain ⟨ps, hbytes, hshown, hr, hb⟩ := hs.exists_pieces
    refine ⟨ps, hbytes, hshown, ?_, hr⟩
    intro before bad after hps
    obtain ⟨hbad, hn⟩ := hb before bad after hps
    exact ⟨List.length_pos_iff.mpr hbad.ne_nil, hbad.length_le_three, hbad, hn⟩
  · rcases hs.begun with hnil | ⟨hne, c, rest, hrest, hc⟩
    · exact .inl hnil
    · exact .inr ⟨hne, c, rest, hrest, hc, push_rest hc.symm hrest⟩

/-- Two characters are cut off, a byte belongs to none, and a character has begun. -/
theorem push_accounts_cut_off :
    let d := (push {} [0xE3, 0x81]).2
    let chunk : Bytes := [0xE6, 0x97, 0xFF, 0xF0, 0x9F]
    d.Reachable ∧ (d.push chunk).1 = [replacement, replacement, replacement] ∧
      (∃ ps : List Piece, ps.flatMap Piece.bytes ++ [0xF0, 0x9F] = [0xE3, 0x81] ++ chunk ∧
        Rounds (ps.countP Piece.isBroken + 1) ([0xE3, 0x81] ++ chunk)
          [replacement, replacement, replacement] [0xF0, 0x9F]) ∧
      ∃ c rest, String.utf8EncodeChar c = [0xF0, 0x9F] ++ rest ∧
        (d.push chunk).2.push rest = ([c], {}) := by
  intro d chunk
  have h : d.Reachable := .push .new _
  have hcarry : d.carry = [0xE3, 0x81] := by decide
  have hpush : d.push chunk = ([replacement, replacement, replacement], ⟨[0xF0, 0x9F]⟩) := by decide
  obtain ⟨⟨ps, hbytes, -, -, hr⟩, -, hc, -⟩ := push_accounts h chunk
  rw [hpush] at hbytes hr hc ⊢
  rw [hcarry] at hbytes hr
  obtain ⟨-, c, rest, -, he, hrest⟩ := hc.resolve_left (by decide)
  exact ⟨h, rfl, ⟨ps, hbytes, hr⟩, c, rest, he, hrest⟩

end Decoder

end WebTerminal.Utf8
