import WebTerminal.Keyboard.Input
import WebTerminal.Proofs.Text.Decoding

/-! # Typed text read back

The frames of inputs, however they are cut, decode to the characters that the inputs stand for. A
byte that begins a character never stands later in one. So what came before them breaks off at the
first of them, and damages none. -/

namespace WebTerminal

/-- The character that an input stands for. -/
def Input.character : Input → Char
  | char c => c
  | interrupt => '\x03'
  | endOfInput => '\x04'
  | backspace => '\x7F'
  | tab => '\t'
  | submit => '\n'

theorem Input.bytes_frame (i : Input) : i.frame.bytes = String.utf8EncodeChar i.character := by
  cases i with
  | char c => exact List.append_nil _
  | _ => decide

namespace Utf8

variable {carry bs p q : Bytes} {cs : List Char} {b : UInt8} {c : Char}

theorem encode_cons (c : Char) (cs : List Char) :
    encode (c :: cs) = String.utf8EncodeChar c ++ encode cs := List.flatMap_cons

theorem flatMap_bytes_frame (is : List Input) :
    is.flatMap (·.frame.bytes) = encode (is.map Input.character) := by
  simp only [encode, List.flatMap_map, Input.bytes_frame]

/-! ## Bytes that begin a character -/

/-- After the first byte of a character only trailing bytes go on with it. -/
theorem isTrailing_of_read (hp : p ≠ []) (h : read (p ++ [b]) ≠ .broken) :
    isTrailing b = true := by
  have second {a : UInt8} (hs : isSecond a b = true) : isTrailing b = true :=
    isTrailing_iff.mpr (isSecond_iff.mp hs).1
  generalize hq : p ++ [b] = q at h
  cases hr : read q with
  | broken => exact absurd hr h
  | char c =>
    obtain ⟨n, hs, -⟩ := read_eq_char_iff_spells.mp hr
    cases hs with
    | one => exact absurd (List.append_inj' (show p ++ [b] = [] ++ [_] from hq) rfl).1 hp
    | @two a _ _ _ hb =>
      obtain ⟨-, ⟨⟩⟩ := List.append_inj' (show p ++ [b] = [a] ++ [_] from hq) rfl
      exact second hb
    | @three a a' _ _ _ _ hc =>
      obtain ⟨-, ⟨⟩⟩ := List.append_inj' (show p ++ [b] = [a, a'] ++ [_] from hq) rfl
      exact hc
    | @four a a' a'' _ _ _ _ _ hd =>
      obtain ⟨-, ⟨⟩⟩ := List.append_inj' (show p ++ [b] = [a, a', a''] ++ [_] from hq) rfl
      exact hd
  | begun =>
    cases read_eq_begun_iff_opens.mp hr with
    | one => exact absurd (List.append_inj' (show p ++ [b] = [] ++ [_] from hq) rfl).1 hp
    | @two a _ _ _ hb =>
      obtain ⟨-, ⟨⟩⟩ := List.append_inj' (show p ++ [b] = [a] ++ [_] from hq) rfl
      exact second hb
    | @three a a' _ _ _ _ hc =>
      obtain ⟨-, ⟨⟩⟩ := List.append_inj' (show p ++ [b] = [a, a'] ++ [_] from hq) rfl
      exact hc

theorem not_isTrailing_of_encode (h : String.utf8EncodeChar c = b :: q) : isTrailing b = false := by
  have hs := spells_encode c
  rw [h] at hs
  generalize c.toNat = n at hs
  refine Bool.eq_false_iff.mpr fun ht => ?_
  rw [isTrailing_iff] at ht
  cases hs <;> omega

/-- The first byte of a character breaks off one that has begun. -/
theorem read_lead (hp : p ≠ []) (h : String.utf8EncodeChar c = b :: q) :
    read (p ++ [b]) = .broken := by
  refine Decidable.byContradiction fun hr => ?_
  have ht := isTrailing_of_read hp hr
  rw [not_isTrailing_of_encode h] at ht
  cases ht

namespace Decoder

variable {d : Decoder}

theorem feed_char (h : read (d.carry ++ [b]) = .char c) : d.feed b = ([c], {}) := by
  obtain ⟨carry⟩ := d
  cases carry with
  | nil => simp only [feed, lead, show read [b] = .char c from h]
  | cons a rest => simp only [feed, show read (a :: rest ++ [b]) = .char c from h]

theorem feed_begun (h : read (d.carry ++ [b]) = .begun) : d.feed b = ([], ⟨d.carry ++ [b]⟩) := by
  obtain ⟨carry⟩ := d
  cases carry with
  | nil => simp only [feed, lead, show read [b] = .begun from h, List.nil_append]
  | cons a rest => simp only [feed, show read (a :: rest ++ [b]) = .begun from h]

theorem feed_broken (hd : d.carry ≠ []) (h : read (d.carry ++ [b]) = .broken) :
    d.feed b = (replacement :: (feed {} b).1, (feed {} b).2) := by
  obtain ⟨carry⟩ := d
  cases carry with
  | nil => exact absurd rfl hd
  | cons a rest => simp only [feed, show read (a :: rest ++ [b]) = .broken from h]

/-- A character is shown when the rest of it has come. -/
theorem push_rest (h : p ++ q = String.utf8EncodeChar c) (hq : q ≠ []) :
    push ⟨p⟩ q = ([c], {}) := by
  induction q generalizing p with
  | nil => exact absurd rfl hq
  | cons b q ih =>
    cases q with
    | nil =>
      have hr : read (p ++ [b]) = .char c := read_eq_char_iff.mpr h.symm
      rw [push, feed_char hr]
      rfl
    | cons b' q =>
      have hc : p ++ [b] ++ b' :: q = String.utf8EncodeChar c := by
        rw [List.append_assoc]
        exact h
      have hb : Begun (p ++ [b]) := ⟨by simp, c, b' :: q, by simp, hc.symm⟩
      rw [push, feed_begun (d := ⟨p⟩) (read_eq_begun_iff.mpr hb), ih hc (by simp)]
      rfl

theorem push_char (c : Char) : push {} (String.utf8EncodeChar c) = ([c], {}) :=
  push_rest (List.nil_append _) String.utf8EncodeChar_ne_nil

/-- Whatever a decoder carries, the next character is read whole. -/
theorem push_char_after (d : Decoder) (c : Char) : d.push (String.utf8EncodeChar c) =
    ((if d.carry = [] then [] else [replacement]) ++ [c], {}) := by
  by_cases hd : d.carry = []
  · obtain rfl : d = {} := congrArg mk hd
    exact push_char c
  · have hc := push_char c
    cases he : String.utf8EncodeChar c with
    | nil => exact absurd he String.utf8EncodeChar_ne_nil
    | cons b q =>
      rw [he, push, Prod.mk.injEq] at hc
      rw [push, feed_broken hd (read_lead hd he), if_neg hd, List.cons_append, hc.1, hc.2]
      rfl

theorem push_encode (cs : List Char) : push {} (encode cs) = (cs, {}) := by
  induction cs with
  | nil => rfl
  | cons c cs ih => rw [encode_cons, push_append, push_char, ih, List.singleton_append]

theorem push_encode_after (d : Decoder) (hcs : cs ≠ []) : d.push (encode cs) =
    ((if d.carry = [] then [] else [replacement]) ++ cs, {}) := by
  cases cs with
  | nil => exact absurd rfl hcs
  | cons c cs =>
    rw [encode_cons, push_append, push_char_after, push_encode, List.append_assoc,
      List.singleton_append]

/-- However the frames of inputs are cut, a new decoder shows the characters of the inputs and has
nothing left. Where other bytes came first, it shows the lossy text of those and then the same
characters. -/
theorem pushAll_typed (is : List Input) (chunks : List Bytes) :
    (chunks.flatten = is.flatMap (·.frame.bytes) →
      (pushAll {} chunks).1 = is.map Input.character ∧ (pushAll {} chunks).2.pending = 0) ∧
    ∀ garbage : Bytes, is ≠ [] → chunks.flatten = garbage ++ is.flatMap (·.frame.bytes) →
      ∃ cs, Lossy garbage cs ∧ (pushAll {} chunks).1 = cs ++ is.map Input.character ∧
        (pushAll {} chunks).2.pending = 0 := by
  rw [flatMap_bytes_frame, pushAll_eq_push]
  constructor
  · intro h
    rw [h, push_encode]
    exact ⟨rfl, rfl⟩
  · intro garbage his h
    have hs := splits_push {} (.inl rfl) garbage
    refine ⟨_, hs.lossy, ?_⟩
    rw [h, push_append, push_encode_after _ (by simpa using his), List.append_assoc]
    exact ⟨rfl, rfl⟩

/-- A character cut off before its end is broken, and the one after it is whole wherever it is
cut. -/
theorem pushAll_typed_cut_off :
    let is : List Input := [.char '日', .interrupt]
    let chunks : List Bytes := [[0xE3], [0x81, 0xE6], [], [0x97], [0xA5, 0x03]]
    is ≠ [] ∧ chunks.flatten = [0xE3, 0x81] ++ is.flatMap (·.frame.bytes) ∧
      ∃ cs, Lossy [0xE3, 0x81] cs ∧ (pushAll {} chunks).1 = cs ++ ['日', '\x03'] ∧
        (pushAll {} chunks).2.pending = 0 :=
  have hne : [Input.char '日', .interrupt] ≠ [] := by decide
  have hc : [[0xE3], [0x81, 0xE6], [], [0x97], [0xA5, 0x03]].flatten =
      [0xE3, 0x81] ++ [Input.char '日', .interrupt].flatMap (·.frame.bytes) := by decide
  ⟨hne, hc, (pushAll_typed _ _).2 _ hne hc⟩

end Decoder

end Utf8

end WebTerminal
