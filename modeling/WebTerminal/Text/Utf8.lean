/-! # UTF-8

Characters as bytes, and bytes back to characters one at a time. The decoder carries the bytes of
a character that has begun and shows a replacement character for bytes that belong to none, so a
text may be cut anywhere and pushed in pieces. -/

namespace WebTerminal

abbrev Bytes := List UInt8

namespace Utf8

def encode (cs : List Char) : Bytes := cs.flatMap String.utf8EncodeChar

/-- The number of bytes of the encoded text. -/
def size : List Char → Nat
  | [] => 0
  | c :: cs => c.utf8Size + size cs

theorem size_append (a b : List Char) : size (a ++ b) = size a + size b := by
  induction a with
  | nil => simp [size]
  | cons c a ih => simp [size, ih, Nat.add_assoc]

/-- Shown for bytes that are part of no character. -/
def replacement : Char := '\uFFFD'

/-- Bytes after the first lie between `80` and `BF`. -/
def isTrailing (b : UInt8) : Bool := 0x80 ≤ b && b ≤ 0xBF

/-- The second byte is limited further after four of the leading bytes, which keeps out overlong
forms, surrogates and what lies past the last character. -/
def isSecond (lead b : UInt8) : Bool :=
  isTrailing b &&
    (lead != 0xE0 || 0xA0 ≤ b) && (lead != 0xED || b ≤ 0x9F) &&
    (lead != 0xF0 || 0x90 ≤ b) && (lead != 0xF4 || b ≤ 0x8F)

/-- Whether bytes are one whole character, the beginning of one, or neither. -/
inductive Reading where
  | char (c : Char)
  | begun
  | broken
  deriving DecidableEq, Repr

def payload (b : UInt8) : Nat := b.toNat % 64

def read : Bytes → Reading
  | [a] =>
    if a < 0x80 then .char (Char.ofNat a.toNat)
    else if 0xC2 ≤ a ∧ a ≤ 0xF4 then .begun
    else .broken
  | [a, b] =>
    if 0xC2 ≤ a ∧ a ≤ 0xF4 ∧ isSecond a b then
      if a < 0xE0 then .char (Char.ofNat (a.toNat % 32 * 64 + payload b)) else .begun
    else .broken
  | [a, b, c] =>
    if 0xE0 ≤ a ∧ a ≤ 0xF4 ∧ isSecond a b ∧ isTrailing c then
      if a < 0xF0 then .char (Char.ofNat ((a.toNat % 16 * 64 + payload b) * 64 + payload c))
      else .begun
    else .broken
  | [a, b, c, d] =>
    if 0xF0 ≤ a ∧ a ≤ 0xF4 ∧ isSecond a b ∧ isTrailing c ∧ isTrailing d then
      .char (Char.ofNat (((a.toNat % 8 * 64 + payload b) * 64 + payload c) * 64 + payload d))
    else .broken
  | _ => .broken

/-- The bytes of a character that has begun and is not complete. -/
structure Decoder where
  carry : Bytes := []
  deriving DecidableEq, Repr

namespace Decoder

/-- A byte where a character may begin. -/
def lead (b : UInt8) : List Char × Decoder :=
  match read [b] with
  | .char c => ([c], ⟨[]⟩)
  | .begun => ([], ⟨[b]⟩)
  | .broken => ([replacement], ⟨[]⟩)

/-- A byte that cannot continue the character begun breaks it off and is read anew. -/
def feed (d : Decoder) (b : UInt8) : List Char × Decoder :=
  match d.carry with
  | [] => lead b
  | a :: rest =>
    match read (a :: rest ++ [b]) with
    | .char c => ([c], ⟨[]⟩)
    | .begun => ([], ⟨a :: rest ++ [b]⟩)
    | .broken => (replacement :: (lead b).1, (lead b).2)

def push (d : Decoder) : Bytes → List Char × Decoder
  | [] => ([], d)
  | b :: rest => ((d.feed b).1 ++ ((d.feed b).2.push rest).1, ((d.feed b).2.push rest).2)

def pending (d : Decoder) : Nat := d.carry.length

def reset (_ : Decoder) : Decoder := {}

theorem push_nil (d : Decoder) : d.push [] = ([], d) := rfl

theorem push_append (d : Decoder) (a b : Bytes) :
    d.push (a ++ b) = ((d.push a).1 ++ ((d.push a).2.push b).1, ((d.push a).2.push b).2) := by
  induction a generalizing d with
  | nil => rfl
  | cons x a ih => simp [push, ih]

end Decoder

end Utf8

end WebTerminal
