import Mathlib.Data.List.Forall2

/-! # The grammar of JSON

What a JSON text looks like, apart from any reader: a token relates what it means to its characters,
and a list or an object relates its parts to the whole. White space may stand between tokens. -/

namespace WebTerminal.Json

def Blanks (b : List Char) : Prop := ∀ c ∈ b, c = ' ' ∨ c = '\n' ∨ c = '\t' ∨ c = '\r'

instance (b : List Char) : Decidable (Blanks b) := List.decidableBAll _ b

/-! ## Texts -/

/-- A hexadecimal digit, in either case. -/
def HexDigit (c : Char) (n : Nat) : Prop := n < 16 ∧ (c = n.digitChar ∨ c = n.digitChar.toUpper)

/-- Four hexadecimal digits. -/
inductive Unit16 : List Char → Nat → Prop where
  | intro {a b c d : Char} {i j k l : Nat} : HexDigit a i → HexDigit b j → HexDigit c k →
      HexDigit d l → Unit16 [a, b, c, d] (((i * 16 + j) * 16 + k) * 16 + l)

/-- The letters of the short escapes, with what they stand for. -/
def shortEscapes : List (Char × Char) :=
  [('"', '"'), ('\\', '\\'), ('/', '/'), ('b', '\x08'), ('f', '\x0c'), ('n', '\n'), ('r', '\r'),
    ('t', '\t')]

def Plain (c : Char) : Prop := 0x20 ≤ c.toNat ∧ c ≠ '"' ∧ c ≠ '\\'

instance (c : Char) : Decidable (Plain c) := inferInstanceAs (Decidable (_ ∧ _))

instance (cs : List Char) : Decidable (∀ c ∈ cs, Plain c) := List.decidableBAll _ cs

/-- The spellings of a character: itself, a short escape, its code, or a pair of surrogates. -/
inductive Spelled : Char → List Char → Prop where
  | plain {c : Char} : Plain c → Spelled c [c]
  | short {e c : Char} : (e, c) ∈ shortEscapes → Spelled c ['\\', e]
  | code {c : Char} {w : List Char} : Unit16 w c.toNat → Spelled c ('\\' :: 'u' :: w)
  | pair {c : Char} {high low : List Char} : 0x10000 ≤ c.toNat →
      Unit16 high (0xD800 + (c.toNat - 0x10000) / 0x400) →
      Unit16 low (0xDC00 + (c.toNat - 0x10000) % 0x400) →
      Spelled c ('\\' :: 'u' :: (high ++ '\\' :: 'u' :: low))

/-- The quoted text of a string. -/
def Literal (cs v : List Char) : Prop :=
  ∃ ws, List.Forall₂ Spelled cs ws ∧ v = '"' :: (ws.flatten ++ ['"'])

/-- What may stand between quotes. An escaped code may be half of a pair of surrogates, so not every
quoted text is that of a string. -/
inductive Mark : List Char → Prop where
  | plain {c : Char} : Plain c → Mark [c]
  | short {e c : Char} : (e, c) ∈ shortEscapes → Mark ['\\', e]
  | code {w : List Char} {n : Nat} : Unit16 w n → Mark ('\\' :: 'u' :: w)

def Quoted (v : List Char) : Prop :=
  ∃ ws : List (List Char), (∀ w ∈ ws, Mark w) ∧ v = '"' :: (ws.flatten ++ ['"'])

/-! ## Numbers -/

def Digits (ds : List Char) : Prop := ds ≠ [] ∧ ∀ d ∈ ds, d.isDigit

inductive Fraction : List Char → Prop where
  | none : Fraction []
  | places {ds : List Char} : Digits ds → Fraction ('.' :: ds)

inductive Exponent : List Char → Prop where
  | none : Exponent []
  | power {e : Char} {sign ds : List Char} : e ∈ ['e', 'E'] → sign ∈ [[], ['+'], ['-']] →
      Digits ds → Exponent (e :: (sign ++ ds))

/-- A number may have a sign, has no leading zeros, and may have places and an exponent. -/
inductive Numeral : List Char → Prop where
  | intro {sign places power : List Char} {n : Nat} : sign ∈ [[], ['-']] → Fraction places →
      Exponent power → Numeral (sign ++ (Nat.toDigits 10 n ++ (places ++ power)))

/-! ## Lists and objects -/

/-- What stands before an element: white space, with a comma unless it is the first. -/
inductive Gap : Bool → List Char → Prop where
  | first {b : List Char} : Blanks b → Gap true b
  | next {a b : List Char} : Blanks a → Blanks b → Gap false (a ++ ',' :: b)

/-- The items of a list, up to its closing bracket. -/
inductive Items : Bool → List (List Char) → List Char → Prop where
  | nil {first : Bool} {b : List Char} : Blanks b → Items first [] b
  | cons {first : Bool} {g v s : List Char} {vs : List (List Char)} : Gap first g →
      Items false vs s → Items first (v :: vs) (g ++ (v ++ s))

/-- The members of an object, up to its closing bracket. A member is the text of its key with that
of its value. -/
inductive Members : Bool → List (List Char × List Char) → List Char → Prop where
  | nil {first : Bool} {b : List Char} : Blanks b → Members first [] b
  | cons {first : Bool} {g k a b v s : List Char} {ms : List (List Char × List Char)} :
      Gap first g → Blanks a → Blanks b → Members false ms s →
      Members first ((k, v) :: ms) (g ++ (k ++ (a ++ ':' :: (b ++ (v ++ s)))))

inductive Value : List Char → Prop where
  | null : Value ['n', 'u', 'l', 'l']
  | yes : Value ['t', 'r', 'u', 'e']
  | no : Value ['f', 'a', 'l', 's', 'e']
  | number {v : List Char} : Numeral v → Value v
  | text {v : List Char} : Quoted v → Value v
  | list {vs : List (List Char)} {s : List Char} : Items true vs s → (∀ v ∈ vs, Value v) →
      Value ('[' :: (s ++ [']']))
  | object {ms : List (List Char × List Char)} {s : List Char} : Members true ms s →
      (∀ m ∈ ms, Quoted m.1) → (∀ m ∈ ms, Value m.2) → Value ('\x7b' :: (s ++ ['\x7d']))

/-- A member with a string for its key. -/
def Keyed (key : String) (m : List Char × List Char) : Prop := Literal key.toList m.1 ∧ Value m.2

/-- A text that is an object and nothing else. -/
inductive Object : List (List Char × List Char) → List Char → Prop where
  | intro {a b s : List Char} {ms : List (List Char × List Char)} : Blanks a → Members true ms s →
      Blanks b → Object ms (a ++ '\x7b' :: (s ++ '\x7d' :: b))

end WebTerminal.Json
