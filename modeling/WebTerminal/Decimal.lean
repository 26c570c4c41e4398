/-! # Decimal text of floats

The fewest decimal digits that read back as the float, the nearest of those when there are several.
A float is `m · 2 ^ q`; what reads back as it lies between the midpoints to its neighbours, ends
included when `m` is even. -/

namespace WebTerminal.Decimal

/-- A positive float `m · 2 ^ q`. At the `edge` of a binade the neighbour below is half as far. -/
structure Binary where
  m : Nat
  q : Int
  edge : Bool
  deriving DecidableEq, Repr

/-- The significand of a float has one bit more than are stored. -/
def hiddenBit : Nat := 0x10000000000000

def signBit : Nat := 0x8000000000000000

/-- Reads the bits of a positive finite float. -/
def Binary.ofBits (bits : Nat) : Binary :=
  let fraction := bits % hiddenBit
  let exponent := bits / hiddenBit % 0x800
  if exponent = 0 then ⟨fraction, -1074, false⟩
  else ⟨hiddenBit + fraction, Int.ofNat exponent - 1075, fraction = 0 && 1 < exponent⟩

/-- The decimal number `n · 10 ^ k`. -/
structure Digits where
  n : Nat
  k : Int
  deriving DecidableEq, Repr

namespace Binary

/-- `a · 2 ^ (q - 2)` as a whole number, in the unit that `gridScaled` has too. -/
def scaled (q k : Int) (a : Nat) : Nat := a * Nat.pow 2 (q - 2).toNat * Nat.pow 10 (-k).toNat

/-- `b · 10 ^ k` as a whole number. -/
def gridScaled (q k : Int) (b : Nat) : Nat := b * Nat.pow 2 (2 - q).toNat * Nat.pow 10 k.toNat

/-- Whether `n · 10 ^ k` reads back as the float. -/
def readsBack (x : Binary) (k : Int) (n : Nat) : Bool :=
  let low := scaled x.q k (4 * x.m - if x.edge then 1 else 2)
  let high := scaled x.q k (4 * x.m + 2)
  let point := gridScaled x.q k n
  if x.m % 2 = 0 then low ≤ point && point ≤ high else low < point && point < high

/-- The point of the grid `10 ^ k` that reads back as the float and is nearest to it. Of two points
as near, the even one. -/
def onGrid? (x : Binary) (k : Int) : Option Nat :=
  let value := scaled x.q k (4 * x.m)
  let unit := gridScaled x.q k 1
  let below := value / unit
  let rest := value % unit
  let (near, far) :=
    if 2 * rest < unit ∨ 2 * rest = unit ∧ below % 2 = 0 then (below, below + 1)
    else (below + 1, below)
  [near, far].find? fun n => 0 < n && x.readsBack k n

/-- The widest grid on which the float has a point. -/
def shortest (x : Binary) : Digits :=
  let grids := (List.range 634).map fun i => 309 - Int.ofNat i
  (grids.findSome? fun k => (x.onGrid? k).map (⟨·, k⟩)).getD ⟨x.m, x.q⟩

end Binary

/-- Plain notation from `10 ^ (-5)` up to `10 ^ 16`, with at least one place after the point;
otherwise the exponent follows with its sign. -/
def Digits.text (d : Digits) : String :=
  let digits := (toString d.n).toList
  let count : Int := digits.length
  let exponent := d.k + count - 1
  if -5 ≤ exponent ∧ exponent < 0 then
    "0." ++ "".pushn '0' (-exponent - 1).toNat ++ String.ofList digits
  else if 0 ≤ exponent ∧ exponent < 16 then
    if 0 ≤ d.k then String.ofList digits ++ "".pushn '0' d.k.toNat ++ ".0"
    else
      String.ofList (digits.take (exponent + 1).toNat) ++ "." ++
        String.ofList (digits.drop (exponent + 1).toNat)
  else
    let places := if digits.length = 1 then "" else "." ++ String.ofList (digits.drop 1)
    String.ofList (digits.take 1) ++ places ++ "e" ++ (if exponent < 0 then "-" else "+") ++
      toString exponent.natAbs

/-- The text of a finite float, with the sign of a negative zero. -/
def text (x : Float) : String :=
  let bits := x.toBits.toNat
  let magnitude := bits % signBit
  (if bits = magnitude then "" else "-") ++
    if magnitude = 0 then "0.0" else (Binary.ofBits magnitude).shortest.text

end WebTerminal.Decimal
