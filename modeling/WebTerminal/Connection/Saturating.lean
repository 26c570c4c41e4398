/-! # Saturating arithmetic

Products and powers of 64-bit words that stop at the largest word. -/

namespace WebTerminal.Saturating

def largest : UInt64 := 0xFFFFFFFFFFFFFFFF

def mul (a b : UInt64) : UInt64 :=
  if a.toNat * b.toNat ≤ largest.toNat then a * b else largest

/-- Squares the base and halves the exponent: the work is bounded by the digits of the exponent. -/
def pow (a : UInt64) (n : Nat) : UInt64 :=
  if n = 0 then 1
  else if n % 2 = 0 then pow (mul a a) (n / 2)
  else mul a (pow (mul a a) (n / 2))
termination_by n

end WebTerminal.Saturating
