import WebTerminal.Connection.Saturating

/-! # Retry policy

How often a lost connection is tried again, and after how long. The delay grows by a factor with
each attempt up to a bound, and attempts stop at a limit until the policy is reset. -/

namespace WebTerminal

/-- Delays are in milliseconds. -/
structure RetryPolicy where
  maxAttempts : UInt32 := 5
  baseDelay : UInt32 := 2000
  maxDelay : UInt32 := 30000
  multiplier : UInt32 := 2
  attempt : UInt32 := 0
  deriving DecidableEq, Repr

namespace RetryPolicy

def standard : RetryPolicy := {}

/-- The delay before an attempt, counted from one. -/
def delay (p : RetryPolicy) (attempt : UInt32) : UInt32 :=
  let factor := Saturating.pow p.multiplier.toUInt64 (attempt.toNat - 1)
  (min (Saturating.mul p.baseDelay.toUInt64 factor) p.maxDelay.toUInt64).toUInt32

def isExhausted (p : RetryPolicy) : Bool := p.maxAttempts ≤ p.attempt

def advance (p : RetryPolicy) : RetryPolicy := { p with attempt := p.attempt + 1 }

/-- The next attempt's delay with the policy after it, unless the policy is exhausted. -/
def next? (p : RetryPolicy) : Option (UInt32 × RetryPolicy) :=
  if p.isExhausted then none else some (p.delay (p.attempt + 1), p.advance)

def reset (p : RetryPolicy) : RetryPolicy := { p with attempt := 0 }

end RetryPolicy

end WebTerminal
