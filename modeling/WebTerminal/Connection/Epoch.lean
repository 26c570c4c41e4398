/-! # Epochs

Every attempt to connect has an epoch, one after that of the attempt before it. What happens to a
socket or a timer is reported with the epoch it was made in. -/

namespace WebTerminal

structure Epoch where
  raw : UInt64
  deriving DecidableEq, Repr

namespace Epoch

def initial : Epoch := ⟨0⟩

/-- The last epoch is followed by the initial one. -/
def next (e : Epoch) : Epoch := ⟨e.raw + 1⟩

instance : LT Epoch := ⟨fun a b => a.raw < b.raw⟩

instance (a b : Epoch) : Decidable (a < b) := inferInstanceAs (Decidable (a.raw < b.raw))

end Epoch

end WebTerminal
