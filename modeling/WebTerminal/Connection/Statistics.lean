import WebTerminal.Connection.Epoch

/-! # Statistics of a connection

Counts over the life of a connection. They are kept through resets. -/

namespace WebTerminal.Connection

structure Counters where
  connectsStarted : UInt64 := 0
  connectionsOpened : UInt64 := 0
  framesSent : UInt64 := 0
  framesDropped : UInt64 := 0
  bytesSent : UInt64 := 0
  bytesReceived : UInt64 := 0
  deriving DecidableEq, Repr

namespace Counters

def countStarted (c : Counters) : Counters := { c with connectsStarted := c.connectsStarted + 1 }

def countOpened (c : Counters) : Counters :=
  { c with connectionsOpened := c.connectionsOpened + 1 }

def countSent (bytes : Nat) (c : Counters) : Counters :=
  { c with framesSent := c.framesSent + 1, bytesSent := c.bytesSent + UInt64.ofNat bytes }

def countDropped (c : Counters) : Counters := { c with framesDropped := c.framesDropped + 1 }

def countReceived (bytes : Nat) (c : Counters) : Counters :=
  { c with bytesReceived := c.bytesReceived + UInt64.ofNat bytes }

end Counters

structure Statistics where
  epoch : Epoch
  attempt : UInt32
  maxAttempts : UInt32
  counters : Counters
  deriving DecidableEq, Repr

namespace Statistics

def fields (s : Statistics) : List (String × Nat) := [
  ("epoch", s.epoch.raw.toNat),
  ("attempt", s.attempt.toNat),
  ("maxAttempts", s.maxAttempts.toNat),
  ("connectsStarted", s.counters.connectsStarted.toNat),
  ("connectionsOpened", s.counters.connectionsOpened.toNat),
  ("framesSent", s.counters.framesSent.toNat),
  ("framesDropped", s.counters.framesDropped.toNat),
  ("bytesSent", s.counters.bytesSent.toNat),
  ("bytesReceived", s.counters.bytesReceived.toNat)]

/-- The statistics as a JSON object without blanks. -/
def toJson (s : Statistics) : String :=
  "\x7b" ++ ",".intercalate (s.fields.map fun (name, n) => "\"" ++ name ++ "\":" ++ toString n) ++
    "\x7d"

end Statistics

end WebTerminal.Connection
