import WebTerminal.Connection.Epoch
import WebTerminal.Text.Utf8

/-! # States and events of a connection

What a connection can be doing, what is reported to it, and what it reports in turn. -/

namespace WebTerminal

/-- Only a connection that the network closed is tried again. -/
inductive CloseReason where
  | network
  | user
  deriving DecidableEq, Repr

inductive TransportError where
  | construction (reason : String)
  | send (reason : String)
  deriving DecidableEq, Repr

def TransportError.message : TransportError → String
  | construction reason => "Failed to open transport: " ++ reason
  | send reason => "Failed to send frame: " ++ reason

structure SocketId where
  index : Nat
  deriving DecidableEq, Repr

structure TimerId where
  index : Nat
  deriving DecidableEq, Repr

/-- A timer that runs a retry for the epoch it was set in. -/
structure Timer where
  id : TimerId
  delay : UInt32
  epoch : Epoch
  deriving DecidableEq, Repr

namespace Connection

inductive State where
  | idle
  | connecting
  | opened
  | closed (reason : CloseReason)
  deriving DecidableEq, Repr

/-- An attempt is under way or has succeeded. -/
def State.isLive : State → Bool
  | connecting | opened => true
  | idle | closed _ => false

/-- What a socket reports. -/
inductive Signal where
  | opened
  | message (chunk : Bytes)
  | error (info : String)
  | closed
  deriving DecidableEq, Repr

inductive Event where
  | connecting (url : String) (epoch : Epoch)
  | refused (error : TransportError)
  | connected
  | received (chunk : Bytes)
  | failed (info : String)
  | closed (reason : CloseReason)
  | retryScheduled (attempt maxAttempts delay : UInt32)
  | exhausted (maxAttempts : UInt32)
  deriving DecidableEq, Repr

/-- What became of a frame. A frame that is dropped or fails is not kept. -/
inductive Delivery where
  | sent
  | dropped
  | failed (error : TransportError)
  deriving DecidableEq, Repr

end Connection

end WebTerminal
