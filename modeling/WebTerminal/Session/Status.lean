/-! # Status and style

What the user is told about the connection, and how lines on the screen are set off. -/

namespace WebTerminal.Session

inductive Style where
  | output
  | info
  | error
  deriving DecidableEq, Repr

namespace Style

/-- Output from the shell has no class of its own. -/
def class? : Style → Option String
  | output => none
  | info => some "info"
  | error => some "error"

/-- What the terminal's own lines begin with. -/
def tag : Style → String
  | output => ""
  | info => "[INFO] "
  | error => "[ERROR] "

end Style

inductive Status where
  | connected
  | disconnected
  | reconnecting (attempt maxAttempts : UInt32)
  | exhausted (maxAttempts : UInt32)
  deriving DecidableEq, Repr

namespace Status

def isConnected : Status → Bool
  | connected => true
  | _ => false

def phase : Status → String
  | connected => "Connected"
  | disconnected => "Disconnected"
  | reconnecting attempt maxAttempts => s!"Reconnecting ({attempt}/{maxAttempts})"
  | exhausted _ => "Disconnected (reload to retry)"

end Status

end WebTerminal.Session
