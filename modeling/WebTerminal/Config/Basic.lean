import WebTerminal.Session.Basic

/-! # Configuration

What a page can choose about its terminal, the checks on it, and what follows from it. -/

namespace WebTerminal

structure Config where
  mode : Mode := .raw
  maxAttempts : UInt32 := RetryPolicy.standard.maxAttempts
  baseDelay : UInt32 := RetryPolicy.standard.baseDelay
  maxDelay : UInt32 := RetryPolicy.standard.maxDelay
  multiplier : UInt32 := RetryPolicy.standard.multiplier
  endpointPath : String := "/ws"
  maxLineLength : UInt64 := UInt64.ofNat Line.defaultLimit
  deriving DecidableEq, Repr

namespace Config

inductive Invalid where
  | delay
  | multiplier
  | endpointPath (path : String)
  | lineLength
  deriving DecidableEq, Repr

/-- The first check that fails. -/
def invalid? (c : Config) : Option Invalid :=
  if c.baseDelay = 0 ∨ c.maxDelay < c.baseDelay then some .delay
  else if c.multiplier = 0 then some .multiplier
  else if c.endpointPath.toList.head? ≠ some '/' then some (.endpointPath c.endpointPath)
  else if c.maxLineLength = 0 then some .lineLength
  else none

def policy (c : Config) : RetryPolicy :=
  { maxAttempts := c.maxAttempts, baseDelay := c.baseDelay, maxDelay := c.maxDelay,
    multiplier := c.multiplier }

/-- The address of an endpoint on a page's host, secure when the page is. -/
def endpointUrl (protocol host path : String) : String :=
  (if protocol = "https:" then "wss:" else "ws:") ++ "//" ++ host ++ path

def url (c : Config) (protocol host : String) : String := endpointUrl protocol host c.endpointPath

def session (c : Config) (url : String) : Session :=
  { connection := { url, policy := c.policy }
    encoder := .ofMode c.mode c.maxLineLength.toNat }

end Config

end WebTerminal
