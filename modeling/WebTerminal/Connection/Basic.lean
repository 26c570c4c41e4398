import WebTerminal.Connection.Event
import WebTerminal.Connection.RetryPolicy
import WebTerminal.Connection.Statistics

/-! # Connections

What a connection remembers: its state and epoch, the socket it holds, the retry it waits for and
how far its retry policy has come. -/

namespace WebTerminal

/-- A retry to come, with the epoch whose connection was lost. -/
structure Retry where
  epoch : Epoch
  timer : TimerId
  deriving DecidableEq, Repr

/-- `exhaustionReported` keeps exhaustion from being reported again before the next reset. -/
structure Connection where
  url : String
  policy : RetryPolicy
  state : Connection.State := .idle
  epoch : Epoch := .initial
  socket? : Option SocketId := none
  retry? : Option Retry := none
  exhaustionReported : Bool := false
  counters : Connection.Counters := {}
  deriving DecidableEq, Repr

namespace Connection

def isOpen (c : Connection) : Bool := c.state = .opened

def statistics (c : Connection) : Statistics :=
  { epoch := c.epoch, attempt := c.policy.attempt, maxAttempts := c.policy.maxAttempts,
    counters := c.counters }

def resetPolicy (c : Connection) : Connection :=
  { c with policy := c.policy.reset, exhaustionReported := false }

/-- Connecting from here starts the count of attempts anew. -/
def startsAnew (c : Connection) : Bool :=
  c.policy.isExhausted || c.state = .closed .user

/-- Whether a timer of this epoch is the one waited for. -/
def awaits (c : Connection) (e : Epoch) : Bool :=
  c.state = .closed .network && c.retry?.any (·.epoch = e)

def beginAttempt (c : Connection) : Connection :=
  { c with epoch := c.epoch.next, state := .connecting, counters := c.counters.countStarted }

end Connection

end WebTerminal
