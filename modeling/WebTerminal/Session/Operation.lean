import WebTerminal.Session.Console

/-! # Operations on a session

Everything that a user, a socket or a timer can do to a session, as data. -/

namespace WebTerminal.Session

inductive Operation where
  | start
  | close
  | reconnect
  | shutdown
  | clear
  | press (k : Keystroke)
  | input (i : Input)
  | append (text : String) (style : Style)
  | signal (e : Epoch) (s : Connection.Signal)
  | retryDue (e : Epoch)
  deriving DecidableEq, Repr

inductive Answer where
  | action (a : KeyAction)
  | outcome (o : Outcome)
  | none
  deriving DecidableEq, Repr

namespace Console

variable {ω : Type} [Network ω] [Screen ω]

def perform (o : Operation) (c : Console ω) : Answer × Console ω :=
  match o with
  | .start => (.none, c.start)
  | .close => (.none, c.close)
  | .reconnect => (.none, c.reconnect)
  | .shutdown => (.none, c.shutdown)
  | .clear => (.none, c.clear)
  | .press k => (.action (c.press k).1, (c.press k).2)
  | .input i => (.outcome (c.input i).1, (c.input i).2)
  | .append text style => (.none, c.append text style)
  | .signal e s => (.none, c.signal e s)
  | .retryDue e => (.none, c.retryDue e)

/-- Performs the operations in order and keeps every answer. -/
def run : List Operation → Console ω → List Answer × Console ω
  | [], c => ([], c)
  | o :: os, c => ((c.perform o).1 :: (run os (c.perform o).2).1, (run os (c.perform o).2).2)

end Console

end WebTerminal.Session
