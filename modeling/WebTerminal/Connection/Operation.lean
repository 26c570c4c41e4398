import WebTerminal.Connection.Link

/-! # Operations on a connection

Everything that can be done with a connection, as data, with what each operation answers. -/

namespace WebTerminal.Connection

inductive Operation where
  | connect
  | reconnect
  | close
  | shutdown
  | send (f : Frame)
  | signal (e : Epoch) (s : Signal)
  | retryDue (e : Epoch)
  deriving DecidableEq, Repr

inductive Answer where
  | events (es : List Event)
  | delivery (d : Delivery)
  | none
  deriving DecidableEq, Repr

def Answer.events? : Answer → List Event
  | events es => es
  | _ => []

namespace Link

variable {ω : Type} [Network ω]

def perform (o : Operation) (l : Link ω) : Answer × Link ω :=
  match o with
  | .connect => (.events l.connect.1, l.connect.2)
  | .reconnect => (.events l.reconnect.1, l.reconnect.2)
  | .close => (.events l.close.1, l.close.2)
  | .shutdown => (.none, l.shutdown)
  | .send f => (.delivery (l.send f).1, (l.send f).2)
  | .signal e s => (.events (l.signal e s).1, (l.signal e s).2)
  | .retryDue e => (.events (l.retryDue e).1, (l.retryDue e).2)

/-- Performs the operations in order and keeps every answer. -/
def run : List Operation → Link ω → List Answer × Link ω
  | [], l => ([], l)
  | o :: os, l => ((l.perform o).1 :: (run os (l.perform o).2).1, (run os (l.perform o).2).2)

end Link

end WebTerminal.Connection
