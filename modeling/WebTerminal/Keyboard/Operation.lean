import WebTerminal.Keyboard.Encoder

/-! # Operations on an encoder

Everything that can be asked of an encoder, as data. -/

namespace WebTerminal.Encoder

inductive Operation where
  | encode (i : Input)
  | clearLine
  deriving DecidableEq, Repr

def perform (o : Operation) (e : Encoder) : Encoded × Encoder :=
  match o with
  | .encode i => e.encode i
  | .clearLine => (.held, e.clearLine)

/-- Performs the operations in order and keeps what became of each. -/
def run : List Operation → Encoder → List Encoded × Encoder
  | [], e => ([], e)
  | o :: os, e => ((e.perform o).1 :: (run os (e.perform o).2).1, (run os (e.perform o).2).2)

end WebTerminal.Encoder
