import WebTerminal.Keyboard.Input
import WebTerminal.Keyboard.Line

/-! # Encoding inputs

In raw mode every input is sent at once. In line mode characters gather in a line, which is sent as
one frame when it is submitted; an interrupt discards the line, end of input and tab leave it. -/

namespace WebTerminal

inductive Mode where
  | raw
  | line
  deriving DecidableEq, Repr

structure Encoder where
  mode : Mode
  line : Line
  deriving DecidableEq, Repr

/-- What became of an input: a frame to send, a change of the line, or a character without room. -/
inductive Encoded where
  | frame (f : Frame)
  | held
  | refused (c : Char)
  deriving DecidableEq, Repr

def Encoded.frame? : Encoded → Option Frame
  | frame f => some f
  | _ => none

namespace Encoder

def ofMode (mode : Mode) (limit : Nat) : Encoder := ⟨mode, { limit }⟩

def pendingLine (e : Encoder) : String := e.line.text

def clearLine (e : Encoder) : Encoder := { e with line := e.line.clear }

def encodeLine (l : Line) : Input → Encoded × Line
  | .char c => (if l.accepts c then .held else .refused c, l.push c)
  | .backspace => (.held, l.backspace)
  | .interrupt => (.frame Input.interrupt.frame, l.clear)
  | .submit => (.frame (.line l.chars Input.newline), l.clear)
  | .endOfInput => (.frame Input.endOfInput.frame, l)
  | .tab => (.frame Input.tab.frame, l)

def encode (e : Encoder) (i : Input) : Encoded × Encoder :=
  match e.mode with
  | .raw => (.frame i.frame, e)
  | .line => ((encodeLine e.line i).1, { e with line := (encodeLine e.line i).2 })

end Encoder

end WebTerminal
