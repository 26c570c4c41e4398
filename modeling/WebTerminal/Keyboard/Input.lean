import WebTerminal.Frame

/-! # Input

What a user can tell a remote shell, key by key, and the bytes that say it. -/

namespace WebTerminal

inductive Input where
  | char (c : Char)
  | interrupt
  | endOfInput
  | backspace
  | tab
  | submit
  deriving DecidableEq, Repr

namespace Input

def newline : UInt8 := 0x0A

/-- The frame of one input sent by itself: a character in UTF-8, or one control byte. -/
def frame : Input → Frame
  | char c => .ofChar c
  | interrupt => .byte 0x03
  | endOfInput => .byte 0x04
  | backspace => .byte 0x7F
  | tab => .byte 0x09
  | submit => .byte newline

end Input

end WebTerminal
