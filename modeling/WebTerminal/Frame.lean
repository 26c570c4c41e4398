import WebTerminal.Text.Utf8

/-! # Frames

A frame is the unit of sending: it goes out whole or not at all. -/

namespace WebTerminal

structure Frame where
  bytes : Bytes
  deriving DecidableEq, Repr

namespace Frame

def byte (b : UInt8) : Frame := ⟨[b]⟩

def ofChar (c : Char) : Frame := ⟨Utf8.encode [c]⟩

def line (text : List Char) (terminator : UInt8) : Frame := ⟨Utf8.encode text ++ [terminator]⟩

def size (f : Frame) : Nat := f.bytes.length

def isEmpty (f : Frame) : Bool := f.bytes.isEmpty

/-- The frame as a text, when its bytes are one. -/
def text? (f : Frame) : Option String := String.fromUTF8? ⟨f.bytes.toArray⟩

end Frame

end WebTerminal
