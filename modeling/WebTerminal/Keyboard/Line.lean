import WebTerminal.Text.Utf8

/-! # The line being typed

A line holds at most `limit` bytes. It is edited by whole characters at its end. -/

namespace WebTerminal

structure Line where
  limit : Nat
  chars : List Char := []
  deriving DecidableEq, Repr

namespace Line

def defaultLimit : Nat := 512

def text (l : Line) : String := String.ofList l.chars

def size (l : Line) : Nat := Utf8.size l.chars

def isEmpty (l : Line) : Bool := l.chars.isEmpty

def accepts (l : Line) (c : Char) : Bool := l.size + c.utf8Size ≤ l.limit

def clear (l : Line) : Line := { l with chars := [] }

/-- Adds a character that still fits; any other leaves the line as it is. -/
def push (l : Line) (c : Char) : Line :=
  if l.accepts c then { l with chars := l.chars ++ [c] } else l

def last? (l : Line) : Option Char := l.chars.getLast?

def backspace (l : Line) : Line := { l with chars := l.chars.dropLast }

end Line

end WebTerminal
