import WebTerminal.Keyboard.Input

/-! # Keystrokes

A keystroke is a key name with the modifiers held. It is an input, belongs to the browser, or means
nothing to a terminal. Names are looked at before modifiers, and control before command. -/

namespace WebTerminal

/-- The modifier keys that are held; `command` is the one that pages call the meta key. -/
structure Modifiers where
  control : Bool := false
  alt : Bool := false
  command : Bool := false
  deriving DecidableEq, Repr

structure Keystroke where
  key : String
  modifiers : Modifiers := {}
  deriving DecidableEq, Repr

inductive KeyAction where
  | input (i : Input)
  | passThrough
  | ignore
  deriving DecidableEq, Repr

def KeyAction.isInput : KeyAction → Bool
  | input _ => true
  | _ => false

namespace Keystroke

/-- Reloading the page and the developer tools stay with the browser. -/
def isReserved (k : Keystroke) : Bool :=
  k.key = "F5" || k.key = "F12" || (k.modifiers.control && (k.key = "r" || k.key = "R"))

def named? : String → Option Input
  | "Enter" => some .submit
  | "Backspace" => some .backspace
  | "Tab" => some .tab
  | _ => none

/-- With control, only the letters of interrupt and end of input mean anything. -/
def chord (c : Char) : KeyAction :=
  if c = 'c' ∨ c = 'C' then .input .interrupt
  else if c = 'd' ∨ c = 'D' then .input .endOfInput
  else .ignore

def typed (c : Char) (m : Modifiers) : KeyAction :=
  if m.control then chord c else if m.command then .passThrough else .input (.char c)

def action (k : Keystroke) : KeyAction :=
  if k.isReserved then .passThrough
  else match named? k.key with
    | some i => .input i
    | none =>
      match k.key.toList with
      | [c] => typed c k.modifiers
      | _ => .ignore

end Keystroke

end WebTerminal
