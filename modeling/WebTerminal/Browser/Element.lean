/-! # Elements of the page

The elements that a terminal page consists of. One that has left the page keeps what it shows and
can still be used by whoever holds it. -/

namespace WebTerminal.Browser

inductive ElementId where
  | terminal
  | output
  | statusIndicator
  | statusText
  | clearButton
  | inputLine
  deriving DecidableEq, Repr

def ElementId.name : ElementId → String
  | terminal => "terminal"
  | output => "output"
  | statusIndicator => "status-indicator"
  | statusText => "status-text"
  | clearButton => "clear-btn"
  | inputLine => "input-line"

/-- A piece of output. -/
structure Span where
  class? : Option String
  text : String
  deriving DecidableEq, Repr

/-- An element on the page can be found by its id. Only an HTML element takes the focus. -/
structure Element where
  onPage : Bool := true
  isHtml : Bool := true
  classes : List String := []
  text : String := ""
  children : List Span := []
  deriving DecidableEq, Repr

namespace Element

def addClass (c : String) (e : Element) : Element :=
  if c ∈ e.classes then e else { e with classes := e.classes ++ [c] }

def removeClass (c : String) (e : Element) : Element :=
  { e with classes := e.classes.filter (· ≠ c) }

end Element

end WebTerminal.Browser
