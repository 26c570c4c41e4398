/-! # Thrown values

What a page throws: an error with a message, a text, or a value that is neither. -/

namespace WebTerminal.Browser

inductive Thrown where
  | error (message : String)
  | text (s : String)
  | other (shown : String)
  deriving DecidableEq, Repr

namespace Thrown

/-- The value as a page shows it, with its kind. -/
def inspect : Thrown → String
  | error message => "JsValue(Error: " ++ message ++ ")"
  | text s => "JsValue(\"" ++ s ++ "\")"
  | other shown => "JsValue(" ++ shown ++ ")"

/-- The value as a user should read it. -/
def message : Thrown → String
  | error message => message
  | text s => s
  | v@(other _) => v.inspect

end Thrown

end WebTerminal.Browser
