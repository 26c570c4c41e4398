import WebTerminal.Decimal
import WebTerminal.Text.Quoted
import WebTerminal.Text.Utf8

/-! # Faults in a JSON text

Why a text cannot be read as the value that is wanted, and where. A fault counts the bytes that were
left when it was found; its line and column follow from the whole text. -/

namespace WebTerminal.Json

inductive Number where
  | integer (n : Int)
  | float (x : Float)
  deriving Repr

/-- What stands where something else is wanted. -/
inductive Found where
  | null
  | boolean (b : Bool)
  | number (n : Number)
  | text (s : String)
  | list
  | object
  deriving Repr

/-- What a value is wanted to be, as messages name it. -/
inductive Wanted where
  | config
  | null
  | text
  | word32
  | word64
  deriving DecidableEq, Repr

inductive Cause where
  | endInValue
  | endInText
  | endInList
  | endInObject
  | expectedColon
  | expectedCommaInList
  | expectedCommaInObject
  | expectedWord
  | expectedValue
  | keyNotText
  | trailingComma
  | trailingCharacters
  | controlCharacter
  | invalidEscape
  | endOfSurrogate
  | loneSurrogate
  | invalidNumber
  | numberOutOfRange
  | wrongType (found : Found) (wanted : Wanted)
  | outOfRange (n : Int) (wanted : Wanted)
  | unknownKey (key : String) (known : List String)
  | duplicateKey (key : String)
  | unknownChoice (choice : String) (known : List String)
  deriving Repr

def Found.describe : Found → String
  | null => "null"
  | boolean b => s!"boolean `{b}`"
  | number (.integer n) => s!"integer `{n}`"
  | number (.float x) => "floating point `" ++ Decimal.text x ++ "`"
  | text s => "string " ++ Text.quoted s
  | list => "sequence"
  | object => "map"

def Wanted.describe : Wanted → String
  | config => "struct ClientConfig"
  | null => "unit"
  | text => "a string"
  | word32 => "u32"
  | word64 => "usize"

/-- The names in back quotes, two of them joined by "or" and more listed after "one of". -/
def describeKnown (known : List String) : String :=
  match known.map fun name => "`" ++ name ++ "`" with
  | [a, b] => a ++ " or " ++ b
  | names => "one of " ++ ", ".intercalate names

def Cause.message : Cause → String
  | endInValue => "EOF while parsing a value"
  | endInText => "EOF while parsing a string"
  | endInList => "EOF while parsing a list"
  | endInObject => "EOF while parsing an object"
  | expectedColon => "expected `:`"
  | expectedCommaInList => "expected `,` or `]`"
  | expectedCommaInObject => "expected `,` or `\x7d`"
  | expectedWord => "expected ident"
  | expectedValue => "expected value"
  | keyNotText => "key must be a string"
  | trailingComma => "trailing comma"
  | trailingCharacters => "trailing characters"
  | controlCharacter => "control character (\\u0000-\\u001F) found while parsing a string"
  | invalidEscape => "invalid escape"
  | endOfSurrogate => "unexpected end of hex escape"
  | loneSurrogate => "lone leading surrogate in hex escape"
  | invalidNumber => "invalid number"
  | numberOutOfRange => "number out of range"
  | wrongType found wanted =>
    "invalid type: " ++ found.describe ++ ", expected " ++ wanted.describe
  | outOfRange n wanted => s!"invalid value: integer `{n}`, expected " ++ wanted.describe
  | unknownKey key known =>
    "unknown field `" ++ key ++ "`, expected " ++ describeKnown known
  | duplicateKey key => "duplicate field `" ++ key ++ "`"
  | unknownChoice choice known =>
    "unknown variant `" ++ choice ++ "`, expected " ++ describeKnown known

structure Fault where
  cause : Cause
  left : Nat
  deriving Repr

/-- A fault at the front of what is left. -/
def failAt {α : Type} (cause : Cause) (s : List Char) : Except Fault α :=
  .error ⟨cause, Utf8.size s⟩

/-- A fault past the next byte of what is left, which counts as seen. -/
def failPast {α : Type} (cause : Cause) (s : List Char) : Except Fault α :=
  .error ⟨cause, Utf8.size s - 1⟩

/-- Lines are counted from one and columns in bytes from the start of the line. -/
structure Position where
  line : Nat
  column : Nat
  deriving DecidableEq, Repr

def Position.after : Bytes → Position → Position
  | [], p => p
  | b :: rest, p => after rest (if b = 0x0A then ⟨p.line + 1, 0⟩ else ⟨p.line, p.column + 1⟩)

def Fault.position (f : Fault) (text : List Char) : Position :=
  let bytes := Utf8.encode text
  Position.after (bytes.take (bytes.length - f.left)) ⟨1, 0⟩

def Fault.message (f : Fault) (text : List Char) : String :=
  let p := f.position text
  f.cause.message ++ s!" at line {p.line} column {p.column}"

end WebTerminal.Json
