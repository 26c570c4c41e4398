import WebTerminal.Config.Basic
import WebTerminal.Json.Reader

/-! # Reading a configuration

A configuration is a JSON object of named fields, each at most once and in any order, or a list of
the fields in their own order. Fields left out keep their default. -/

namespace WebTerminal.Config

open Json

inductive Field where
  | mode
  | maxAttempts
  | baseDelay
  | maxDelay
  | multiplier
  | endpointPath
  | maxLineLength
  deriving DecidableEq, Repr

namespace Field

def all : List Field :=
  [mode, maxAttempts, baseDelay, maxDelay, multiplier, endpointPath, maxLineLength]

def name : Field → String
  | mode => "mode"
  | maxAttempts => "maxAttempts"
  | baseDelay => "baseDelayMs"
  | maxDelay => "maxDelayMs"
  | multiplier => "backoffMultiplier"
  | endpointPath => "endpointPath"
  | maxLineLength => "maxLineLen"

def ofName? (s : String) : Option Field := all.find? (·.name = s)

end Field

def modeNames : List String := ["raw", "line"]

def readChoice (choice : String) (s : List Char) : Except Fault Mode :=
  match choice with
  | "raw" => .ok .raw
  | "line" => .ok .line
  | _ => failAt (.unknownChoice choice modeNames) s

def readNull (s : List Char) : Except Fault (List Char) := do
  let s ← toValue s
  match s with
  | 'n' :: s => readWord ['u', 'l', 'l'] s
  | s => refuse .null s

/-- A mode is its name, or an object with that name as its only key and nothing for its value. -/
def readMode (s : List Char) : Except Fault (Mode × List Char) := do
  let s ← toValue s
  match s with
  | '"' :: s =>
    let (choice, s) ← readText s
    return (← readChoice (String.ofList choice) s, s)
  | '\x7b' :: s =>
    match skipBlanks s with
    | [] => failPast .endInObject []
    | '\x7d' :: s => failPast .expectedValue ('\x7d' :: s)
    | '"' :: s =>
      let (choice, s) ← readText s
      let mode ← readChoice (String.ofList choice) s
      let s ← readNull (← readColon s)
      match skipBlanks s with
      | '\x7d' :: s => .ok (mode, s)
      | [] => failAt .endInObject []
      | s => failAt .expectedValue s
    | s => failPast .keyNotText s
  | s => failPast .expectedValue s

def readPath (s : List Char) : Except Fault (String × List Char) := do
  let s ← toValue s
  match s with
  | '"' :: s =>
    let (path, s) ← readText s
    return (String.ofList path, s)
  | s => refuse .text s

def readWord32 (s : List Char) : Except Fault (UInt32 × List Char) := do
  let (n, s) ← readWhole .word32 0xFFFFFFFF s
  return (UInt32.ofNat n, s)

def readWord64 (s : List Char) : Except Fault (UInt64 × List Char) := do
  let (n, s) ← readWhole .word64 0xFFFFFFFFFFFFFFFF s
  return (UInt64.ofNat n, s)

/-- Reads the value of a field into a configuration. -/
def readField (f : Field) (c : Config) (s : List Char) : Except Fault (Config × List Char) := do
  match f with
  | .mode => let (v, s) ← readMode s; return ({ c with mode := v }, s)
  | .maxAttempts => let (v, s) ← readWord32 s; return ({ c with maxAttempts := v }, s)
  | .baseDelay => let (v, s) ← readWord32 s; return ({ c with baseDelay := v }, s)
  | .maxDelay => let (v, s) ← readWord32 s; return ({ c with maxDelay := v }, s)
  | .multiplier => let (v, s) ← readWord32 s; return ({ c with multiplier := v }, s)
  | .endpointPath => let (v, s) ← readPath s; return ({ c with endpointPath := v }, s)
  | .maxLineLength => let (v, s) ← readWord64 s; return ({ c with maxLineLength := v }, s)

/-! ## Objects -/

/-- What a list or an object goes on with: another element, or its closing bracket. -/
inductive Turn where
  | next (s : List Char)
  | stop (s : List Char)
  deriving DecidableEq, Repr

/-- The front of the next key of an object, after its comma if it is not the first. -/
def toKey (first : Bool) (s : List Char) : Except Fault Turn :=
  match skipBlanks s with
  | [] => failPast .endInObject []
  | '\x7d' :: s => .ok (.stop s)
  | c :: s =>
    if first then .ok (.next (c :: s))
    else if c = ',' then
      match skipBlanks s with
      | [] => failPast .endInValue []
      | '\x7d' :: s => failPast .trailingComma ('\x7d' :: s)
      | s => .ok (.next s)
    else failPast .expectedCommaInObject (c :: s)

def readKey (s : List Char) : Except Fault (String × List Char) :=
  match s with
  | '"' :: s => (readText s).map fun (key, s) => (String.ofList key, s)
  | s => failPast .keyNotText s

/-- A key that is refused is reported after the closing bracket, if that comes next. -/
def refuseKey {α : Type} (cause : Cause) (s : List Char) : Except Fault α :=
  match skipBlanks s with
  | '\x7d' :: s => failAt cause s
  | s => failAt cause s

/-- The field of a key that has been read. It must not have been there before. -/
def readName (missing : List Field) (key : String) (s : List Char) :
    Except Fault { f : Field // f ∈ missing } :=
  match Field.ofName? key with
  | none => refuseKey (.unknownKey key (Field.all.map Field.name)) s
  | some f => if h : f ∈ missing then .ok ⟨f, h⟩ else refuseKey (.duplicateKey key) s

/-- The members of an object whose opening bracket has been read. -/
def readMembers (missing : List Field) (first : Bool) (c : Config) (s : List Char) :
    Except Fault (Config × List Char) := do
  match ← toKey first s with
  | .stop s => return (c, s)
  | .next s =>
    let (key, s) ← readKey s
    let ⟨f, h⟩ ← readName missing key s
    let s ← readColon s
    let (c, s) ← readField f c s
    have : (missing.erase f).length < missing.length := by
      have := List.length_pos_of_mem h
      rw [List.length_erase_of_mem h]; omega
    readMembers (missing.erase f) false c s
termination_by missing.length

/-! ## Lists -/

/-- The front of the next item of a list, after its comma if it is not the first. The closing
bracket is left standing. -/
def toItem (first : Bool) (s : List Char) : Except Fault Turn :=
  match skipBlanks s with
  | [] => failPast .endInList []
  | ']' :: s => .ok (.stop (']' :: s))
  | c :: s =>
    if first then .ok (.next (c :: s))
    else if c = ',' then
      match skipBlanks s with
      | [] => failPast .endInValue []
      | ']' :: s => failPast .trailingComma (']' :: s)
      | s => .ok (.next s)
    else failPast .expectedCommaInList (c :: s)

def readItems (first : Bool) (c : Config) (s : List Char) :
    List Field → Except Fault (Config × List Char)
  | [] => .ok (c, s)
  | f :: fs => do
    match ← toItem first s with
    | .stop s => return (c, s)
    | .next s =>
      let (c, s) ← readField f c s
      readItems false c s fs

/-- The closing bracket of a list. -/
def readEnd (s : List Char) : Except Fault (List Char) :=
  match skipBlanks s with
  | [] => failPast .endInList []
  | ']' :: s => .ok s
  | ',' :: s =>
    match skipBlanks s with
    | ']' :: s => failPast .trailingComma (']' :: s)
    | s => failPast .trailingCharacters s
  | s => failPast .trailingCharacters s

/-! ## Configurations -/

def readValue (s : List Char) : Except Fault (Config × List Char) := do
  let s ← toValue s
  match s with
  | '\x7b' :: s => readMembers Field.all true {} s
  | '[' :: s =>
    let (c, s) ← readItems true {} s Field.all
    return (c, ← readEnd s)
  | s => refuse .config s

/-- A text that is one configuration and nothing else. -/
def read (s : List Char) : Except Fault Config := do
  let (c, s) ← readValue s
  match skipBlanks s with
  | [] => return c
  | s => failPast .trailingCharacters s

inductive Error where
  | malformed (f : Fault) (text : String)
  | invalid (i : Invalid)
  deriving Repr

def Error.message : Error → String
  | malformed f text => "Invalid config JSON: " ++ f.message text.toList
  | invalid .delay =>
    "Invalid reconnect delay (baseDelayMs must be > 0 and <= maxDelayMs)"
  | invalid .multiplier => "Invalid backoff multiplier (must be >= 1)"
  | invalid (.endpointPath path) =>
    "Invalid endpoint path: " ++ Text.quoted path ++ " (must start with '/')"
  | invalid .lineLength => "Invalid max line length (must be > 0)"

/-- Reads and checks a configuration. -/
def ofJson (text : String) : Except Error Config :=
  match read text.toList with
  | .error f => .error (.malformed f text)
  | .ok c =>
    match c.invalid? with
    | some i => .error (.invalid i)
    | none => .ok c

theorem ofJson_eq_ok {text : String} {c : Config} (h : (ofJson text).toOption = some c) :
    ofJson text = .ok c := by
  cases hr : ofJson text with
  | error e =>
    rw [hr] at h
    cases h
  | ok c' =>
    rw [hr] at h
    exact congrArg Except.ok (Option.some.inj h)

end WebTerminal.Config
