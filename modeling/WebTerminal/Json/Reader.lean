import WebTerminal.Json.Fault

/-! # Reading JSON

Each reader takes a token off the front of a text and yields what it means with the rest. -/

namespace WebTerminal.Json

def isBlank (c : Char) : Bool := c = ' ' || c = '\n' || c = '\t' || c = '\r'

def skipBlanks (s : List Char) : List Char := s.dropWhile isBlank

/-- The text from its next value on. -/
def toValue (s : List Char) : Except Fault (List Char) :=
  match skipBlanks s with
  | [] => failPast .endInValue []
  | s => .ok s

/-- Reads the given characters. -/
def readWord : (word : List Char) → List Char → Except Fault (List Char)
  | [], s => .ok s
  | _ :: _, [] => failAt .endInValue []
  | w :: ws, c :: s => if c = w then readWord ws s else failPast .expectedWord (c :: s)

def readColon (s : List Char) : Except Fault (List Char) :=
  match skipBlanks s with
  | [] => failPast .endInObject []
  | ':' :: s => .ok s
  | s => failPast .expectedColon s

/-! ## Texts -/

def hexDigit? (c : Char) : Option Nat :=
  if '0' ≤ c ∧ c ≤ '9' then some (c.toNat - '0'.toNat)
  else if 'a' ≤ c ∧ c ≤ 'f' then some (c.toNat - 'a'.toNat + 10)
  else if 'A' ≤ c ∧ c ≤ 'F' then some (c.toNat - 'A'.toNat + 10)
  else none

def hexValue? (cs : List Char) : Option Nat :=
  (cs.mapM hexDigit?).map (·.foldl (fun n d => n * 16 + d) 0)

/-- Four hexadecimal digits. Any other four bytes are skipped by the fault. -/
def readHex (s : List Char) : Except Fault (Nat × List Char) :=
  match s with
  | a :: b :: c :: d :: rest =>
    match hexValue? [a, b, c, d] with
    | some n => .ok (n, rest)
    | none => .error ⟨.invalidEscape, Utf8.size s - 4⟩
  | _ =>
    if Utf8.size s < 4 then .error ⟨.endInText, 0⟩ else .error ⟨.invalidEscape, Utf8.size s - 4⟩

/-- One of two characters that must stand between the halves of a pair of surrogates. -/
def readBetween (c : Char) : List Char → Except Fault (List Char)
  | [] => failAt .endInText []
  | d :: s => if d = c then .ok s else failPast .endOfSurrogate (d :: s)

/-- The escape of a code point, or of two surrogates that make up one. -/
def readCodePoint (s : List Char) : Except Fault (Char × List Char) := do
  let (high, s) ← readHex s
  if 0xDC00 ≤ high ∧ high < 0xE000 then failAt .loneSurrogate s
  else if 0xD800 ≤ high ∧ high < 0xDC00 then
    let s ← readBetween '\\' s
    let s ← readBetween 'u' s
    let (low, s) ← readHex s
    if 0xDC00 ≤ low ∧ low < 0xE000 then
      .ok (Char.ofNat ((high - 0xD800) * 0x400 + (low - 0xDC00) + 0x10000), s)
    else failAt .loneSurrogate s
  else .ok (Char.ofNat high, s)

/-- The character of a short escape. -/
def shortEscape? : Char → Option Char
  | '"' => some '"'
  | '\\' => some '\\'
  | '/' => some '/'
  | 'b' => some '\x08'
  | 'f' => some '\x0c'
  | 'n' => some '\n'
  | 'r' => some '\r'
  | 't' => some '\t'
  | _ => none

def readEscape : List Char → Except Fault (Char × List Char)
  | [] => failAt .endInText []
  | 'u' :: s => readCodePoint s
  | c :: s =>
    match shortEscape? c with
    | some d => .ok (d, s)
    | none => failPast .invalidEscape (c :: s)

theorem readHex_length {s r : List Char} {n : Nat} (h : readHex s = .ok (n, r)) :
    r.length < s.length := by
  unfold readHex at h
  split at h
  · split at h
    · obtain ⟨rfl, rfl⟩ : _ ∧ _ := by simpa using h
      simp; omega
    · simp at h
  · split at h <;> simp at h

theorem readBetween_length {c : Char} {s r : List Char} (h : readBetween c s = .ok r) :
    r.length < s.length := by
  unfold readBetween at h
  split at h
  · simp [failAt] at h
  · split at h
    · obtain rfl : _ = _ := by simpa using h
      simp
    · simp [failPast] at h

theorem readCodePoint_length {s r : List Char} {c : Char} (h : readCodePoint s = .ok (c, r)) :
    r.length < s.length := by
  unfold readCodePoint at h
  cases h₁ : readHex s with
  | error => simp [h₁, bind, Except.bind] at h
  | ok p =>
    obtain ⟨n, s₁⟩ := p
    have l₁ := readHex_length h₁
    simp only [h₁, bind, Except.bind] at h
    split at h
    · simp [failAt] at h
    · split at h
      · cases h₂ : readBetween '\\' s₁ with
        | error => simp [h₂] at h
        | ok s₂ =>
          have l₂ := readBetween_length h₂
          simp only [h₂] at h
          cases h₃ : readBetween 'u' s₂ with
          | error => simp [h₃] at h
          | ok s₃ =>
            have l₃ := readBetween_length h₃
            simp only [h₃] at h
            cases h₄ : readHex s₃ with
            | error => simp [h₄] at h
            | ok q =>
              obtain ⟨m, s₄⟩ := q
              have l₄ := readHex_length h₄
              simp only [h₄] at h
              split at h
              · obtain ⟨-, rfl⟩ : _ ∧ _ := by simpa using h
                omega
              · simp [failAt] at h
      · obtain ⟨-, rfl⟩ : _ ∧ _ := by simpa using h
        exact l₁

theorem readEscape_length {s r : List Char} {c : Char} (h : readEscape s = .ok (c, r)) :
    r.length < s.length := by
  unfold readEscape at h
  split at h
  · simp [failAt] at h
  · exact Nat.lt_trans (readCodePoint_length h) (by simp)
  · split at h
    · obtain ⟨-, rfl⟩ : _ ∧ _ := by simpa using h
      simp
    · simp [failPast] at h

/-- The rest of a text whose opening quote has been read. -/
def readText (s : List Char) : Except Fault (List Char × List Char) :=
  match s with
  | [] => failAt .endInText []
  | '"' :: rest => .ok ([], rest)
  | '\\' :: rest =>
    match _h : readEscape rest with
    | .error fault => .error fault
    | .ok (c, rest) => (readText rest).map fun (cs, rest) => (c :: cs, rest)
  | c :: rest =>
    if c.toNat < 0x20 then failAt .controlCharacter rest
    else (readText rest).map fun (cs, rest) => (c :: cs, rest)
termination_by s.length
decreasing_by
  · exact Nat.lt_trans (readEscape_length _h) (by simp)
  · simp

/-! ## Numbers -/

def digit (c : Char) : Nat := c.toNat - '0'.toNat

/-- Reads digits onto a number for as long as it does not pass the limit. -/
def readDigits (limit : Nat) : Nat → List Char → Nat × List Char
  | n, [] => (n, [])
  | n, c :: s =>
    if c.isDigit && n * 10 + digit c ≤ limit then readDigits limit (n * 10 + digit c) s
    else (n, c :: s)

def largestSignificand : Nat := 0xFFFFFFFFFFFFFFFF

def largestExponent : Nat := 0x7FFFFFFF

def tenTo (n : Nat) : Float := Float.ofScientific 1 false n

/-- `f · 10 ^ e` by floating point steps, unless it is too large for a float. -/
def scale (f : Float) (e : Int) : Option Float :=
  if e.natAbs ≤ 308 then
    if 0 ≤ e then
      let scaled := f * tenTo e.natAbs
      if scaled.isInf then none else some scaled
    else some (f / tenTo e.natAbs)
  else if f == 0 then some f
  else if 0 ≤ e then none
  else scale (f / tenTo 308) (e + 308)
termination_by e.natAbs

def signed (negative : Bool) (f : Float) : Float := if negative then -f else f

def ofParts (negative : Bool) (significand : Nat) (e : Int) (s : List Char) :
    Except Fault (Number × List Char) :=
  match scale (UInt64.ofNat significand).toFloat e with
  | some f => .ok (.float (signed negative f), s)
  | none => failAt .numberOutOfRange s

/-- The exponent of a number, from after its letter. -/
def readExponent (negative : Bool) (significand : Nat) (start : Int) (s : List Char) :
    Except Fault (Number × List Char) :=
  let (falls, s) := match s with
    | '+' :: s => (false, s)
    | '-' :: s => (true, s)
    | s => (false, s)
  match s with
  | [] => failAt .endInValue []
  | c :: rest =>
    if ¬ c.isDigit then failPast .invalidNumber (c :: rest)
    else
      let (e, rest) := readDigits largestExponent (digit c) rest
      if rest.head?.any Char.isDigit then
        if significand ≠ 0 ∧ ¬ falls then failAt .numberOutOfRange (rest.drop 1)
        else .ok (.float (signed negative 0), rest.dropWhile Char.isDigit)
      else ofParts negative significand (if falls then start - e else start + e) rest

/-- The places of a number, from after its point. -/
def readPlaces (negative : Bool) (significand : Nat) (start : Int) (s : List Char) :
    Except Fault (Number × List Char) :=
  let (significand, kept) := readDigits largestSignificand significand s
  let start := start - (s.length - kept.length : Nat)
  match s, kept.dropWhile Char.isDigit with
  | [], _ => failPast .endInValue []
  | c :: _, rest =>
    if ¬ c.isDigit then failPast .invalidNumber s
    else match rest with
      | 'e' :: rest | 'E' :: rest => readExponent negative significand start rest
      | rest => ofParts negative significand start rest

/-- An integer that no other part follows. A negative zero, and what is below the least word with a
sign, are floats. -/
def ofInteger (negative : Bool) (n : Nat) : Number :=
  if ¬ negative then .integer n
  else if 0 < n ∧ n ≤ 0x8000000000000000 then .integer (-n)
  else .float (-(UInt64.ofNat n).toFloat)

/-- A number whose sign has been read. Digits past the largest significand only raise the
exponent. -/
def readNumber (negative : Bool) (s : List Char) : Except Fault (Number × List Char) :=
  match s with
  | [] => failAt .endInValue []
  | c :: rest =>
    if ¬ c.isDigit then failPast .invalidNumber s
    else if c = '0' ∧ rest.head?.any Char.isDigit then failPast .invalidNumber rest
    else
      let (significand, kept) := readDigits largestSignificand (digit c) rest
      let raised := (kept.takeWhile Char.isDigit).length
      match kept.dropWhile Char.isDigit with
      | '.' :: rest => readPlaces negative significand raised rest
      | 'e' :: rest | 'E' :: rest => readExponent negative significand raised rest
      | rest =>
        if raised = 0 then .ok (ofInteger negative significand, rest)
        else ofParts negative significand raised rest

/-! ## Values of the wrong kind -/

/-- Reads as much of a value as it takes to say what it is. -/
def readFound (s : List Char) : Except Fault (Found × List Char) :=
  match s with
  | 'n' :: s => do return (.null, ← readWord ['u', 'l', 'l'] s)
  | 't' :: s => do return (.boolean true, ← readWord ['r', 'u', 'e'] s)
  | 'f' :: s => do return (.boolean false, ← readWord ['a', 'l', 's', 'e'] s)
  | '"' :: s => do
    let (cs, s) ← readText s
    return (.text (String.ofList cs), s)
  | '[' :: _ => .ok (.list, s)
  | '\x7b' :: _ => .ok (.object, s)
  | '-' :: s => do
    let (n, s) ← readNumber true s
    return (.number n, s)
  | c :: _ =>
    if c.isDigit then do
      let (n, s) ← readNumber false s
      return (.number n, s)
    else failPast .expectedValue s
  | [] => failPast .expectedValue s

def refuse {α : Type} (wanted : Wanted) (s : List Char) : Except Fault α := do
  let (found, s) ← readFound s
  failAt (.wrongType found wanted) s

/-- A whole number up to a limit. -/
def readWhole (wanted : Wanted) (limit : Nat) (s : List Char) :
    Except Fault (Nat × List Char) := do
  let s ← toValue s
  let (n, s) ← match s with
    | '-' :: rest => readNumber true rest
    | c :: _ => if c.isDigit then readNumber false s else refuse wanted s
    | [] => refuse wanted s
  match n with
  | .integer i =>
    if 0 ≤ i ∧ i ≤ limit then .ok (i.toNat, s) else failAt (.outOfRange i wanted) s
  | .float _ => failAt (.wrongType (.number n) wanted) s

end WebTerminal.Json
