import WebTerminal.Text.Printable

/-! # Quoted text

Text in quotes for messages: the quote in use and the backslash are escaped, the common control
characters have short names, and any other character that is not printable is written by its code
point. -/

namespace WebTerminal.Text

def escapeCodePoint (c : Char) : List Char :=
  ['\\', 'u', '\x7b'] ++ Nat.toDigits 16 c.toNat ++ ['\x7d']

def escape (quote c : Char) : List Char :=
  if c = '\x00' then ['\\', '0']
  else if c = '\t' then ['\\', 't']
  else if c = '\r' then ['\\', 'r']
  else if c = '\n' then ['\\', 'n']
  else if c = quote ∨ c = '\\' then ['\\', c]
  else if isPrintable c then [c]
  else escapeCodePoint c

def quotedWith (quote : Char) (cs : List Char) : String :=
  String.ofList ([quote] ++ cs.flatMap (escape quote) ++ [quote])

def quoted (s : String) : String := quotedWith '"' s.toList

def quotedChar (c : Char) : String := quotedWith '\'' [c]

end WebTerminal.Text
