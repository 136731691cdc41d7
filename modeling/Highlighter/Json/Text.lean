/-
# JSON strings

Writing a text as a JSON string (`Json.quote`) and reading one (`Json.readString`).  Writing escapes
quotes, backslashes and control characters and nothing else; reading knows all escapes and refuses
control characters and unpaired surrogates.
-/
import Highlighter.Text.Digits

namespace Highlighter

namespace Json

/-! ## 1. Writing -/

/-- A digit of a hexadecimal code. -/
def hexDigit (n : Nat) : Char := Nat.digitChar (n % 16)

/-- A character as it is written in a string. -/
def quoteChar (c : Char) : List Char :=
  if c == '"' then ['\\', '"']
  else if c == '\\' then ['\\', '\\']
  else if c == '\x08' then ['\\', 'b']
  else if c == '\t' then ['\\', 't']
  else if c == '\n' then ['\\', 'n']
  else if c == '\x0c' then ['\\', 'f']
  else if c == '\r' then ['\\', 'r']
  else if c.toNat < 0x20 then ['\\', 'u', '0', '0', hexDigit (c.toNat / 16), hexDigit c.toNat]
  else [c]

/-- A text as a JSON string. -/
def quote (text : List Char) : List Char := ['"'] ++ text.flatMap quoteChar ++ ['"']

/-! ## 2. Reading -/

/-- The number that four hexadecimal digits stand for, and what follows. -/
def readUnit : List Char → Option (Nat × List Char)
  | a :: b :: c :: d :: rest => do return (← Digits.hexNumber? [a, b, c, d], rest)
  | _ => none

/-- Whether a UTF-16 unit is the first of a pair. -/
def isHighUnit (u : Nat) : Bool := 0xD800 ≤ u && u < 0xDC00

/-- Whether a UTF-16 unit is the second of a pair. -/
def isLowUnit (u : Nat) : Bool := 0xDC00 ≤ u && u < 0xE000

/-- The character that a backslash and a letter stand for. -/
def escaped? : Char → Option Char
  | '"' => some '"'
  | '\\' => some '\\'
  | '/' => some '/'
  | 'b' => some '\x08'
  | 'f' => some '\x0c'
  | 'n' => some '\n'
  | 'r' => some '\r'
  | 't' => some '\t'
  | _ => none

/-- The character after `\u`, given by one unit or a pair. -/
def readCoded (cs : List Char) : Option (Char × List Char) := do
  let (u, rest) ← readUnit cs
  if isHighUnit u then
    match rest with
    | '\\' :: 'u' :: rest =>
      let (v, rest) ← readUnit rest
      if isLowUnit v then
        return (Char.ofNat (0x10000 + (u - 0xD800) * 0x400 + (v - 0xDC00)), rest)
      else none
    | _ => none
  else if isLowUnit u then none
  else return (Char.ofNat u, rest)

/-- One character of a string, and what follows. -/
def readChar : List Char → Option (Char × List Char)
  | [] => none
  | '\\' :: 'u' :: cs => readCoded cs
  | '\\' :: c :: cs => (escaped? c).map fun c => (c, cs)
  | c :: cs => if c.toNat < 0x20 || c == '"' || c == '\\' then none else some (c, cs)

/-- A string after its opening quote, up to its closing one.  Each character is written with one
character at least, so the length of the text is enough `fuel`. -/
def readStringFrom : (fuel : Nat) → List Char → Option (List Char × List Char)
  | 0, _ => none
  | fuel + 1, cs =>
    match cs with
    | '"' :: rest => some ([], rest)
    | cs => do
      let (c, rest) ← readChar cs
      let (text, rest) ← readStringFrom fuel rest
      return (c :: text, rest)

/-- A string after its opening quote, and what follows it. -/
def readString (cs : List Char) : Option (List Char × List Char) := readStringFrom cs.length cs

/-- Pass over a string after its opening quote.  Codes are not looked at closely. -/
def skipString : List Char → Option (List Char)
  | [] => none
  | '"' :: rest => some rest
  | '\\' :: 'u' :: a :: b :: c :: d :: rest =>
    if (Digits.hexNumber? [a, b, c, d]).isSome then skipString rest else none
  | '\\' :: c :: rest => if (escaped? c).isSome then skipString rest else none
  | c :: rest => if c.toNat < 0x20 || c == '\\' then none else skipString rest

end Json

end Highlighter
