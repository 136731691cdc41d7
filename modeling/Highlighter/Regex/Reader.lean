/-
# Reading the text of a pattern

The small readers that the parts of the pattern notation share: blanks and comments (skipped where
the flag `x` is on), text in braces, hexadecimal codes and counts.  `PatternError` lists what can be
wrong with a pattern.
-/
import Highlighter.Text.Digits

namespace Highlighter

/-- Why a text is no pattern. -/
inductive PatternError where
  | unexpectedEnd
  | unclosedGroup
  | unopenedGroup
  | unclosedClass
  | lookAround
  | backReference
  | unknownEscape
  | invalidCode
  | unknownProperty
  | invalidGroupName
  | repeatedGroupName
  | invalidFlags
  | nothingToRepeat
  | invalidCount
  | invalidRange
  | notInClass
  | unknownBoundary
  /-- A character or class beyond ASCII where the Unicode tables are off. -/
  | beyondAscii
  | tooDeep
  | tooLarge
  deriving DecidableEq

namespace PatternReader

/-- Skip white space, and comments from `#` to the end of the line. -/
def skipBlanks : (inComment : Bool) → List Char → List Char
  | _, [] => []
  | true, c :: cs => skipBlanks (c != '\n') cs
  | false, c :: cs =>
    if CharClass.isSpace c then skipBlanks false cs
    else if c == '#' then skipBlanks true cs
    else c :: cs

/-- Skip blanks where they mean nothing. -/
def skip (verbose : Bool) (cs : List Char) : List Char :=
  if verbose then skipBlanks false cs else cs

/-- The text up to the closing brace, and what follows the brace. -/
def braced (verbose : Bool) : (inComment : Bool) → List Char → Option (List Char × List Char)
  | _, [] => none
  | true, c :: cs => braced verbose (c != '\n') cs
  | false, c :: cs =>
    if verbose && CharClass.isSpace c then braced verbose false cs
    else if verbose && c == '#' then braced verbose true cs
    else if c == '\x7d' then some ([], cs)
    else (braced verbose false cs).map fun (text, rest) => (c :: text, rest)

/-! ## 1. Codes -/

/-- The character with a hexadecimal code. -/
def hexChar? (digits : List Char) : Option Char := do
  let n ← Digits.hexNumber? digits
  if n.isValidChar then some (Char.ofNat n) else none

/-- `n` characters, blanks before each of them skipped. -/
def fixed (verbose : Bool) : (n : Nat) → List Char → Option (List Char × List Char)
  | 0, cs => some ([], cs)
  | n + 1, cs =>
    match skip verbose cs with
    | [] => none
    | c :: cs => (fixed verbose n cs).map fun (text, rest) => (c :: text, rest)

/-- The code of a character after `\x` (two digits), `\u` (four) or `\U` (eight), or in braces. -/
def code (verbose : Bool) (digits : Nat) (cs : List Char) :
    Except PatternError (Char × List Char) :=
  let read :=
    match skip verbose cs with
    | '\x7b' :: cs => (braced verbose false cs).filter (!·.1.isEmpty)
    | _ => fixed verbose digits cs
  match read with
  | none => .error .unexpectedEnd
  | some (text, rest) =>
    match hexChar? text with
    | some c => .ok (c, rest)
    | none => .error .invalidCode

/-! ## 2. Counts -/

/-- Decimal digits, with blanks between them skipped where they mean nothing. -/
def digits (verbose : Bool) : (inComment : Bool) → List Char → List Char × List Char
  | _, [] => ([], [])
  | true, c :: cs => digits verbose (c != '\n') cs
  | false, c :: cs =>
    if CharClass.isAsciiDigit c then
      let (ds, rest) := digits verbose false cs
      (c :: ds, rest)
    else if verbose && CharClass.isSpace c then digits verbose false cs
    else if verbose && c == '#' then digits verbose true cs
    else ([], c :: cs)

/-- The largest count that may be written. -/
def maxCount : Nat := 4294967295

/-- A count with white space around it, if one is there, and what follows. -/
def count (verbose : Bool) (cs : List Char) : Except PatternError (Option Nat × List Char) :=
  let (ds, rest) := digits verbose false (cs.dropWhile CharClass.isSpace)
  let rest := rest.dropWhile CharClass.isSpace
  if ds.isEmpty then .ok (none, rest)
  else if Digits.decimalNumber ds ≤ maxCount then .ok (some (Digits.decimalNumber ds), rest)
  else .error .invalidCount

/-- The bounds of a counted repetition, after its opening brace up to its closing one. -/
def bounds (verbose : Bool) (cs : List Char) :
    Except PatternError ((Nat × Option Nat) × List Char) := do
  match ← count verbose (skip verbose cs) with
  | (some min, '\x7d' :: rest) => .ok ((min, some min), rest)
  | (some min, ',' :: rest) =>
    match skip verbose rest with
    | '\x7d' :: rest => .ok ((min, none), rest)
    | rest =>
      match ← count verbose rest with
      | (some max, '\x7d' :: rest) =>
        if min ≤ max then .ok ((min, some max), rest) else .error .invalidCount
      | _ => .error .invalidCount
  | _ => .error .invalidCount

end PatternReader

end Highlighter
