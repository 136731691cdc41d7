/-
# Escapes

What a backslash and the characters after it stand for: a character, a class or an assertion
(`Atom`).  `Escape.read` reads one escape under the flags in force.
-/
import Highlighter.Regex.Flags
import Highlighter.Regex.Pattern
import Highlighter.Regex.PropertyName
import Highlighter.Regex.Reader

namespace Highlighter

/-- The smallest meaningful part of a pattern. -/
inductive Atom where
  | literal (c : Char)
  | set (s : CharSet)
  | assertion (a : Assertion)
  deriving DecidableEq

/-! ## 1. Classes named by a letter -/

namespace CharSet

/-- The ASCII word characters. -/
def asciiWord : CharSet := unions [range '0' '9', range 'A' 'Z', range '_' '_', range 'a' 'z']

/-- The ASCII white space. -/
def asciiSpace : CharSet := union (range '\t' '\r') (range ' ' ' ')

/-- The word characters under some flags. -/
def wordUnder (flags : PatternFlags) : CharSet :=
  if flags.unicode then property .word else asciiWord

/-- Close a set under case, if the flags say so. -/
def foldUnder (flags : PatternFlags) (s : CharSet) : CharSet :=
  if flags.caseInsensitive then
    if flags.unicode then anyCase s else anyAsciiCase s
  else s

/-- The complement of a set, if it is negated.  Without the Unicode tables a set holds ASCII
characters only, and so it has no complement. -/
def negateUnder (flags : PatternFlags) (negated : Bool) (s : CharSet) :
    Except PatternError CharSet :=
  if negated then
    if flags.unicode then .ok (compl s) else .error .beyondAscii
  else .ok s

end CharSet

namespace Escape

/-- The class of `\d`, `\s` or `\w`. -/
def letterClass? (flags : PatternFlags) : Char → Option CharSet
  | 'd' => some (if flags.unicode then .property .digit else .range '0' '9')
  | 's' => some (if flags.unicode then .property .space else .asciiSpace)
  | 'w' => some (.wordUnder flags)
  | _ => none

/-- Split at the first place where a mark stands. -/
def splitAtMark (mark : List Char) : List Char → Option (List Char × List Char)
  | [] => none
  | c :: cs =>
    if mark.isPrefixOf (c :: cs) then some ([], (c :: cs).drop mark.length)
    else (splitAtMark mark cs).map fun (a, b) => (c :: a, b)

/-- The set that a name in braces stands for: a bare name, or a property and its value. -/
def bracedProperty? (name : List Char) : Option CharSet :=
  match splitAtMark ['!', '='] name <|> splitAtMark [':'] name <|> splitAtMark ['='] name with
  | some (property, value) => PropertyName.lookupValue? property value
  | none => PropertyName.lookup? name

/-- The class after `\p` or `\P`. -/
def property (flags : PatternFlags) (negated : Bool) (cs : List Char) :
    Except PatternError (Atom × List Char) := do
  let (found, rest) ←
    match PatternReader.skip flags.verbose cs with
    | [] => .error .unexpectedEnd
    | '\x7b' :: cs =>
      match PatternReader.braced flags.verbose false cs with
      | none => .error .unexpectedEnd
      | some (name, rest) => .ok (bracedProperty? name, rest)
    | c :: rest => .ok (if c == '\\' then none else PropertyName.lookup? [c], rest)
  match found with
  | none => .error .unknownProperty
  | some s =>
    if flags.unicode then
      return (.set (← (s.foldUnder flags).negateUnder flags negated), rest)
    else .error .beyondAscii

/-! ## 2. Escaped characters -/

/-- The characters with a meaning of their own in some place of a pattern. -/
def metaCharacters : List Char :=
  ['\\', '.', '+', '*', '?', '(', ')', '|', '[', ']', '\x7b', '\x7d', '^', '$', '#', '&', '-', '~']

/-- Whether a backslash before the character takes its meaning away.  ASCII letters and digits are
kept for escapes, `<` and `>` for assertions. -/
def isEscapable (c : Char) : Bool :=
  metaCharacters.contains c ||
    (CharClass.isAscii c && !CharClass.isAsciiLetter c && !CharClass.isAsciiDigit c &&
      c != '<' && c != '>')

/-- The control character that a letter stands for. -/
def control? : Char → Option Char
  | 'a' => some '\x07'
  | 'f' => some '\x0c'
  | 't' => some '\t'
  | 'n' => some '\n'
  | 'r' => some '\r'
  | 'v' => some '\x0b'
  | _ => none

/-- The number of hexadecimal digits after a letter. -/
def codeDigits? : Char → Option Nat
  | 'x' => some 2
  | 'u' => some 4
  | 'U' => some 8
  | _ => none

/-- A character given by its code.  Without the Unicode tables two hexadecimal digits stand for a
byte, and a byte beyond ASCII is no character. -/
def coded (flags : PatternFlags) (digits : Nat) (cs : List Char) :
    Except PatternError (Atom × List Char) := do
  let isByte := digits == 2 && (PatternReader.skip flags.verbose cs).head? != some '\x7b'
  let (c, rest) ← PatternReader.code flags.verbose digits cs
  if isByte && !flags.unicode && !CharClass.isAscii c then .error .beyondAscii
  else .ok (.literal c, rest)

/-! ## 3. Assertions -/

/-- A character of the name of a boundary. -/
def isBoundaryLetter (c : Char) : Bool := CharClass.isAsciiLetter c || c == '-'

/-- The letters of a boundary's name, with blanks between them skipped where they mean nothing. -/
def boundaryName (verbose : Bool) : (inComment : Bool) → List Char → List Char × List Char
  | _, [] => ([], [])
  | true, c :: cs => boundaryName verbose (c != '\n') cs
  | false, c :: cs =>
    if isBoundaryLetter c then
      let (name, rest) := boundaryName verbose false cs
      (c :: name, rest)
    else if verbose && CharClass.isSpace c then boundaryName verbose false cs
    else if verbose && c == '#' then boundaryName verbose true cs
    else ([], c :: cs)

/-- A boundary by its name. -/
def namedBoundary? (word : CharSet) (name : String) : Option Assertion :=
  if name == "start" then some (.wordStart word)
  else if name == "end" then some (.wordEnd word)
  else if name == "start-half" then some (.wordStartHalf word)
  else if name == "end-half" then some (.wordEndHalf word)
  else none

/-- What follows `\b`: the name of a special boundary in braces, unless the braces cannot be one. -/
def boundary (flags : PatternFlags) (cs : List Char) :
    Except PatternError (Assertion × List Char) :=
  let word := CharSet.wordUnder flags
  match cs with
  | '\x7b' :: inner =>
    match PatternReader.skip flags.verbose inner with
    | [] => .error .unexpectedEnd
    | c :: inner =>
      if isBoundaryLetter c then
        match boundaryName flags.verbose false (c :: inner) with
        | (name, '\x7d' :: rest) =>
          match namedBoundary? word (String.ofList name) with
          | some a => .ok (a, rest)
          | none => .error .unknownBoundary
        | _ => .error .unknownBoundary
      else .ok (.wordBoundary word, cs)
  | _ => .ok (.wordBoundary word, cs)

/-- An assertion that is one letter or angle. -/
def assertion? (flags : PatternFlags) : Char → Option Assertion
  | 'A' => some .textStart
  | 'z' => some .textEnd
  | 'B' => some (.notWordBoundary (.wordUnder flags))
  | '<' => some (.wordStart (.wordUnder flags))
  | '>' => some (.wordEnd (.wordUnder flags))
  | _ => none

/-! ## 4. All escapes -/

/-- Read what follows a backslash. -/
def read (flags : PatternFlags) : List Char → Except PatternError (Atom × List Char)
  | [] => .error .unexpectedEnd
  | 'b' :: cs => do
    let (a, rest) ← boundary flags cs
    return (.assertion a, rest)
  | 'p' :: cs => property flags false cs
  | 'P' :: cs => property flags true cs
  | c :: cs =>
    if isEscapable c then .ok (.literal c, cs)
    else if CharClass.isAsciiDigit c then .error .backReference
    else
      match codeDigits? c, control? c, assertion? flags c,
        letterClass? flags (CharClass.asciiLower c) with
      | some digits, _, _, _ => coded flags digits cs
      | _, some c, _, _ => .ok (.literal c, cs)
      | _, _, some a, _ => .ok (.assertion a, cs)
      | _, _, _, some s => do
        return (.set (← s.negateUnder flags ('A' ≤ c && c ≤ 'Z')), cs)
      | _, _, _, none => .error .unknownEscape

end Escape

end Highlighter
