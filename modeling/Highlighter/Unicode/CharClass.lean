/-
# Character classes

The classes that patterns, options and quoted text ask about: white space, decimal digits, word
characters, letters, and characters that can be shown as they are.  ASCII is answered without the
tables.
-/
import Highlighter.Unicode.BinaryProperty

namespace Highlighter

namespace CharClass

/-! ## 1. Classes of the standard -/

/-- White space: the property `White_Space`. -/
def isSpace (c : Char) : Bool :=
  let n := c.toNat
  n == 0x20 || (0x9 ≤ n && n ≤ 0xD) || n == 0x85 || n == 0xA0 || n == 0x1680 ||
    (0x2000 ≤ n && n ≤ 0x200A) || n == 0x2028 || n == 0x2029 || n == 0x202F || n == 0x205F ||
    n == 0x3000

/-- An ASCII decimal digit. -/
def isAsciiDigit (c : Char) : Bool := '0' ≤ c && c ≤ '9'

/-- An ASCII letter. -/
def isAsciiLetter (c : Char) : Bool := ('a' ≤ c && c ≤ 'z') || ('A' ≤ c && c ≤ 'Z')

/-- An ASCII letter, digit or underscore. -/
def isAsciiWord (c : Char) : Bool := isAsciiLetter c || isAsciiDigit c || c == '_'

/-- An ASCII character. -/
def isAscii (c : Char) : Bool := c.toNat < 0x80

/-- A decimal digit of any script. -/
def isDigit (c : Char) : Bool :=
  if isAscii c then isAsciiDigit c else Category.of c == .nd

/-- The categories whose characters are all word characters: letters, marks, decimal digits, letter
numbers and connecting punctuation. -/
def wordCategory : Category → Bool
  | .lu | .ll | .lt | .lm | .lo | .mn | .mc | .me | .nd | .nl | .pc => true
  | _ => false

/-- Letter-like symbols and the two join controls, the word characters of other categories. -/
def isWordSymbol (n : Nat) : Bool :=
  (0x24B6 ≤ n && n ≤ 0x24E9) || (0x1F130 ≤ n && n ≤ 0x1F149) || (0x1F150 ≤ n && n ≤ 0x1F169) ||
    (0x1F170 ≤ n && n ≤ 0x1F189) || n == 0x200C || n == 0x200D

/-- A word character: what `\w` stands for. -/
def isWord (c : Char) : Bool :=
  if isAscii c then isAsciiWord c else wordCategory (Category.of c) || isWordSymbol c.toNat

/-- A letter, in the wide sense of the property `Alphabetic`. -/
def isAlphabetic (c : Char) : Bool :=
  if isAscii c then isAsciiLetter c else BinaryProperty.alphabetic.holds c

/-- A letter or a number. -/
def isAlphanumeric (c : Char) : Bool :=
  isAlphabetic c ||
    (if isAscii c then isAsciiDigit c
      else match Category.of c with
        | .nd | .nl | .no => true
        | _ => false)

/-! ## 2. What can be shown as it is -/

/-- Controls, format characters, surrogates, private and unassigned code points and all separators
but the plain space. -/
def unshownCategory : Category → Bool
  | .cc | .cf | .cs | .co | .cn | .zl | .zp | .zs => true
  | _ => false

/-- Whether a character can stand by itself in a line of text and be told from its neighbours. -/
def isShown (c : Char) : Bool :=
  if isAscii c then ' ' ≤ c && c ≤ '~'
  else !unshownCategory (Category.of c) && !BinaryProperty.graphemeExtend.holds c

/-! ## 3. ASCII case -/

/-- The lower-case form of an ASCII capital; any other character is unchanged. -/
def asciiLower (c : Char) : Char :=
  if 'A' ≤ c && c ≤ 'Z' then Char.ofNat (c.toNat + 32) else c

/-- A text with its ASCII capitals lowered. -/
def asciiLowercase (s : String) : String := String.ofList (s.toList.map asciiLower)

end CharClass

end Highlighter
