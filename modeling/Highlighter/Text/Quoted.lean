/-
# Quoted text

A text between double quotes, with everything in it shown that could be mistaken or overlooked: a
backslash before a quote or a backslash, a letter for the common controls, and a code in braces for
any other character that does not stand out by itself (`CharClass.isShown`).
-/
import Highlighter.Unicode.CharClass

namespace Highlighter

namespace Quoted

/-- The digits of a number in lower-case hexadecimal. -/
def hexDigits (n : Nat) : List Char := Nat.toDigits 16 n

/-- A character as it is written between the quotes. -/
def encodeChar (c : Char) : List Char :=
  if c == '\x00' then ['\\', '0']
  else if c == '\t' then ['\\', 't']
  else if c == '\r' then ['\\', 'r']
  else if c == '\n' then ['\\', 'n']
  else if c == '"' then ['\\', '"']
  else if c == '\\' then ['\\', '\\']
  else if CharClass.isShown c then [c]
  else ['\\', 'u', '\x7b'] ++ hexDigits c.toNat ++ ['\x7d']

/-- A text with its quotes. -/
def encode (text : List Char) : List Char :=
  ['"'] ++ text.flatMap encodeChar ++ ['"']

end Quoted

end Highlighter
