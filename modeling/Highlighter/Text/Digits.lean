/-
# Digits

The numbers that decimal and hexadecimal digits stand for.
-/
import Highlighter.Unicode.CharClass

namespace Highlighter

namespace Digits

/-- The value of a hexadecimal digit. -/
def hexValue? (c : Char) : Option Nat :=
  if '0' ≤ c && c ≤ '9' then some (c.toNat - '0'.toNat)
  else if 'a' ≤ c && c ≤ 'f' then some (c.toNat - 'a'.toNat + 10)
  else if 'A' ≤ c && c ≤ 'F' then some (c.toNat - 'A'.toNat + 10)
  else none

/-- The number that hexadecimal digits stand for. -/
def hexNumber? (digits : List Char) : Option Nat :=
  digits.foldlM (fun n c => return 16 * n + (← hexValue? c)) 0

/-- The number that decimal digits stand for. -/
def decimalNumber (digits : List Char) : Nat :=
  digits.foldl (fun n c => 10 * n + (c.toNat - '0'.toNat)) 0

/-- Digits without the plus sign that may stand before them. -/
def unsigned : List Char → List Char
  | '+' :: digits => digits
  | digits => digits

/-- The number that decimal digits stand for, with an optional plus sign before them, if it is no
larger than `limit`. -/
def natural? (limit : Nat) (text : List Char) : Option Nat :=
  let ds := unsigned text
  if ds.isEmpty || !ds.all CharClass.isAsciiDigit then none
  else if decimalNumber ds ≤ limit then some (decimalNumber ds) else none

/-- The number that hexadecimal digits stand for, with an optional plus sign before them, if it is
no larger than `limit`. -/
def hexNatural? (limit : Nat) (text : List Char) : Option Nat :=
  let ds := unsigned text
  if ds.isEmpty then none else (hexNumber? ds).filter (· ≤ limit)

end Digits

end Highlighter
