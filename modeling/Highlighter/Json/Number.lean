/-
# JSON numbers

Reading a number (`JsonNumber.read`).  A number without a fraction and an exponent is whole if it
fits into 64 bits.  Any other is a floating-point number: its digits are gathered into a whole
number for as long as that fits into 64 bits, and the power of ten is applied in one rounded
operation.
-/
import Highlighter.Json.Error
import Highlighter.Text.Digits

namespace Highlighter

/-- A number as it was read. -/
inductive JsonNumber where
  | natural (n : Nat)
  /-- A whole number below zero. -/
  | negative (n : Nat)
  | float (isNegative : Bool) (magnitude : Binary64)
  deriving DecidableEq

namespace JsonNumber

/-- The number as something found. -/
def found : JsonNumber → JsonFound
  | natural n => .integer n
  | negative n => .integer (-n)
  | float isNegative magnitude => .float isNegative magnitude

/-! ## 1. The parts of a number -/

/-- A number taken apart. -/
structure Parts where
  isNegative : Bool
  whole : List Char
  fraction : Option (List Char)
  /-- The sign of the exponent, and its digits. -/
  exponent : Option (Bool × List Char)

/-- The digits at the beginning of a text. -/
def digits (cs : List Char) : List Char × List Char :=
  (cs.takeWhile CharClass.isAsciiDigit, cs.dropWhile CharClass.isAsciiDigit)

/-- The whole part: a single zero, or digits that begin with another one. -/
def readWhole (cs : List Char) : Option (List Char × List Char) :=
  match digits cs with
  | ([], _) => none
  | (['0'], rest) => some (['0'], rest)
  | ('0' :: _, _) => none
  | (ds, rest) => some (ds, rest)

/-- The fraction, if there is one. -/
def readFraction (cs : List Char) : Option (Option (List Char) × List Char) :=
  match cs with
  | '.' :: cs =>
    match digits cs with
    | ([], _) => none
    | (ds, rest) => some (some ds, rest)
  | cs => some (none, cs)

/-- The exponent, if there is one. -/
def readExponent (cs : List Char) : Option (Option (Bool × List Char) × List Char) :=
  match cs with
  | c :: cs =>
    if c == 'e' || c == 'E' then
      let (isNegative, cs) :=
        match cs with
        | '+' :: cs => (false, cs)
        | '-' :: cs => (true, cs)
        | cs => (false, cs)
      match digits cs with
      | ([], _) => none
      | (ds, rest) => some (some (isNegative, ds), rest)
    else some (none, c :: cs)
  | [] => some (none, [])

/-- A number at the beginning of a text, taken apart. -/
def readParts (cs : List Char) : Option (Parts × List Char) := do
  let (isNegative, cs) :=
    match cs with
    | '-' :: cs => (true, cs)
    | cs => (false, cs)
  let (whole, cs) ← readWhole cs
  let (fraction, cs) ← readFraction cs
  let (exponent, cs) ← readExponent cs
  return (⟨isNegative, whole, fraction, exponent⟩, cs)

/-! ## 2. The value -/

/-- The largest whole number. -/
def maxNatural : Nat := 18446744073709551615

/-- The largest exponent that is looked at. -/
def maxExponent : Nat := 2147483647

/-- Append digits to a whole number for as long as it stays within bounds; the second part counts
the digits left over. -/
def gather (n : Nat) : List Char → Nat × Nat
  | [] => (n, 0)
  | d :: ds =>
    let m := 10 * n + (d.toNat - '0'.toNat)
    if m ≤ maxNatural then gather m ds else (n, ds.length + 1)

/-- `n * 10 ^ e` in rounded operations, if it is not too large. -/
def scale (n : Nat) (e : Int) : Option Binary64 := do
  let x ← Binary64.round? n 1
  if 0 ≤ e then
    if x.significand = 0 then some x
    else if e ≤ 308 then x.mul? (← Binary64.round? (Nat.pow 10 e.toNat) 1) else none
  else
    let power (k : Nat) : Option Binary64 := Binary64.round? (Nat.pow 10 k) 1
    let rec descend : (fuel : Nat) → Binary64 → Nat → Option Binary64
      | 0, _, _ => some .zero
      | fuel + 1, x, k =>
        if k ≤ 308 then do x.div? (← power k)
        else if x.significand = 0 then some x
        else do descend fuel (← x.div? (← power 308)) (k - 308)
    descend 4 x (-e).toNat

/-- The value of a number with a fraction, an exponent or too many digits. -/
def floatValue (p : Parts) (n left : Nat) : Option Binary64 :=
  let (n, used) :=
    match p.fraction with
    | none => (n, 0)
    | some ds =>
      let (m, unused) := gather n ds
      (m, ds.length - unused)
  let e : Int := (left : Int) - used
  match p.exponent with
  | none => scale n e
  | some (isNegative, ds) =>
    let k := Digits.decimalNumber ds
    if maxExponent < k then
      if n ≠ 0 && !isNegative then none else some .zero
    else scale n (if isNegative then e - k else e + k)

/-- The value of a number. -/
def value (p : Parts) : Option JsonNumber :=
  let (n, left) := gather 0 p.whole
  if left = 0 && p.fraction.isNone && p.exponent.isNone then
    if !p.isNegative then some (.natural n)
    else if n = 0 || Nat.pow 2 63 < n then (Binary64.round? n 1).map (.float true)
    else some (.negative n)
  else (floatValue p n left).map (.float p.isNegative)

/-- A number at the beginning of a text, and what follows. -/
def read (cs : List Char) : Option (JsonNumber × List Char) := do
  let (parts, rest) ← readParts cs
  return (← value parts, rest)

/-- Pass over a number. -/
def skip (cs : List Char) : Option (List Char) := (readParts cs).map (·.2)

end JsonNumber

end Highlighter
