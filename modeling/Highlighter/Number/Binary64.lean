/-
# Binary floating point

Numbers with 53 significant binary digits (`Binary64`), as they come from reading a decimal that is
not a whole number: rounding a quotient to the nearest such number, a tie going to the even one
(`Binary64.round?`), and finding the shortest decimal that is read back as the same number
(`Binary64.shortest`).
-/

namespace Highlighter

/-- The number `significand * 2 ^ exponent`; the significand is below `2 ^ 53`. -/
structure Binary64 where
  significand : Nat
  exponent : Int
  deriving DecidableEq

namespace Binary64

def zero : Binary64 := ⟨0, 0⟩

/-- `2 ^ e` as a quotient. -/
def powerOfTwo (e : Int) : Nat × Nat :=
  if 0 ≤ e then (Nat.pow 2 e.toNat, 1) else (1, Nat.pow 2 (-e).toNat)

/-- The number as a quotient. -/
def toRatio (x : Binary64) : Nat × Nat :=
  let (num, den) := powerOfTwo x.exponent
  (x.significand * num, den)

/-- A quotient rounded to the nearest whole number, a tie going to the even one. -/
def divNearest (num den : Nat) : Nat :=
  let q := num / den
  let twice := 2 * (num % den)
  if twice < den then q else if den < twice then q + 1 else q + q % 2

/-- The number nearest to `num / den`, a tie going to the even one, if it is not too large. -/
def round? (num den : Nat) : Option Binary64 :=
  if num = 0 then some zero
  else
    let guess : Int := (num.log2 : Int) - den.log2 - 52
    let (gn, gd) := powerOfTwo (guess + 52)
    let e := max (if num * gd < gn * den then guess - 1 else guess) (-1074)
    let (pn, pd) := powerOfTwo e
    let q := divNearest (num * pd) (den * pn)
    let x : Binary64 := if q = Nat.pow 2 53 then ⟨Nat.pow 2 52, e + 1⟩ else ⟨q, e⟩
    if x.exponent ≤ 971 then some x else none

/-- The product of two numbers, if it is not too large. -/
def mul? (x y : Binary64) : Option Binary64 :=
  let (a, b) := x.toRatio
  let (c, d) := y.toRatio
  round? (a * c) (b * d)

/-- The quotient of two numbers, the second not being zero, if it is not too large. -/
def div? (x y : Binary64) : Option Binary64 :=
  let (a, b) := x.toRatio
  let (c, d) := y.toRatio
  round? (a * d) (b * c)

/-! ## 1. The shortest decimal -/

/-- Whether the quotient `num / den` is read as `x`. -/
def readsBack (x : Binary64) (num den : Nat) : Bool := round? num den == some x

/-- The power of ten of the leading digit of `num / den`, found from a first guess. -/
def leadingPower (num den : Nat) : Int :=
  let guess : Int := (((num.log2 : Int) - den.log2) * 30103).fdiv 100000
  let reaches (k : Int) : Bool :=
    if 0 ≤ k then Nat.pow 10 k.toNat * den ≤ num else den ≤ num * Nat.pow 10 (-k).toNat
  if reaches (guess + 1) then guess + 1
  else if reaches guess then guess
  else guess - 1

/-- The decimal with `digits` significant digits that is nearest to `x` among those read back as
`x`: its digits as a whole number and the power of ten of the last of them. -/
def withDigits? (x : Binary64) (num den : Nat) (lead : Int) (digits : Nat) : Option (Nat × Int) :=
  let last : Int := lead + 1 - digits
  let (up, down) := if 0 ≤ last then (Nat.pow 10 last.toNat, 1) else (1, Nat.pow 10 (-last).toNat)
  -- `x` lies between the decimals `low` and `low + 1`, counted in units of the last place.
  let low := (num * down) / (den * up)
  let nearLow := 2 * ((num * down) % (den * up)) ≤ den * up
  let lowBack := x.readsBack (low * up) down
  let highBack := x.readsBack ((low + 1) * up) down
  if lowBack && (nearLow || !highBack) then some (low, last)
  else if highBack then some (low + 1, last)
  else none

/-- The shortest decimal that is read back as `x`, as a whole number and a power of ten. -/
def shortest (x : Binary64) : Nat × Int :=
  let (num, den) := x.toRatio
  let lead := leadingPower num den
  ((List.range 17).findSome? fun i => x.withDigits? num den lead (i + 1)).getD (0, 0)

/-! ## 2. Decimal notation -/

/-- How numbers are written: with a point from this power of ten of the leading digit … -/
def smallestPlainPower : Int := -5

/-- … up to this one, and with an exponent otherwise. -/
def largestPlainPower : Int := 15

/-- The digits of a whole number. -/
def decimalDigits (n : Nat) : List Char := Nat.toDigits 10 n

/-- Digits with a point after the first `whole` of them, and at least one digit on both sides. -/
def pointed (digits : List Char) (whole : Int) : List Char :=
  if whole ≤ 0 then ['0', '.'] ++ List.replicate (-whole).toNat '0' ++ digits
  else if whole.toNat < digits.length then
    digits.take whole.toNat ++ ['.'] ++ digits.drop whole.toNat
  else digits ++ List.replicate (whole.toNat - digits.length) '0' ++ ['.', '0']

/-- The exponent part, with a sign and two digits at least. -/
def exponentPart (e : Int) : List Char :=
  let digits := decimalDigits e.natAbs
  ['e', if e < 0 then '-' else '+'] ++ (if digits.length < 2 then '0' :: digits else digits)

/-- A number in decimal. -/
def toDecimal (x : Binary64) : List Char :=
  if x.significand = 0 then ['0', '.', '0']
  else
    let (n, last) := x.shortest
    let all := decimalDigits n
    let digits := (all.reverse.dropWhile (· == '0')).reverse
    let lead := last + (all.length - 1 : Nat)
    if smallestPlainPower ≤ lead && lead ≤ largestPlainPower then pointed digits (lead + 1)
    else
      (match digits with
        | d :: e :: ds => d :: '.' :: e :: ds
        | ds => ds) ++ exponentPart lead

end Binary64

end Highlighter
