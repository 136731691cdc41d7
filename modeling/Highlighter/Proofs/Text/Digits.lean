/-
# Numbers in digits

Which texts stand for a decimal number (`Digits.IsNatural`), and that a number that is written in
hexadecimal digits is read as itself (`Digits.hexNumber?_toDigits`).  What is written in decimal
digits begins with a zero only if it is zero.
-/
import Highlighter.Text.Digits
import Mathlib.Data.List.Basic

namespace Highlighter

namespace Digits

/-! ## 1. Reading -/

/-- A number in decimal digits, with a plus sign before them or not, that is no larger than
`limit`. -/
def IsNatural (limit : Nat) (text : List Char) (n : Nat) : Prop :=
  ∃ sign digits, text = sign ++ digits ∧ (sign = [] ∨ sign = ['+']) ∧ digits ≠ [] ∧
    (∀ d ∈ digits, CharClass.isAsciiDigit d = true) ∧ decimalNumber digits = n ∧ n ≤ limit

theorem exists_sign (text : List Char) :
    ∃ sign, text = sign ++ unsigned text ∧ (sign = [] ∨ sign = ['+']) := by
  unfold unsigned
  split
  · exact ⟨['+'], rfl, .inr rfl⟩
  · exact ⟨[], rfl, .inl rfl⟩

/-- A sign before digits is all that is taken away. -/
theorem unsigned_append {sign digits : List Char} (hsign : sign = [] ∨ sign = ['+'])
    (hdigits : ∀ d ∈ digits, CharClass.isAsciiDigit d = true) :
    unsigned (sign ++ digits) = digits := by
  rcases hsign with rfl | rfl
  · unfold unsigned
    split
    · rename_i rest heq
      rw [List.nil_append] at heq
      exact absurd (hdigits '+' (heq ▸ List.mem_cons_self)) (by decide)
    · rfl
  · rfl

theorem natural?_eq_some_iff {limit n : Nat} {text : List Char} :
    natural? limit text = some n ↔ IsNatural limit text n := by
  unfold natural?
  dsimp only
  constructor
  · intro h
    split at h
    · cases h
    · rename_i hdigits
      rw [Bool.or_eq_true, not_or, List.isEmpty_iff, Bool.not_eq_true', Bool.not_eq_false,
        List.all_eq_true] at hdigits
      obtain ⟨hlimit, hn⟩ := Option.ite_none_right_eq_some.mp h
      obtain rfl := Option.some.inj hn
      obtain ⟨sign, htext, hsign⟩ := exists_sign text
      exact ⟨sign, _, htext, hsign, hdigits.1, hdigits.2, rfl, hlimit⟩
  · rintro ⟨sign, digits, rfl, hsign, hne, hdigits, rfl, hlimit⟩
    have hall : digits.all CharClass.isAsciiDigit = true := List.all_eq_true.mpr hdigits
    have hempty : digits.isEmpty = false := by simpa using hne
    simp only [unsigned_append hsign hdigits, hall, hempty, Bool.not_true, Bool.or_false,
      Bool.false_eq_true, if_false, if_pos hlimit]

/-! ## 2. Writing -/

theorem hexValue?_digitChar : ∀ d < 16, hexValue? (Nat.digitChar d) = some d := by decide

theorem hexNumber?_concat {ds : List Char} {n : Nat} (h : hexNumber? ds = some n) {d : Nat}
    (hd : d < 16) : hexNumber? (ds ++ [Nat.digitChar d]) = some (16 * n + d) := by
  unfold hexNumber? at h ⊢
  rw [List.foldlM_append, h]
  simp [hexValue?_digitChar d hd]

/-- The digits of a number are those of its upper part, with the last one behind them. -/
theorem toDigits_mul_add {b m d : Nat} (hb : 1 < b) (hm : 0 < m) (hd : d < b) :
    Nat.toDigits b (b * m + d) = Nat.toDigits b m ++ [Nat.digitChar d] := by
  rw [← Nat.toDigits_append_toDigits hb hm hd, Nat.toDigits_of_lt_base hd]

/-- **A number in hexadecimal digits is read as itself.** -/
theorem hexNumber?_toDigits (n : Nat) : hexNumber? (Nat.toDigits 16 n) = some n := by
  induction n using Nat.base_induction 16 (by decide) with
  | single d hd =>
    rw [Nat.toDigits_of_lt_base hd]
    simp [hexNumber?, hexValue?_digitChar d hd]
  | digit m d hd hm ih =>
    rw [toDigits_mul_add (by decide) hm hd]
    exact hexNumber?_concat ih hd

theorem isSome_hexValue?_of_mem_toDigits {n : Nat} {c : Char} (h : c ∈ Nat.toDigits 16 n) :
    (hexValue? c).isSome = true := by
  have hdigit : ∀ d < 16, c = Nat.digitChar d → (hexValue? c).isSome = true := by
    rintro d hd rfl
    rw [hexValue?_digitChar d hd, Option.isSome_some]
  induction n using Nat.base_induction 16 (by decide) with
  | single d hd =>
    rw [Nat.toDigits_of_lt_base hd] at h
    exact hdigit d hd (List.mem_singleton.mp h)
  | digit m d hd hm ih =>
    rw [toDigits_mul_add (by decide) hm hd] at h
    rcases List.mem_append.mp h with h | h
    · exact ih h
    · exact hdigit d hd (List.mem_singleton.mp h)

theorem isAsciiDigit_of_mem_toDigits {n : Nat} {c : Char} (h : c ∈ Nat.toDigits 10 n) :
    CharClass.isAsciiDigit c = true :=
  Nat.isDigit_of_mem_toDigits (by decide) (by decide) h

/-- What is written in digits begins with one. -/
theorem exists_toDigits_eq_cons (n : Nat) :
    ∃ d ds, Nat.toDigits 10 n = d :: ds ∧ CharClass.isAsciiDigit d = true := by
  obtain ⟨d, ds, hds⟩ := List.exists_cons_of_ne_nil (Nat.toDigits_ne_nil (n := n) (b := 10))
  exact ⟨d, ds, hds, isAsciiDigit_of_mem_toDigits (hds ▸ List.mem_cons_self)⟩

/-- Only zero is written with a zero in front. -/
theorem eq_zero_of_head?_toDigits {n : Nat} (h : (Nat.toDigits 10 n).head? = some '0') :
    n = 0 := by
  induction n using Nat.base_induction 10 (by decide) with
  | single d hd =>
    rw [Nat.toDigits_of_lt_base hd, List.head?_singleton] at h
    exact Nat.digitChar_eq_zero.mp (Option.some.inj h)
  | digit m d hd hm ih =>
    rw [toDigits_mul_add (by decide) hm hd,
      List.head?_append_of_ne_nil _ Nat.toDigits_ne_nil] at h
    exact absurd (ih h) (Nat.ne_of_gt hm)

end Digits

end Highlighter
