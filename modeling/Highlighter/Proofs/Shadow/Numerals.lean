/-
# Numerals

The forms that numbers have (`IsNumeral`), part by part, and what the patterns for the parts make of
them.  A part of a number is a digit with digits and underscores after it (`IsPart`); what a pattern
takes of it is all of it, as long as what follows cannot go on with it (`IsPart.prefers`), and a
whole number is taken with its suffixes (`wholePart_prefers`).
-/
import Highlighter.Proofs.Shadow.Steps

namespace Highlighter

namespace Shadow

open Pattern (many many1 optional)

/-! ## 1. Forms -/

def binary : List Char := "01".toList

def octal : List Char := "01234567".toList

def decimal : List Char := "0123456789".toList

def hexadecimal : List Char := "0123456789abcdefABCDEF".toList

/-- A digit, and then digits and underscores. -/
def IsPart (digits text : List Char) : Prop :=
  ∃ digit more, text = digit :: more ∧ digit ∈ digits ∧ ∀ c ∈ more, c ∈ digits ∨ c = '_'

/-- Nothing, or one of the marks. -/
def IsOptional (marks : String) (text : List Char) : Prop :=
  text = [] ∨ ∃ mark ∈ marks.toList, text = [mark]

/-- The suffixes of a whole number. -/
def IsWholeSuffix (text : List Char) : Prop :=
  ∃ long unsigned, text = long ++ unsigned ∧ IsOptional "lL" long ∧ IsOptional "uU" unsigned

/-- A mark, perhaps a sign, and decimal digits. -/
def IsExponent (marks : String) (text : List Char) : Prop :=
  ∃ mark sign digits, text = mark :: (sign ++ digits) ∧ mark ∈ marks.toList ∧
    IsOptional "+-" sign ∧ IsPart decimal digits

/-- Parts around a dot, of which one may be missing. -/
def IsDotted (digits text : List Char) : Prop :=
  ∃ whole fraction, text = whole ++ '.' :: fraction ∧ (whole = [] ∨ IsPart digits whole) ∧
    (fraction = [] ∨ IsPart digits fraction) ∧ (whole ≠ [] ∨ fraction ≠ [])

/-- The numerals, with the kinds of their tokens. -/
inductive IsNumeral : Kind → List Char → Prop where
  | hex {x : Char} {digits suffix : List Char} (hx : x ∈ "xX".toList)
      (hdigits : IsPart hexadecimal digits) (hsuffix : IsWholeSuffix suffix) :
      IsNumeral .numberHex ('0' :: x :: (digits ++ suffix))
  | bin {b : Char} {digits suffix : List Char} (hb : b ∈ "bB".toList)
      (hdigits : IsPart binary digits) (hsuffix : IsWholeSuffix suffix) :
      IsNumeral .numberBin ('0' :: b :: (digits ++ suffix))
  /-- The digits of an octal numeral may begin with an underscore. -/
  | oct {c : Char} {digits suffix : List Char} (hc : c ∈ "cC".toList) (hne : digits ≠ [])
      (hdigits : ∀ d ∈ digits, d ∈ octal ∨ d = '_') (hsuffix : IsWholeSuffix suffix) :
      IsNumeral .numberOct ('0' :: c :: (digits ++ suffix))
  | zero : IsNumeral .numberInteger ['0']
  | integer {digits suffix : List Char} (hdigits : IsPart decimal digits)
      (hzero : digits.head? ≠ some '0') (hsuffix : IsWholeSuffix suffix) :
      IsNumeral .numberInteger (digits ++ suffix)
  | float {digits exponent suffix : List Char} (hdigits : IsDotted decimal digits)
      (hexponent : exponent = [] ∨ IsExponent "eE" exponent)
      (hsuffix : IsOptional "fFdD" suffix) :
      IsNumeral .numberFloat (digits ++ (exponent ++ suffix))
  | hexFloat {x : Char} {digits exponent suffix : List Char} (hx : x ∈ "xX".toList)
      (hdigits : IsPart hexadecimal digits ∨ IsDotted hexadecimal digits)
      (hexponent : IsExponent "pP" exponent) (hsuffix : IsOptional "fFdD" suffix) :
      IsNumeral .numberFloat ('0' :: x :: (digits ++ (exponent ++ suffix)))

/-! ## 2. The characters of the forms -/

section

/-- What a check of a list finds.  Deciding the statement itself may run through all characters. -/
theorem forall_of_all {P : Char → Prop} [DecidablePred P] {list : List Char}
    (h : list.all (fun c => decide (P c)) = true) : ∀ c ∈ list, P c :=
  fun c hc => of_decide_eq_true (List.all_eq_true.mp h c hc)

variable {digits text : List Char} {marks : String}

/-- What holds of the digits and the underscore holds of a text of them. -/
theorem forall_of_digits {P : Char → Prop} (htext : ∀ c ∈ text, c ∈ digits ∨ c = '_')
    (hP : ∀ c ∈ '_' :: digits, P c) : ∀ c ∈ text, P c := by
  intro c hc
  rcases htext c hc with hc | rfl
  · exact hP c (List.mem_cons_of_mem _ hc)
  · exact hP '_' List.mem_cons_self

theorem IsPart.forall_mem (h : IsPart digits text) : ∀ c ∈ text, c ∈ digits ∨ c = '_' := by
  obtain ⟨digit, more, rfl, hdigit, hmore⟩ := h
  exact List.forall_mem_cons.mpr ⟨Or.inl hdigit, hmore⟩

theorem IsPart.head?_mem (h : IsPart digits text) : ∀ c ∈ text.head?, c ∈ digits := by
  obtain ⟨digit, more, rfl, hdigit, -⟩ := h
  exact forall_head?_cons hdigit

theorem IsPart.ne_nil (h : IsPart digits text) : text ≠ [] := by
  obtain ⟨digit, more, rfl, -, -⟩ := h
  exact List.cons_ne_nil digit more

theorem IsOptional.forall_mem (h : IsOptional marks text) : ∀ c ∈ text, c ∈ marks.toList := by
  rcases h with rfl | ⟨mark, hmark, rfl⟩
  · exact List.forall_mem_nil _
  · exact List.forall_mem_singleton.mpr hmark

theorem mem_wholeMarks {c : Char} (h : c ∈ "lL".toList ∨ c ∈ "uU".toList) :
    c ∈ "lLuU".toList :=
  List.mem_append.mpr h

theorem IsWholeSuffix.forall_mem (h : IsWholeSuffix text) : ∀ c ∈ text, c ∈ "lLuU".toList := by
  obtain ⟨long, unsigned, rfl, hlong, hunsigned⟩ := h
  exact List.forall_mem_append.mpr ⟨fun c hc => mem_wholeMarks (Or.inl (hlong.forall_mem c hc)),
    fun c hc => mem_wholeMarks (Or.inr (hunsigned.forall_mem c hc))⟩

theorem IsExponent.forall_mem (h : IsExponent marks text) :
    ∀ c ∈ text, c ∈ marks.toList ∨ c ∈ "+-".toList ∨ c ∈ decimal ∨ c = '_' := by
  obtain ⟨mark, sign, digits, rfl, hmark, hsign, hdigits⟩ := h
  refine List.forall_mem_cons.mpr ⟨Or.inl hmark, List.forall_mem_append.mpr ⟨?_, ?_⟩⟩
  · exact fun c hc => Or.inr (Or.inl (hsign.forall_mem c hc))
  · exact fun c hc => Or.inr (Or.inr (hdigits.forall_mem c hc))

theorem IsExponent.head?_mem (h : IsExponent marks text) : ∀ c ∈ text.head?, c ∈ marks.toList := by
  obtain ⟨mark, sign, digits, rfl, hmark, -, -⟩ := h
  exact forall_head?_cons hmark

end

/-! ## 3. What the patterns of the parts make of them -/

section

variable {list text after : List Char} {marks : String}

theorem oneOf_prefers {c : Char} (h : c ∈ marks.toList) (after : List Char) :
    (oneOf marks).Prefers [c] after :=
  Pattern.prefers_set ((CharSet.contains_unions_single _ c).mpr h) after

theorem oneOf_refuses (h : ∀ c ∈ text.head?, c ∉ marks.toList) : (oneOf marks).Refuses text := by
  refine Pattern.refuses_of_mayBegin rfl fun c hc => Bool.eq_false_iff.mpr fun hmem => ?_
  exact h c hc ((CharSet.contains_unions_single _ c).mp hmem)

theorem IsOptional.prefers (h : IsOptional marks text)
    (hafter : ∀ c ∈ after.head?, c ∉ marks.toList) :
    (optional (oneOf marks)).Prefers text after := by
  rcases h with rfl | ⟨mark, hmark, rfl⟩
  · exact (oneOf_refuses hafter).optional
  · exact (oneOf_prefers hmark after).optional

/-- **All of a part is taken**, if what follows cannot go on with it. -/
theorem IsPart.prefers (h : IsPart list text) {first tail : CharSet}
    (hfirst : ∀ c ∈ text.head?, first.contains c = true)
    (htail : ∀ c ∈ '_' :: list, tail.contains c = true)
    (hafter : ∀ c ∈ after.head?, tail.contains c = false) :
    (Pattern.seq (.set first) (many tail)).Prefers text after := by
  obtain ⟨digit, more, rfl, -, hmore⟩ := h
  exact (Pattern.prefers_set (hfirst digit rfl) _).seq
    (Pattern.prefers_many (forall_of_digits hmore htail) hafter)

theorem contains_digitSet : ∀ c ∈ decimal, digitSet.contains c = true :=
  forall_of_all (by decide)

theorem contains_hexSet : ∀ c ∈ hexadecimal, hexSet.contains c = true :=
  forall_of_all (by decide)

theorem IsPart.prefers_digits (h : IsPart decimal text)
    (hafter : ∀ c ∈ after.head?, digitTailSet.contains c = false) :
    digits.Prefers text after :=
  h.prefers (fun c hc => contains_digitSet c (h.head?_mem c hc)) (forall_of_all (by decide)) hafter

theorem IsPart.prefers_hexDigits (h : IsPart hexadecimal text)
    (hafter : ∀ c ∈ after.head?, hexTailSet.contains c = false) :
    hexDigits.Prefers text after :=
  h.prefers (fun c hc => contains_hexSet c (h.head?_mem c hc)) (forall_of_all (by decide)) hafter

/-- The suffixes of a whole number. -/
def wholeSuffix : Pattern := .seq (optional (oneOf "lL")) (optional (oneOf "uU"))

theorem IsWholeSuffix.prefers (h : IsWholeSuffix text)
    (hafter : ∀ c ∈ after.head?, c ∉ "lLuU".toList) : wholeSuffix.Prefers text after := by
  obtain ⟨long, unsigned, rfl, hlong, hunsigned⟩ := h
  have hother : ∀ c ∈ "uU".toList, c ∉ "lL".toList := forall_of_all (by decide)
  refine (hlong.prefers (forall_head?_append ?_ ?_)).seq (hunsigned.prefers ?_)
  · exact forall_head?_of_forall_mem fun c hc => hother c (hunsigned.forall_mem c hc)
  · exact fun c hc hmem => hafter c hc (mem_wholeMarks (Or.inl hmem))
  · exact fun c hc hmem => hafter c hc (mem_wholeMarks (Or.inr hmem))

/-- An exponent that begins with one of the marks. -/
def exponentOf (marks : String) : Pattern := .seq (oneOf marks) (.seq sign digits)

theorem IsExponent.prefers (h : IsExponent marks text)
    (hafter : ∀ c ∈ after.head?, digitTailSet.contains c = false) :
    (exponentOf marks).Prefers text after := by
  obtain ⟨mark, sign, digits, rfl, hmark, hsign, hdigits⟩ := h
  have hdecimal : ∀ c ∈ decimal, c ∉ "+-".toList := forall_of_all (by decide)
  have hdigit : ∀ c ∈ (digits ++ after).head?, c ∉ "+-".toList := by
    obtain ⟨digit, more, rfl, hdigit, -⟩ := hdigits
    exact forall_head?_cons (hdecimal digit hdigit)
  exact (oneOf_prefers hmark _).seq
    ((hsign.prefers hdigit).seq (hdigits.prefers_digits hafter))

end

/-! ## 4. Whole numbers -/

/-- A zero and a mark before something else. -/
def marked (marks : String) (a : Pattern) : Pattern := .seq (.char '0') (.seq (oneOf marks) a)

/-- A part of a number with its suffixes. -/
def wholePart (first tail : CharSet) : Pattern := whole [.set first, many tail]

def octTailSet : CharSet := .union (.range '0' '7') (.single '_')

def hexNumber : Pattern := marked "xX" (wholePart hexSet hexTailSet)

def binNumber : Pattern :=
  marked "bB" (wholePart (.unions ("01".toList.map .single))
    (.unions [.single '0', .single '1', .single '_']))

def octNumber : Pattern := marked "cC" (whole [many1 octTailSet])

def integer : Pattern := .alt (.char '0') (wholePart (.range '1' '9') digitTailSet)

section

variable {marks : String} {a : Pattern} {x : Char} {digits suffix text after : List Char}

theorem marked_prefers (hx : x ∈ marks.toList) (ha : a.Prefers text after) :
    (marked marks a).Prefers ('0' :: x :: text) after :=
  (Pattern.prefers_char '0' _).seq ((oneOf_prefers hx _).seq ha)

theorem marked_refuses (h : ∀ x ∈ text.tail.head?, x ∉ marks.toList) :
    (marked marks a).Refuses text := by
  cases text with
  | nil => exact (Pattern.refuses_set_nil _).seq _
  | cons c text => exact ((oneOf_refuses h).seq a).seq_set _ c

/-- **A part of a number is taken with its suffixes**, if what follows cannot go on with them. -/
theorem wholePart_prefers {list : List Char} {first tail : CharSet}
    (hdigits : IsPart list digits) (hfirst : ∀ c ∈ digits.head?, first.contains c = true)
    (htail : ∀ c ∈ '_' :: list, tail.contains c = true) (hsuffix : IsWholeSuffix suffix)
    (hend : ∀ c ∈ "lLuU".toList, tail.contains c = false)
    (hafter : ∀ c ∈ after.head?, tail.contains c = false ∧ c ∉ "lLuU".toList) :
    (wholePart first tail).Prefers (digits ++ suffix) after := by
  have hhead : ∀ c ∈ (suffix ++ after).head?, tail.contains c = false := by
    refine forall_head?_append ?_ fun c hc => (hafter c hc).1
    exact forall_head?_of_forall_mem fun c hc => hend c (hsuffix.forall_mem c hc)
  refine ((hdigits.prefers hfirst htail hhead).seq
    (hsuffix.prefers fun c hc => (hafter c hc).2)).congr fun α p next => ?_
  simp only [wholePart, whole, wholeSuffix, Pattern.concat, List.cons_append, List.nil_append,
    Pattern.find_seq]

theorem hexNumber_prefers (hx : x ∈ "xX".toList) (hdigits : IsPart hexadecimal digits)
    (hsuffix : IsWholeSuffix suffix) :
    hexNumber.Prefers ('0' :: x :: (digits ++ suffix)) [] :=
  marked_prefers hx (wholePart_prefers hdigits
    (fun c hc => contains_hexSet c (hdigits.head?_mem c hc))
    (forall_of_all (by decide)) hsuffix (forall_of_all (by decide))
    forall_head?_nil)

theorem binNumber_prefers (hx : x ∈ "bB".toList) (hdigits : IsPart binary digits)
    (hsuffix : IsWholeSuffix suffix) :
    binNumber.Prefers ('0' :: x :: (digits ++ suffix)) [] := by
  have hfirst : ∀ c ∈ binary,
      (CharSet.unions ("01".toList.map .single)).contains c = true := forall_of_all (by decide)
  exact marked_prefers hx (wholePart_prefers hdigits
    (fun c hc => hfirst c (hdigits.head?_mem c hc))
    (forall_of_all (by decide)) hsuffix (forall_of_all (by decide))
    forall_head?_nil)

theorem octNumber_prefers (hx : x ∈ "cC".toList) (hne : digits ≠ [])
    (hdigits : ∀ c ∈ digits, c ∈ octal ∨ c = '_') (hsuffix : IsWholeSuffix suffix) :
    octNumber.Prefers ('0' :: x :: (digits ++ suffix)) [] := by
  have hoctal : ∀ c ∈ '_' :: octal, octTailSet.contains c = true := forall_of_all (by decide)
  have hend : ∀ c ∈ "lLuU".toList, octTailSet.contains c = false := forall_of_all (by decide)
  have hmany : (many1 octTailSet).Prefers digits (suffix ++ []) := by
    refine Pattern.prefers_many1 hne (forall_of_digits hdigits hoctal) ?_
    rw [List.append_nil]
    exact forall_head?_of_forall_mem fun c hc => hend c (hsuffix.forall_mem c hc)
  exact marked_prefers hx (hmany.seq (hsuffix.prefers forall_head?_nil))

/-- A number that does not begin with a zero. -/
theorem integer_prefers (hdigits : IsPart decimal digits) (hzero : digits.head? ≠ some '0')
    (hsuffix : IsWholeSuffix suffix)
    (hafter : ∀ c ∈ after.head?, digitTailSet.contains c = false ∧ c ∉ "lLuU".toList) :
    integer.Prefers (digits ++ suffix) after := by
  have hnonzero : ∀ c ∈ decimal, c ≠ '0' → (CharSet.range '1' '9').contains c = true :=
    forall_of_all (by decide)
  have hne : ∀ c ∈ digits.head?, c ≠ '0' := by
    rintro c hc rfl
    exact hzero hc
  refine (wholePart_prefers hdigits (fun c hc => ?_)
    (forall_of_all (by decide)) hsuffix (forall_of_all (by decide))
    hafter).alt_right ?_
  · exact hnonzero c (hdigits.head?_mem c hc) (hne c hc)
  · obtain ⟨digit, more, rfl, -, -⟩ := hdigits
    exact Pattern.refuses_char (hne digit rfl) _

end

end Shadow

end Highlighter
