/-
# Floating-point numbers

The pattern for floating-point numbers is a choice of four: digits around a dot, a digit with an
exponent, a digit with a suffix, and hexadecimal digits with an exponent (`float_eq`).

* It takes all of what has a dot (`float_prefers_dotted`) or is hexadecimal (`float_prefers_hex`).
  With digits behind the dot of a hexadecimal number, the first way to read them gets as far as the
  dot, and is given up only as no exponent comes there (`hexWhole_refuses`).
* It refuses what has neither a dot nor a `p` in it and nothing in the second place that begins an
  exponent or is a suffix (`float_refuses`).
* So without a dot it takes one digit before an exponent or a suffix (`float_prefers_digit`), and
  never more than one (`float_refuses_digits`).
-/
import Highlighter.Proofs.Shadow.Numerals

namespace Highlighter

namespace Shadow

open Pattern (many optional)

/-! ## 1. Patterns, and digits around a dot -/

/-- Digits around a dot. -/
def dottedDigits : Pattern :=
  .alt (.concat [.set digitSet, many digitTailSet, .char '.', optional (.group 2 digits)])
    (.seq (.char '.') digits)

def dottedFloat : Pattern :=
  .concat [.group 1 dottedDigits, optional (.group 3 exponent), floatSuffix]

/-- A digit with an exponent. -/
def scientificFloat : Pattern :=
  .concat [.set digitSet, oneOf "eE", sign, .set digitSet, many digitTailSet, floatSuffix]

/-- A digit with a suffix. -/
def suffixedFloat : Pattern :=
  .concat [.set digitSet, optional (.group 4 exponent), oneOf "fFdD"]

/-- Hexadecimal digits, perhaps with a dot after them. -/
def hexWhole : Pattern := .concat [.set hexSet, many hexTailSet, optional (.char '.')]

/-- Hexadecimal digits after a dot. -/
def hexFraction : Pattern :=
  .concat [optional (.group 6 hexDigits), .char '.', .set hexSet, many hexTailSet]

def hexFloat : Pattern :=
  marked "xX" (.concat [.group 5 (.alt hexWhole hexFraction), oneOf "pP", sign, .set digitSet,
    many digitTailSet, floatSuffix])

theorem float_eq : float = .alt dottedFloat (.alt scientificFloat (.alt suffixedFloat hexFloat)) :=
  rfl

section

variable {x : Char} {digits exponent suffix text after : List Char}

/-- No exponent in the second place. -/
theorem scientificFloat_refuses (h : ∀ c ∈ text.tail.head?, c ∉ "eE".toList) :
    scientificFloat.Refuses text := by
  cases text with
  | nil => exact (Pattern.refuses_set_nil _).seq _
  | cons c text => exact ((oneOf_refuses h).seq _).seq_set _ c

/-- Neither an exponent nor a suffix in the second place. -/
theorem suffixedFloat_refuses (he : ∀ c ∈ text.tail.head?, c ∉ "eE".toList)
    (hs : ∀ c ∈ text.tail.head?, c ∉ "fFdD".toList) : suffixedFloat.Refuses text := by
  cases text with
  | nil => exact (Pattern.refuses_set_nil _).seq _
  | cons c text =>
    have hexponent : (Pattern.group 4 exponent).Refuses text := ((oneOf_refuses he).seq _).group 4
    exact (hexponent.optional_seq (oneOf_refuses hs)).seq_set _ c

theorem dottedFloat_refuses (h : '.' ∉ text) : dottedFloat.Refuses text := by
  have hdot : (Pattern.char '.').Needs (· = '.') := Pattern.needs_char rfl
  have hneeds : dottedFloat.Needs (· = '.') :=
    .first (.group (.alt (.second (.second (.first hdot))) (.first hdot)))
  exact hneeds.refuses fun c hc hP => h (hP ▸ hc)

theorem hexFloat_refuses (h : ∀ c ∈ text, c ∉ "pP".toList) : hexFloat.Refuses text := by
  have hmark : (oneOf "pP").Needs (· ∈ "pP".toList) :=
    .set fun c hc => (CharSet.contains_unions_single _ c).mp hc
  have hneeds : hexFloat.Needs (· ∈ "pP".toList) := .second (.second (.second (.first hmark)))
  exact hneeds.refuses h

theorem mem_floatMarks {c : Char} (h : c ∈ "eE".toList ∨ c ∈ "fFdD".toList) :
    c ∈ "eEfFdD".toList :=
  List.mem_append.mpr h

/-- **What is no floating-point number**: a text without a dot and a `p` whose second character
begins neither an exponent nor a suffix. -/
theorem float_refuses (h : ∀ c ∈ text, c ∉ ".pP".toList)
    (hsecond : ∀ c ∈ text.tail.head?, c ∉ "eEfFdD".toList) : float.Refuses text := by
  have hdot : '.' ∉ text := fun hmem => h '.' hmem (by decide)
  have hp : ∀ c ∈ "pP".toList, c ∈ ".pP".toList := forall_of_all (by decide)
  have hmarks : ∀ c ∈ text.tail.head?, c ∉ "eE".toList := fun c hc hmem =>
    hsecond c hc (mem_floatMarks (Or.inl hmem))
  rw [float_eq]
  refine (dottedFloat_refuses hdot).alt ((scientificFloat_refuses hmarks).alt
    ((suffixedFloat_refuses hmarks ?_).alt (hexFloat_refuses ?_)))
  · exact fun c hc hmem => hsecond c hc (mem_floatMarks (Or.inr hmem))
  · exact fun c hc hmem => h c hc (hp c hmem)

/-- What goes on with no row of digits begins with no digit. -/
theorem digits_refuses (hafter : ∀ c ∈ after.head?, digitTailSet.contains c = false) :
    Shadow.digits.Refuses after := by
  refine Pattern.refuses_of_mayBegin rfl fun c hc => ?_
  have hor := hafter c hc
  rw [digitTailSet, CharSet.contains_union, Bool.or_eq_false_iff] at hor
  exact Bool.or_eq_false_iff.mpr ⟨hor.1, rfl⟩

/-- **Digits around a dot are taken**, if what follows cannot go on with them. -/
theorem IsDotted.prefers (h : IsDotted decimal digits)
    (hafter : ∀ c ∈ after.head?, digitTailSet.contains c = false) :
    dottedDigits.Prefers digits after := by
  obtain ⟨whole, fraction, rfl, hwhole, hfraction, hne⟩ := h
  have hdot : ∀ c ∈ ('.' :: (fraction ++ after)).head?, digitTailSet.contains c = false :=
    forall_head?_cons (by decide)
  rcases hwhole with rfl | hwhole
  · have hpart := hfraction.resolve_left (hne.resolve_left (not_not_intro rfl))
    exact ((Pattern.prefers_char '.' _).seq (hpart.prefers_digits hafter)).alt_right
      ((Pattern.refuses_set_cons (by decide) _).seq _)
  · have hoptional : (optional (.group 2 Shadow.digits)).Prefers fraction after := by
      rcases hfraction with rfl | hfraction
      · exact ((digits_refuses hafter).group 2).optional
      · exact ((hfraction.prefers_digits hafter).group 2).optional
    have hseq := (hwhole.prefers_digits hdot).seq ((Pattern.prefers_char '.' _).seq hoptional)
    refine (hseq.congr fun α p next => ?_).alt_left _
    simp only [Shadow.digits, Pattern.concat, Pattern.find_seq]

/-- An exponent or a suffix begins with its mark. -/
theorem head?_mark (hexponent : exponent = [] ∨ IsExponent "eE" exponent)
    (hsuffix : IsOptional "fFdD" suffix) :
    ∀ c ∈ (exponent ++ suffix).head?, c ∈ "eEfFdD".toList := by
  refine forall_head?_append ?_ ?_
  · rcases hexponent with rfl | hexponent
    · exact forall_head?_nil
    · exact fun c hc => mem_floatMarks (Or.inl (hexponent.head?_mem c hc))
  · exact forall_head?_of_forall_mem fun c hc =>
      mem_floatMarks (Or.inr (hsuffix.forall_mem c hc))

/-- The mark of an exponent or a suffix goes on with no row of digits. -/
theorem head?_not_digit (hexponent : exponent = [] ∨ IsExponent "eE" exponent)
    (hsuffix : IsOptional "fFdD" suffix) :
    ∀ c ∈ (exponent ++ suffix).head?, digitTailSet.contains c = false := by
  have hmarks : ∀ c ∈ "eEfFdD".toList, digitTailSet.contains c = false := forall_of_all (by decide)
  exact fun c hc => hmarks c (head?_mark hexponent hsuffix c hc)

/-- A suffix begins no exponent. -/
theorem head?_not_exponent (hsuffix : IsOptional "fFdD" suffix) :
    ∀ c ∈ suffix.head?, c ∉ "eE".toList := by
  have hmarks : ∀ c ∈ "fFdD".toList, c ∉ "eE".toList := forall_of_all (by decide)
  exact forall_head?_of_forall_mem fun c hc => hmarks c (hsuffix.forall_mem c hc)

theorem float_prefers_dotted (hdigits : IsDotted decimal digits)
    (hexponent : exponent = [] ∨ IsExponent "eE" exponent) (hsuffix : IsOptional "fFdD" suffix) :
    float.Prefers (digits ++ (exponent ++ suffix)) [] := by
  have hdigit := head?_not_digit hexponent hsuffix
  have hsuffixDigit := head?_not_digit (Or.inl rfl) hsuffix
  have hoptional : (optional (.group 3 Shadow.exponent)).Prefers exponent (suffix ++ []) := by
    rw [List.append_nil]
    rcases hexponent with rfl | hexponent
    · exact (((oneOf_refuses (head?_not_exponent hsuffix)).seq _).group 3).optional
    · exact ((hexponent.prefers hsuffixDigit).group 3).optional
  have hdotted : dottedDigits.Prefers digits (exponent ++ suffix ++ []) :=
    hdigits.prefers (by rwa [List.append_nil])
  exact ((hdotted.group 1).seq (hoptional.seq (hsuffix.prefers forall_head?_nil))).alt_left _

/-! ## 2. Hexadecimal floating-point numbers -/

/-- What comes after the digits of a hexadecimal floating-point number. -/
def hexEnd : Pattern := .seq (exponentOf "pP") floatSuffix

theorem hexEnd_prefers (hexponent : IsExponent "pP" exponent) (hsuffix : IsOptional "fFdD" suffix) :
    hexEnd.Prefers (exponent ++ suffix) [] := by
  have hdigit := head?_not_digit (Or.inl rfl) hsuffix
  exact (hexponent.prefers (by rwa [List.append_nil])).seq
    (hsuffix.prefers forall_head?_nil)

/-- Digits and a dot, or no dot, after which there are no more digits. -/
theorem hexWhole_prefers {dot : List Char} (hdigits : IsPart hexadecimal digits)
    (hdot : (optional (.char '.')).Prefers dot after)
    (hafter : ∀ c ∈ (dot ++ after).head?, hexTailSet.contains c = false) :
    hexWhole.Prefers (digits ++ dot) after := by
  refine ((hdigits.prefers_hexDigits hafter).seq hdot).congr fun α p next => ?_
  simp only [hexWhole, hexDigits, Pattern.concat, Pattern.find_seq]

theorem hexFraction_prefers {whole fraction : List Char}
    (hwhole : whole = [] ∨ IsPart hexadecimal whole) (hfraction : IsPart hexadecimal fraction)
    (hafter : ∀ c ∈ after.head?, hexTailSet.contains c = false) :
    hexFraction.Prefers (whole ++ '.' :: fraction) after := by
  have hoptional : (optional (.group 6 hexDigits)).Prefers whole ('.' :: fraction ++ after) := by
    rcases hwhole with rfl | hwhole
    · exact (((Pattern.refuses_set_cons (by decide) _).seq _).group 6).optional
    · refine ((hwhole.prefers_hexDigits ?_).group 6).optional
      exact forall_head?_cons (by decide)
  exact hoptional.seq ((Pattern.prefers_char '.' _).seq (hfraction.prefers_hexDigits hafter))

/-- **With digits behind the dot, the first way to read the digits comes to nothing**, as no
exponent follows the dot. -/
theorem hexWhole_refuses {whole fraction : List Char}
    (hwhole : whole = [] ∨ IsPart hexadecimal whole) (hfraction : IsPart hexadecimal fraction)
    (after : List Char) :
    (Pattern.seq hexWhole hexEnd).Refuses (whole ++ '.' :: (fraction ++ after)) := by
  rcases hwhole with rfl | ⟨digit, more, rfl, -, hmore⟩
  · exact ((Pattern.refuses_set_cons (by decide) _).seq _).seq _
  · have hbegin : ∀ c ∈ '_' :: hexadecimal,
        (Pattern.seq (optional (.char '.')) hexEnd).mayBegin c = false := forall_of_all (by decide)
    have hexponent : ∀ c ∈ hexadecimal, c ∉ "pP".toList := forall_of_all (by decide)
    have hfraction : hexEnd.Refuses (fraction ++ after) := by
      obtain ⟨c, fraction, rfl, hc, -⟩ := hfraction
      exact ((oneOf_refuses (forall_head?_cons (hexponent c hc))).seq _).seq _
    -- Behind the dot there is a digit, and without the dot, the dot: no exponent in either case.
    have hdot : (Pattern.seq (optional (.char '.')) hexEnd).Refuses
        ('.' :: (fraction ++ after)) := by
      have hstop : hexEnd.Refuses ('.' :: (fraction ++ after)) :=
        ((oneOf_refuses (forall_head?_cons (by decide))).seq _).seq _
      refine ((hfraction.seq_set (.single '.') '.').alt hstop).congr fun α p next => ?_
      simp only [Pattern.char, Pattern.find_seq, Pattern.find_optional, Pattern.find_alt]
    -- With fewer digits, a digit comes where a dot or an exponent has to.
    have hmany : (Pattern.seq (many hexTailSet) (.seq (optional (.char '.')) hexEnd)).Refuses
        (more ++ '.' :: (fraction ++ after)) :=
      Pattern.refuses_seq_many rfl (forall_of_digits hmore hbegin) (forall_head?_cons (by decide))
        hdot
    refine (hmany.seq_set hexSet digit).congr fun α p next => ?_
    simp only [hexWhole, Pattern.concat, Pattern.find_seq]

/-- **The digits of a hexadecimal floating-point number are taken** before its exponent. -/
theorem hexDigits_prefers (hdigits : IsPart hexadecimal digits ∨ IsDotted hexadecimal digits)
    (hend : hexEnd.Prefers text []) (hmark : ∀ c ∈ text.head?, c ∈ "pP".toList) :
    (Pattern.seq (.alt hexWhole hexFraction) hexEnd).Prefers (digits ++ text) [] := by
  have hdigit : ∀ c ∈ "pP".toList, hexTailSet.contains c = false := forall_of_all (by decide)
  have hafter : ∀ c ∈ (text ++ []).head?, hexTailSet.contains c = false := by
    rw [List.append_nil]
    exact fun c hc => hdigit c (hmark c hc)
  rcases hdigits with hdigits | ⟨whole, fraction, rfl, hwhole, hfraction, hne⟩
  · have hnone : (optional (.char '.')).Prefers [] (text ++ []) := by
      refine (Pattern.refuses_of_mayBegin rfl fun c hc => ?_).optional
      have hdot : ∀ c ∈ "pP".toList, (Pattern.char '.').mayBegin c = false :=
        forall_of_all (by decide)
      rw [List.append_nil] at hc
      exact hdot c (hmark c hc)
    have hpart := hexWhole_prefers hdigits hnone hafter
    rw [List.append_nil] at hpart
    exact (hpart.alt_left _).seq hend
  · rcases hfraction with rfl | hfraction
    · have hpart := hwhole.resolve_left (hne.resolve_right (not_not_intro rfl))
      have hdot : (optional (.char '.')).Prefers ['.'] (text ++ []) :=
        (Pattern.prefers_char '.' _).optional
      exact ((hexWhole_prefers hpart hdot
        (forall_head?_cons (by decide))).alt_left _).seq hend
    · have hrefuses := hexWhole_refuses hwhole hfraction (text ++ [])
      rw [← List.cons_append, ← List.append_assoc, ← List.append_assoc] at hrefuses
      refine (((hexFraction_prefers hwhole hfraction hafter).seq hend).alt_right hrefuses).congr
        fun α p next => ?_
      simp only [Pattern.find_seq, Pattern.find_alt]

theorem hexFloat_prefers (hx : x ∈ "xX".toList)
    (hdigits : IsPart hexadecimal digits ∨ IsDotted hexadecimal digits)
    (hexponent : IsExponent "pP" exponent) (hsuffix : IsOptional "fFdD" suffix) :
    hexFloat.Prefers ('0' :: x :: (digits ++ (exponent ++ suffix))) [] := by
  have hmark : ∀ c ∈ (exponent ++ suffix).head?, c ∈ "pP".toList := by
    obtain ⟨mark, sign, digits, rfl, hmark, -, -⟩ := hexponent
    exact forall_head?_cons hmark
  have hbody := hexDigits_prefers hdigits (hexEnd_prefers hexponent hsuffix) hmark
  refine (marked_prefers hx hbody).congr fun α p next => ?_
  simp only [hexFloat, marked, hexEnd, exponentOf, Shadow.digits, Pattern.concat, Pattern.find_seq,
    Pattern.find_group]

/-- A hexadecimal number is read as such only by the last way to read a floating-point number. -/
theorem float_prefers_hex (hx : x ∈ "xX".toList) (hhex : hexFloat.Prefers ('0' :: x :: text) []) :
    float.Prefers ('0' :: x :: text) [] := by
  have hdotted : ∀ x ∈ "xX".toList, (Pattern.concat [many digitTailSet, .char '.',
      optional (.group 2 Shadow.digits)]).mayBegin x = false := forall_of_all (by decide)
  have he : ∀ x ∈ "xX".toList, x ∉ "eE".toList := forall_of_all (by decide)
  have hs : ∀ x ∈ "xX".toList, x ∉ "fFdD".toList := forall_of_all (by decide)
  have hdigits : dottedDigits.Refuses ('0' :: x :: text ++ []) := by
    refine .alt ?_ ((Pattern.refuses_char (by decide) _).seq _)
    exact (Pattern.refuses_of_mayBegin rfl (forall_head?_cons (hdotted x hx))).seq_set digitSet '0'
  rw [float_eq]
  refine ((hhex.alt_right ?_).alt_right ?_).alt_right ((hdigits.group 1).seq _)
  · exact suffixedFloat_refuses (forall_head?_cons (he x hx))
      (forall_head?_cons (hs x hx))
  · exact scientificFloat_refuses (forall_head?_cons (he x hx))

/-! ## 3. Floating-point numbers without a dot -/

theorem forall_mem_undotted (hdigits : IsPart decimal digits)
    (hexponent : exponent = [] ∨ IsExponent "eE" exponent) (hsuffix : IsOptional "fFdD" suffix) :
    ∀ c ∈ digits ++ (exponent ++ suffix), c ∉ ".pP".toList := by
  have hdecimal : ∀ c ∈ '_' :: decimal, c ∉ ".pP".toList := forall_of_all (by decide)
  have hmarks : ∀ c ∈ "eE".toList, c ∉ ".pP".toList := forall_of_all (by decide)
  have hsigns : ∀ c ∈ "+-".toList, c ∉ ".pP".toList := forall_of_all (by decide)
  have hsuffixes : ∀ c ∈ "fFdD".toList, c ∉ ".pP".toList := forall_of_all (by decide)
  refine List.forall_mem_append.mpr ⟨forall_of_digits hdigits.forall_mem hdecimal,
    List.forall_mem_append.mpr ⟨?_, ?_⟩⟩
  · rcases hexponent with rfl | hexponent
    · exact List.forall_mem_nil _
    · intro c hc
      rcases hexponent.forall_mem c hc with hc | hc | hc | rfl
      · exact hmarks c hc
      · exact hsigns c hc
      · exact hdecimal c (List.mem_cons_of_mem _ hc)
      · exact hdecimal '_' List.mem_cons_self
  · exact fun c hc => hsuffixes c (hsuffix.forall_mem c hc)

/-- **A single digit with an exponent or a suffix** is a floating-point number. -/
theorem float_prefers_digit {digit : Char} (hdigit : digit ∈ decimal)
    (hexponent : exponent = [] ∨ IsExponent "eE" exponent) (hsuffix : IsOptional "fFdD" suffix)
    (hne : exponent ++ suffix ≠ []) : float.Prefers (digit :: (exponent ++ suffix)) [] := by
  have hset := contains_digitSet digit hdigit
  have hdot : '.' ∉ digit :: (exponent ++ suffix) ++ [] := by
    rw [List.append_nil]
    have hpart : IsPart decimal [digit] := ⟨digit, [], rfl, hdigit, List.forall_mem_nil _⟩
    exact fun hmem => forall_mem_undotted hpart hexponent hsuffix '.' hmem (by decide)
  rw [float_eq]
  refine Pattern.Prefers.alt_right ?_ (dottedFloat_refuses hdot)
  rcases hexponent with rfl | hexponent
  · have hsecond := head?_not_exponent hsuffix
    obtain ⟨mark, hmark, rfl⟩ := hsuffix.resolve_left hne
    have hnone : (optional (.group 4 Shadow.exponent)).Prefers [] ([mark] ++ []) :=
      (((oneOf_refuses hsecond).seq _).group 4).optional
    exact (((Pattern.prefers_set hset _).seq
      (hnone.seq (oneOf_prefers hmark _))).alt_left _).alt_right (scientificFloat_refuses hsecond)
  · have hdigit := head?_not_digit (Or.inl rfl) hsuffix
    have hscientific := (Pattern.prefers_set hset _).seq
      ((hexponent.prefers (by rwa [List.append_nil])).seq
        (hsuffix.prefers forall_head?_nil))
    refine (hscientific.congr fun α p next => ?_).alt_left _
    simp only [scientificFloat, exponentOf, Shadow.digits, floatSuffix, Pattern.concat,
      Pattern.find_seq]

/-- The second of several digits is a digit or an underscore. -/
theorem IsPart.tail_head?_mem (hdigits : IsPart decimal digits) (hlength : 1 < digits.length)
    (after : List Char) : ∀ c ∈ (digits ++ after).tail.head?, c ∈ '_' :: decimal := by
  have hmem := forall_of_digits hdigits.forall_mem fun _ hc => hc
  rcases digits with - | ⟨digit, - | ⟨second, more⟩⟩
  · cases hlength
  · exact absurd hlength (Nat.lt_irrefl 1)
  · intro c hc
    obtain rfl := Option.some.inj hc
    exact hmem second (List.mem_cons_of_mem _ List.mem_cons_self)

/-- **More digits are no floating-point number without a dot**, whatever comes after them. -/
theorem float_refuses_digits (hdigits : IsPart decimal digits) (hlength : 1 < digits.length)
    (hexponent : exponent = [] ∨ IsExponent "eE" exponent) (hsuffix : IsOptional "fFdD" suffix) :
    float.Refuses (digits ++ (exponent ++ suffix)) := by
  have hdecimal : ∀ c ∈ '_' :: decimal, c ∉ "eEfFdD".toList := forall_of_all (by decide)
  exact float_refuses (forall_mem_undotted hdigits hexponent hsuffix)
    fun c hc => hdecimal c (hdigits.tail_head?_mem hlength _ c hc)

end

end Shadow

end Highlighter
