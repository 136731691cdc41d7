/-
# Numbers

**Every numeral is one token** (`tokenize_numeral`), of the kind that its form has.  The rules for
numbers are tried one after the other, the one for floating-point numbers first, so of each form it
has to be said that the rules before its own refuse it; no rule before those for numbers begins with
a digit, or with a dot and a digit (`refuses_before_numbers`).

A floating-point number without a dot is one token only if it has a single digit before its exponent
or suffix; of more digits the rule for integers takes what it can (`tokenize_undotted`).
-/
import Highlighter.Proofs.Shadow.Floats

namespace Highlighter

namespace Shadow

/-! ## 1. The rules for numbers -/

/-- The text begins with a digit, or with a dot and a digit. -/
def BeginsNumber (text : List Char) : Prop :=
  ∃ digit more, digit ∈ decimal ∧ (text = digit :: more ∨ text = '.' :: digit :: more)

section

variable {text after : List Char}

/-- No rule before those for numbers matches what begins as a number. -/
theorem refuses_before_numbers (h : BeginsNumber text) :
    ∀ r ∈ Compiled.rootRules.take 17, r.pattern.Refuses text := by
  obtain ⟨digit, more, hdigit, rfl | rfl⟩ := h
  · have hbegin : ∀ d ∈ decimal, ∀ r ∈ Compiled.rootRules.take 17,
        r.pattern.mayBeEmpty = false ∧ r.pattern.mayBegin d = false :=
          forall_of_all (by decide +kernel)
    exact forall_refuses (hbegin digit hdigit) more
  · -- The rule for members begins with a dot as well, but wants a name behind it.
    have hname : ∀ d ∈ decimal, (Pattern.group 2 name).mayBegin d = false :=
      forall_of_all (by decide +kernel)
    have hmember : Compiled.member.pattern.Refuses ('.' :: digit :: more) := by
      have hgroup : (Pattern.group 2 name).Refuses (digit :: more) :=
        Pattern.refuses_of_mayBegin rfl (forall_head?_cons (hname digit hdigit))
      refine (hgroup.seq_set (.single '.') '.').congr fun α p next => ?_
      simp only [Compiled.member, Compiled.row, Pattern.row, Pattern.char, Pattern.find_seq,
        Pattern.find_group]
    have hrules : Compiled.rootRules.take 17 = Compiled.rootRules.take 15 ++
        Compiled.member :: (Compiled.rootRules.drop 16).take 1 := rfl
    rw [hrules]
    exact List.forall_mem_append.mpr ⟨forall_refuses (by decide +kernel) _,
      List.forall_mem_cons.mpr ⟨hmember, forall_refuses (by decide +kernel) _⟩⟩

/-- The patterns of the rules for numbers, in their order, and those of the rules after them. -/
def numberPatterns : List Pattern := (Compiled.rootRules.drop 17).map (·.pattern)

/-- **The first rule for numbers that does not refuse fires** on what begins as a number. -/
theorem step_number {kind : Kind} (count : Nat) {r : TableRule}
    (hr : Compiled.rootRules[17 + count]? = some r) (haction : r.action = .token kind)
    (htransition : r.transition = none) (hbegin : BeginsNumber (text ++ after))
    (hearlier : ∀ a ∈ numberPatterns.take count, a.Refuses (text ++ after))
    (hprefers : r.pattern.Prefers text after) (hne : text ≠ []) (sub : Option SubLexer) :
    (Stream.start table.initial (text ++ after)).step table sub =
      (Stream.start table.initial (text ++ after)).give kind text := by
  refine step_eq_give (Stream.top_start _ _) (17 + count) hr haction htransition rfl ?_ hprefers
    hne sub
  rw [List.take_add]
  refine List.forall_mem_append.mpr ⟨refuses_before_numbers hbegin, fun e he => ?_⟩
  refine hearlier e.pattern ?_
  rw [numberPatterns, ← List.map_take]
  exact List.mem_map_of_mem he

theorem tokenize_number {kind : Kind} (count : Nat) {r : TableRule}
    (hr : Compiled.rootRules[17 + count]? = some r) (haction : r.action = .token kind)
    (htransition : r.transition = none) (hbegin : BeginsNumber text)
    (hearlier : ∀ a ∈ numberPatterns.take count, a.Refuses text)
    (hprefers : r.pattern.Prefers text []) : table.tokenize text = [⟨kind, text, 0⟩] := by
  have hne : text ≠ [] := by
    obtain ⟨digit, more, -, rfl | rfl⟩ := hbegin
    · exact List.cons_ne_nil digit more
    · exact List.cons_ne_nil '.' (digit :: more)
  rw [← List.append_nil text] at hbegin hearlier
  have hstep := step_number count hr haction htransition hbegin hearlier hprefers hne
    table.groupLexer
  rw [List.append_nil] at hstep
  exact Table.tokenize_eq_singleton hne hstep

end

section

variable {x : Char} {digits suffix : List Char}

theorem beginsNumber_of_isPart {text after : List Char} (h : IsPart decimal text) :
    BeginsNumber (text ++ after) := by
  obtain ⟨digit, more, rfl, hdigit, -⟩ := h
  exact ⟨digit, more ++ after, hdigit, Or.inl rfl⟩

theorem beginsNumber_of_isDotted {text after : List Char} (h : IsDotted decimal text) :
    BeginsNumber (text ++ after) := by
  obtain ⟨whole, fraction, rfl, hwhole, hfraction, hne⟩ := h
  rcases hwhole with rfl | hwhole
  · obtain ⟨digit, more, rfl, hdigit, -⟩ :=
      hfraction.resolve_left (hne.resolve_left (not_not_intro rfl))
    exact ⟨digit, more ++ after, hdigit, Or.inr rfl⟩
  · rw [List.append_assoc]
    exact beginsNumber_of_isPart hwhole

/-- A number with a mark is no floating-point number, if neither the mark nor the digits belong to
one. -/
theorem float_refuses_marked {marks : String} {list : List Char} (hx : x ∈ marks.toList)
    (hmarks : ∀ c ∈ marks.toList, c ∉ ".pP".toList ∧ c ∉ "eEfFdD".toList)
    (hdigits : ∀ c ∈ digits, c ∈ list ∨ c = '_') (hlist : ∀ c ∈ '_' :: list, c ∉ ".pP".toList)
    (hsuffix : IsWholeSuffix suffix) : float.Refuses ('0' :: x :: (digits ++ suffix)) := by
  have hend : ∀ c ∈ "lLuU".toList, c ∉ ".pP".toList := forall_of_all (by decide)
  refine float_refuses (List.forall_mem_cons.mpr ⟨by decide, List.forall_mem_cons.mpr
    ⟨(hmarks x hx).1, List.forall_mem_append.mpr ⟨forall_of_digits hdigits hlist, ?_⟩⟩⟩) ?_
  · exact fun c hc => hend c (hsuffix.forall_mem c hc)
  · exact forall_head?_cons (hmarks x hx).2

/-- Without a mark in the second place, no rule for numbers before the one for integers matches. -/
theorem refuses_before_integer {text : List Char} (hfloat : float.Refuses text)
    (hsecond : ∀ c ∈ text.tail.head?, c ∉ "xXbBcC".toList) :
    ∀ a ∈ numberPatterns.take 4, a.Refuses text := by
  have hx : ∀ c ∈ "xX".toList, c ∈ "xXbBcC".toList := forall_of_all (by decide)
  have hb : ∀ c ∈ "bB".toList, c ∈ "xXbBcC".toList := forall_of_all (by decide)
  have hc : ∀ c ∈ "cC".toList, c ∈ "xXbBcC".toList := forall_of_all (by decide)
  have hhex : hexNumber.Refuses text :=
    marked_refuses fun c hmem hmark => hsecond c hmem (hx c hmark)
  have hbin : binNumber.Refuses text :=
    marked_refuses fun c hmem hmark => hsecond c hmem (hb c hmark)
  have hoct : octNumber.Refuses text :=
    marked_refuses fun c hmem hmark => hsecond c hmem (hc c hmark)
  have hpatterns : numberPatterns.take 4 = [float, hexNumber, binNumber, octNumber] := rfl
  rw [hpatterns]
  exact List.forall_mem_cons.mpr ⟨hfloat, List.forall_mem_cons.mpr ⟨hhex,
    List.forall_mem_cons.mpr ⟨hbin, List.forall_mem_singleton.mpr hoct⟩⟩⟩

theorem refuses_before_whole (hdigits : IsPart decimal digits) (hsuffix : IsWholeSuffix suffix) :
    ∀ a ∈ numberPatterns.take 4, a.Refuses (digits ++ suffix) := by
  have hdecimal : ∀ c ∈ '_' :: decimal, c ∉ ".pPeEfFdDxXbBcC".toList := forall_of_all (by decide)
  have hend : ∀ c ∈ "lLuU".toList, c ∉ ".pPeEfFdDxXbBcC".toList := forall_of_all (by decide)
  have hplain : ∀ c ∈ digits ++ suffix, c ∉ ".pPeEfFdDxXbBcC".toList :=
    List.forall_mem_append.mpr ⟨forall_of_digits hdigits.forall_mem hdecimal,
      fun c hc => hend c (hsuffix.forall_mem c hc)⟩
  have hsecond : ∀ c ∈ (digits ++ suffix).tail.head?, c ∉ ".pPeEfFdDxXbBcC".toList := fun c hc =>
    hplain c (List.mem_of_mem_tail (List.mem_of_head? hc))
  have hdot : ∀ c ∈ ".pP".toList, c ∈ ".pPeEfFdDxXbBcC".toList := forall_of_all (by decide)
  have hmarks : ∀ c ∈ "eEfFdD".toList, c ∈ ".pPeEfFdDxXbBcC".toList := forall_of_all (by decide)
  have hbases : ∀ c ∈ "xXbBcC".toList, c ∈ ".pPeEfFdDxXbBcC".toList := forall_of_all (by decide)
  refine refuses_before_integer (float_refuses ?_ ?_) ?_
  · exact fun c hc hmem => hplain c hc (hdot c hmem)
  · exact fun c hc hmem => hsecond c hc (hmarks c hmem)
  · exact fun c hc hmem => hsecond c hc (hbases c hmem)

end

/-! ## 2. The tokens of numerals -/

/-- **A numeral is one token**, of the kind that its form has. -/
theorem tokenize_numeral {kind : Kind} {text : List Char} (h : IsNumeral kind text) :
    table.tokenize text = [⟨kind, text, 0⟩] := by
  cases h with
  | @hex x digits suffix hx hdigits hsuffix =>
    have hfloat : float.Refuses ('0' :: x :: (digits ++ suffix)) :=
      float_refuses_marked hx (forall_of_all (by decide)) hdigits.forall_mem
        (forall_of_all (by decide)) hsuffix
    exact tokenize_number 1 rfl rfl rfl ⟨'0', _, by decide, Or.inl rfl⟩
      (List.forall_mem_singleton.mpr hfloat) (hexNumber_prefers hx hdigits hsuffix)
  | @bin b digits suffix hb hdigits hsuffix =>
    have hfloat : float.Refuses ('0' :: b :: (digits ++ suffix)) :=
      float_refuses_marked hb (forall_of_all (by decide)) hdigits.forall_mem
        (forall_of_all (by decide)) hsuffix
    have hmarks : ∀ c ∈ "bB".toList, c ∉ "xX".toList := forall_of_all (by decide)
    have hhex : hexNumber.Refuses ('0' :: b :: (digits ++ suffix)) :=
      marked_refuses (forall_head?_cons (hmarks b hb))
    exact tokenize_number 2 rfl rfl rfl ⟨'0', _, by decide, Or.inl rfl⟩
      (List.forall_mem_cons.mpr ⟨hfloat, List.forall_mem_singleton.mpr hhex⟩)
      (binNumber_prefers hb hdigits hsuffix)
  | @oct c digits suffix hc hne hdigits hsuffix =>
    have hfloat : float.Refuses ('0' :: c :: (digits ++ suffix)) :=
      float_refuses_marked hc (forall_of_all (by decide)) hdigits
        (forall_of_all (by decide)) hsuffix
    have hmarks : ∀ c ∈ "cC".toList, c ∉ "xX".toList ∧ c ∉ "bB".toList := forall_of_all (by decide)
    have hhex : hexNumber.Refuses ('0' :: c :: (digits ++ suffix)) :=
      marked_refuses (forall_head?_cons (hmarks c hc).1)
    have hbin : binNumber.Refuses ('0' :: c :: (digits ++ suffix)) :=
      marked_refuses (forall_head?_cons (hmarks c hc).2)
    exact tokenize_number 3 rfl rfl rfl ⟨'0', _, by decide, Or.inl rfl⟩
      (List.forall_mem_cons.mpr ⟨hfloat, List.forall_mem_cons.mpr
        ⟨hhex, List.forall_mem_singleton.mpr hbin⟩⟩)
      (octNumber_prefers hc hne hdigits hsuffix)
  | zero =>
    have hzero : IsPart decimal ['0'] := ⟨'0', [], rfl, by decide, List.forall_mem_nil _⟩
    have hnone : IsWholeSuffix [] := ⟨[], [], rfl, Or.inl rfl, Or.inl rfl⟩
    exact tokenize_number 4 rfl rfl rfl (beginsNumber_of_isPart hzero)
      (refuses_before_whole hzero hnone) ((Pattern.prefers_char '0' _).alt_left _)
  | @integer digits suffix hdigits hzero hsuffix =>
    exact tokenize_number 4 rfl rfl rfl (beginsNumber_of_isPart hdigits)
      (refuses_before_whole hdigits hsuffix)
      (integer_prefers hdigits hzero hsuffix forall_head?_nil)
  | float hdigits hexponent hsuffix =>
    exact tokenize_number 0 rfl rfl rfl (beginsNumber_of_isDotted hdigits) (List.forall_mem_nil _)
      (float_prefers_dotted hdigits hexponent hsuffix)
  | hexFloat hx hdigits hexponent hsuffix =>
    exact tokenize_number 0 rfl rfl rfl ⟨'0', _, by decide, Or.inl rfl⟩ (List.forall_mem_nil _)
      (float_prefers_hex hx (hexFloat_prefers hx hdigits hexponent hsuffix))

/-- A hexadecimal number with a fraction and a suffix. -/
theorem tokenize_numeral_hexFloat :
    IsNumeral .numberFloat ['0', 'x', '1', '.', '8', 'p', '-', '3', 'f'] ∧
      table.tokenize ['0', 'x', '1', '.', '8', 'p', '-', '3', 'f'] =
        [⟨.numberFloat, ['0', 'x', '1', '.', '8', 'p', '-', '3', 'f'], 0⟩] := by
  have hpart : ∀ digit ∈ hexadecimal, IsPart hexadecimal [digit] := fun digit hdigit =>
    ⟨digit, [], rfl, hdigit, List.forall_mem_nil _⟩
  have hdotted : IsDotted hexadecimal ['1', '.', '8'] :=
    ⟨['1'], ['8'], rfl, Or.inr (hpart '1' (by decide)), Or.inr (hpart '8' (by decide)),
      Or.inl (List.cons_ne_nil _ _)⟩
  have hexponent : IsExponent "pP" ['p', '-', '3'] :=
    ⟨'p', ['-'], ['3'], rfl, by decide, Or.inr ⟨'-', by decide, rfl⟩,
      ⟨'3', [], rfl, by decide, List.forall_mem_nil _⟩⟩
  have hsuffix : IsOptional "fFdD" ['f'] := Or.inr ⟨'f', by decide, rfl⟩
  have hnumeral := IsNumeral.hexFloat (x := 'x') (by decide) (Or.inr hdotted) hexponent hsuffix
  exact ⟨hnumeral, tokenize_numeral hnumeral⟩

/-! ## 3. Floating-point numbers without a dot -/

section

variable {digits exponent suffix : List Char}

/-- **A floating-point number without a dot** is one token if it has one digit before its exponent
or suffix.  If it has more, its first token is an integer: all its digits, or only the zero that
they begin with. -/
theorem tokenize_undotted (hdigits : IsPart decimal digits)
    (hexponent : exponent = [] ∨ IsExponent "eE" exponent) (hsuffix : IsOptional "fFdD" suffix)
    (hne : exponent ++ suffix ≠ []) :
    (digits.length = 1 →
      table.tokenize (digits ++ (exponent ++ suffix)) =
        [⟨.numberFloat, digits ++ (exponent ++ suffix), 0⟩]) ∧
    (1 < digits.length → ∃ others,
      table.tokenize (digits ++ (exponent ++ suffix)) =
        ⟨.numberInteger, if digits.head? = some '0' then ['0'] else digits, 0⟩ :: others) := by
  constructor
  · intro hlength
    have hbegin : BeginsNumber (digits ++ (exponent ++ suffix)) := beginsNumber_of_isPart hdigits
    obtain ⟨digit, more, rfl, hdigit, -⟩ := hdigits
    obtain rfl := List.eq_nil_of_length_eq_zero (Nat.succ.inj hlength)
    have hprefers := float_prefers_digit hdigit hexponent hsuffix hne
    exact tokenize_number 0 rfl rfl rfl hbegin (List.forall_mem_nil _) hprefers
  · intro hlength
    have hbegin : BeginsNumber (digits ++ (exponent ++ suffix)) := beginsNumber_of_isPart hdigits
    have hbases : ∀ c ∈ '_' :: decimal, c ∉ "xXbBcC".toList := forall_of_all (by decide)
    have hearlier := refuses_before_integer
      (float_refuses_digits hdigits hlength hexponent hsuffix)
      fun c hc => hbases c (hdigits.tail_head?_mem hlength _ c hc)
    split
    · -- Nothing goes on with a zero.
      rename_i hzero
      obtain ⟨more, rfl⟩ := List.head?_eq_some_iff.mp hzero
      have hsplit : '0' :: more ++ (exponent ++ suffix) = ['0'] ++ (more ++ (exponent ++ suffix)) :=
        rfl
      rw [hsplit] at hbegin hearlier ⊢
      have hstep := step_number 4 rfl rfl rfl hbegin hearlier
        ((Pattern.prefers_char '0' _).alt_left _) (List.cons_ne_nil _ _) table.groupLexer
      exact ⟨_, Table.tokenize_eq_cons (List.cons_ne_nil _ _) hstep⟩
    · rename_i hzero
      have hmarks : ∀ c ∈ "eEfFdD".toList,
          digitTailSet.contains c = false ∧ c ∉ "lLuU".toList := forall_of_all (by decide)
      have hnone : IsWholeSuffix [] := ⟨[], [], rfl, Or.inl rfl, Or.inl rfl⟩
      have hprefers := integer_prefers hdigits hzero hnone
        fun c hc => hmarks c (head?_mark hexponent hsuffix c hc)
      rw [List.append_nil] at hprefers
      have hstep := step_number 4 rfl rfl rfl hbegin hearlier hprefers hdigits.ne_nil
        table.groupLexer
      exact ⟨_, Table.tokenize_eq_cons hdigits.ne_nil hstep⟩

end

/-- One digit before an exponent, and two. -/
theorem tokenize_undotted_digits :
    table.tokenize ['1', 'e', '5'] = [⟨.numberFloat, ['1', 'e', '5'], 0⟩] ∧
      ∃ others, table.tokenize ['1', '2', 'e', '5'] =
        ⟨.numberInteger, ['1', '2'], 0⟩ :: others := by
  have hexponent : IsExponent "eE" ['e', '5'] :=
    ⟨'e', [], ['5'], rfl, by decide, Or.inl rfl,
      ⟨'5', [], rfl, by decide, List.forall_mem_nil _⟩⟩
  have hone : IsPart decimal ['1'] := ⟨'1', [], rfl, by decide, List.forall_mem_nil _⟩
  have htwo : IsPart decimal ['1', '2'] := ⟨'1', ['2'], rfl, by decide, forall_of_all (by decide)⟩
  exact ⟨(tokenize_undotted hone (Or.inr hexponent) (Or.inl rfl) (by decide)).1 rfl,
    (tokenize_undotted htwo (Or.inr hexponent) (Or.inl rfl) (by decide)).2 (by decide)⟩

/-- **The digits before an exponent are split from it** if there is more than one. -/
theorem tokenize_undotted_split :
    IsPart decimal ['1', '2'] ∧ IsExponent "eE" ['e', '5'] ∧
      table.tokenize (['1', '2'] ++ ['e', '5']) =
        [⟨.numberInteger, ['1', '2'], 0⟩, ⟨.name, ['e', '5'], 2⟩] := by
  refine ⟨⟨'1', ['2'], rfl, by decide, forall_of_all (by decide)⟩,
    ⟨'e', [], ['5'], rfl, by decide, Or.inl rfl, ⟨'5', [], rfl, by decide, List.forall_mem_nil _⟩⟩,
    ?_⟩
  rw [table_eq, Table.tokenize_eq_tokenizeWithin]
  decide +kernel

end Shadow

end Highlighter
