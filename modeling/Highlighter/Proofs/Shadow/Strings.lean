/-
# String literals

Where a string ends is said by a scanner (`scan`) that reads on from the opening quote and takes a
backslash together with a backslash or a quote after it.  The pattern for strings is no scanner:
each backslash may also be taken by itself, and the pattern goes back over its choices if no quote
comes in the end.  **The two agree where the scanner stops**; where it runs off the end of the text,
the pattern goes back to the last quote, be it hidden by a backslash or not (`step_string`).

* The parts of a string are tried in the order in which the scanner takes them, and where the
  scanner stops the pattern finds its end (`stringTail_prefers_of_scan`).
* Where it runs off, what is tried first leads nowhere, until the pattern is back at the last quote
  (`stringTail_prefers_of_last`).
-/
import Highlighter.Proofs.Shadow.Steps

namespace Highlighter

namespace Shadow

open Pattern (literal)

/-! ## 1. The scanner -/

/-- Reads on from the opening quote of a string to the quote that ends it, and gives the text
between them.  A backslash hides a backslash or a quote after it. -/
def scan : List Char → Option (List Char)
  | [] => none
  | '"' :: _ => some []
  | '\\' :: '\\' :: text => (scan text).map fun body => '\\' :: '\\' :: body
  | '\\' :: '"' :: text => (scan text).map fun body => '\\' :: '"' :: body
  | c :: text => (scan text).map (c :: ·)

/-! ## 2. What the pattern takes -/

/-- One part of a string. -/
def stringUnit : Pattern :=
  .group 1 (.choice [literal ['\\', '\\'], literal ['\\', '"'], .set (.compl (.single '"'))])

/-- What comes after the opening quote. -/
def stringTail : Pattern := .seq (.repeated stringUnit 0 none true) (.char '"')

section

variable {α : Type} {next : Place → Option α} {i : Nat} {b : Option Char} {text : List Char}

theorem consumes_stringUnit : stringUnit.Consumes := by
  have hset : ∀ s, (Pattern.set s).Needs fun _ => True := fun s => .set fun _ _ => trivial
  exact Pattern.Needs.consumes (.group (.alt (.first (hset _)) (.alt (.first (hset _)) (hset _))))

/-- Another part of the string is tried before its end. -/
theorem find_stringTail (p : Place) : stringTail.find p next =
    (stringUnit.find p fun q => stringTail.find q next).or ((Pattern.char '"').find p next) :=
  Pattern.find_seq_greedy consumes_stringUnit

theorem find_stringTail_quote :
    stringTail.find ⟨i, b, '"' :: text⟩ next = next ⟨i + 1, some '"', text⟩ := by
  rw [find_stringTail]
  simp [stringUnit, Pattern.choice, literal, Pattern.concat, Pattern.char, CharSet.contains_single]

/-- A backslash is taken with a backslash or a quote after it, and else by itself. -/
theorem find_stringTail_hidden {c : Char} (hc : c = '\\' ∨ c = '"') :
    stringTail.find ⟨i, b, '\\' :: c :: text⟩ next =
      (stringTail.find ⟨i + 1 + 1, some c, text⟩ next).or
        (stringTail.find ⟨i + 1, some '\\', c :: text⟩ next) := by
  rw [find_stringTail]
  rcases hc with rfl | rfl <;>
    simp [stringUnit, Pattern.choice, literal, Pattern.concat, Pattern.char,
      CharSet.contains_single]

theorem find_stringTail_other {c : Char} (hquote : c ≠ '"')
    (htext : c = '\\' → ∀ d ∈ text.head?, d ≠ '\\' ∧ d ≠ '"') :
    stringTail.find ⟨i, b, c :: text⟩ next = stringTail.find ⟨i + 1, some c, text⟩ next := by
  rw [find_stringTail]
  by_cases hslash : c = '\\'
  · cases text with
    | nil =>
      simp [stringUnit, Pattern.choice, literal, Pattern.concat, Pattern.char,
        CharSet.contains_single, hquote]
    | cons d text =>
      obtain ⟨hd, hd'⟩ := htext hslash d rfl
      simp [stringUnit, Pattern.choice, literal, Pattern.concat, Pattern.char,
        CharSet.contains_single, hquote, hd, hd']
  · simp [stringUnit, Pattern.choice, literal, Pattern.concat, Pattern.char,
      CharSet.contains_single, hquote, hslash]

end

/-! ## 3. The pattern and the scanner -/

section

variable {text body rest : List Char}

/-- Without a quote there is no end. -/
theorem stringTail_refuses (h : '"' ∉ text) : stringTail.Refuses text := by
  have hneeds : stringTail.Needs (· = '"') := .second (Pattern.needs_char rfl)
  refine hneeds.refuses fun c hc hquote => h ?_
  rwa [← hquote]

theorem stringTail_prefers_quote (rest : List Char) : stringTail.Prefers ['"'] rest := by
  intro α i b next x hnext
  exact find_stringTail_quote.trans hnext

theorem stringTail_prefers_hidden {c : Char} (hc : c = '\\' ∨ c = '"') {taken : List Char}
    (h : stringTail.Prefers taken rest) : stringTail.Prefers ('\\' :: c :: taken) rest := by
  intro α i b next x hnext
  rw [Pattern.place_after_cons, Pattern.place_after_cons] at hnext
  rw [List.cons_append, List.cons_append, find_stringTail_hidden hc, h α _ _ next x hnext,
    Option.some_or]

/-- The last quote is an end even if a backslash hides it, as nothing is found behind it. -/
theorem stringTail_prefers_hidden_quote (hrest : '"' ∉ rest) :
    stringTail.Prefers ['\\', '"'] rest := by
  intro α i b next x hnext
  rw [Pattern.place_after_cons] at hnext
  have hquote := stringTail_prefers_quote rest α _ _ next x hnext
  rw [List.singleton_append] at hquote
  rw [List.cons_append, List.singleton_append, find_stringTail_hidden (Or.inr rfl),
    stringTail_refuses hrest, Option.none_or, hquote]

theorem stringTail_prefers_other {c : Char} (hquote : c ≠ '"')
    (htext : c = '\\' → ∀ d ∈ (body ++ '"' :: rest).head?, d ≠ '\\' ∧ d ≠ '"')
    (h : stringTail.Prefers (body ++ ['"']) rest) :
    stringTail.Prefers (c :: (body ++ ['"'])) rest := by
  intro α i b next x hnext
  rw [Pattern.place_after_cons] at hnext
  have htail := h α _ _ next x hnext
  rw [List.append_assoc, List.singleton_append] at htail
  rw [List.cons_append, List.append_assoc, List.singleton_append,
    find_stringTail_other hquote htext, htail]

/-- A backslash that hides nothing has neither of the two characters after it that it could hide. -/
theorem not_hidden {c : Char} (hslash : ∀ more, c = '\\' → text = '\\' :: more → False)
    (hescaped : ∀ more, c = '\\' → text = '"' :: more → False) :
    c = '\\' → ∀ d ∈ text.head?, d ≠ '\\' ∧ d ≠ '"' := by
  intro hc d hd
  obtain ⟨more, rfl⟩ := List.head?_eq_some_iff.mp hd
  constructor
  · rintro rfl
    exact hslash more hc rfl
  · rintro rfl
    exact hescaped more hc rfl

/-- **The pattern takes what the scanner reads.**  By induction along the scanner. -/
theorem stringTail_prefers_of_scan (h : scan text = some body) :
    ∃ rest, text = body ++ '"' :: rest ∧ stringTail.Prefers (body ++ ['"']) rest := by
  fun_induction scan text generalizing body with
  | case1 => cases h
  | case2 text =>
    obtain rfl := Option.some.inj h
    exact ⟨text, rfl, stringTail_prefers_quote text⟩
  | case3 text ih =>
    obtain ⟨body, hbody, rfl⟩ := Option.map_eq_some_iff.mp h
    obtain ⟨rest, rfl, hprefers⟩ := ih hbody
    exact ⟨rest, rfl, stringTail_prefers_hidden (Or.inl rfl) hprefers⟩
  | case4 text ih =>
    obtain ⟨body, hbody, rfl⟩ := Option.map_eq_some_iff.mp h
    obtain ⟨rest, rfl, hprefers⟩ := ih hbody
    exact ⟨rest, rfl, stringTail_prefers_hidden (Or.inr rfl) hprefers⟩
  | case5 c text hquote hslash hescaped ih =>
    obtain ⟨body, hbody, rfl⟩ := Option.map_eq_some_iff.mp h
    obtain ⟨rest, rfl, hprefers⟩ := ih hbody
    exact ⟨rest, rfl,
      stringTail_prefers_other hquote (not_hidden hslash hescaped) hprefers⟩

/-- **Where the scanner runs off the end, the pattern goes back to the last quote.**  By induction
along the scanner.  That quote may be one that a backslash hides: behind it nothing is found, and
then the backslash is taken by itself. -/
theorem stringTail_prefers_of_last (h : scan text = none) (htext : text = body ++ '"' :: rest)
    (hrest : '"' ∉ rest) : stringTail.Prefers (body ++ ['"']) rest := by
  fun_induction scan text generalizing body with
  | case1 => simp at htext
  | case2 text => cases h
  | case3 text ih =>
    rcases body with - | ⟨c, - | ⟨d, body⟩⟩
    · simp at htext
    · simp at htext
    · obtain ⟨rfl, rfl, rfl⟩ : '\\' = c ∧ '\\' = d ∧ text = body ++ '"' :: rest := by
        simpa using htext
      exact stringTail_prefers_hidden (Or.inl rfl) (ih (Option.map_eq_none_iff.mp h) rfl)
  | case4 text ih =>
    rcases body with - | ⟨c, - | ⟨d, body⟩⟩
    · simp at htext
    · -- The quote that is hidden is the last one.
      obtain ⟨rfl, rfl⟩ : '\\' = c ∧ text = rest := by simpa using htext
      exact stringTail_prefers_hidden_quote hrest
    · obtain ⟨rfl, rfl, rfl⟩ : '\\' = c ∧ '"' = d ∧ text = body ++ '"' :: rest := by
        simpa using htext
      exact stringTail_prefers_hidden (Or.inr rfl) (ih (Option.map_eq_none_iff.mp h) rfl)
  | case5 c text hquote hslash hescaped ih =>
    rcases body with - | ⟨d, body⟩
    · exact absurd (List.cons.inj htext).1 hquote
    · obtain ⟨rfl, rfl⟩ := List.cons.inj htext
      exact stringTail_prefers_other hquote (not_hidden hslash hescaped)
        (ih (Option.map_eq_none_iff.mp h) rfl)

end

/-! ## 4. The step -/

section

variable {s : Stream}

theorem step_string_of_prefers (htop : s.cursor.stack.top = table.initial) {body rest : List Char}
    (hrest : s.cursor.rest = '"' :: (body ++ '"' :: rest))
    (hprefers : stringTail.Prefers (body ++ ['"']) rest) (sub : Option SubLexer) :
    s.step table sub = s.give .string ('"' :: (body ++ ['"'])) := by
  have hsplit : s.cursor.rest = '"' :: (body ++ ['"']) ++ rest := by
    rw [hrest, List.cons_append, List.append_assoc]
    rfl
  exact step_eq_give htop 13 rfl rfl rfl hsplit (forall_refuses (by decide +kernel) _)
    ((Pattern.prefers_char '"' _).seq hprefers) (List.cons_ne_nil _ _) sub

/-- A quote that no other quote follows. -/
theorem step_quote (htop : s.cursor.stack.top = table.initial) {later : List Char}
    (hrest : s.cursor.rest = '"' :: later) (hlater : '"' ∉ later) (sub : Option SubLexer) :
    s.step table sub = s.give .error ['"'] := by
  refine step_eq_give_error htop hrest ?_ sub
  have hstring : (Pattern.seq (.char '"') stringTail).Refuses ('"' :: later) :=
    (stringTail_refuses hlater).seq_set _ '"'
  have hrules : Compiled.rootRules = Compiled.rootRules.take 13 ++
      Compiled.token "\"(\\\\\\\\|\\\\\"|[^\"])*\"" (.seq (.char '"') stringTail) .string ::
        Compiled.rootRules.drop 14 := rfl
  rw [hrules]
  exact List.forall_mem_append.mpr ⟨forall_refuses (by decide +kernel) _,
    List.forall_mem_cons.mpr ⟨hstring, forall_refuses (by decide +kernel) _⟩⟩

/-- **String literals**: with a quote ahead, a step takes the text to the quote at which the scanner
stops; if it runs off the end, to the last quote of the text; and if there is no other quote, the
quote is an error. -/
theorem step_string (htop : s.cursor.stack.top = table.initial) {later : List Char}
    (hrest : s.cursor.rest = '"' :: later) (sub : Option SubLexer) :
    (∀ body, scan later = some body →
      ∃ rest, later = body ++ '"' :: rest ∧
        s.step table sub = s.give .string ('"' :: (body ++ ['"']))) ∧
    (scan later = none → ∀ body rest, later = body ++ '"' :: rest → '"' ∉ rest →
      s.step table sub = s.give .string ('"' :: (body ++ ['"']))) ∧
    ('"' ∉ later → s.step table sub = s.give .error ['"']) := by
  refine ⟨?_, ?_, ?_⟩
  · intro body hscan
    obtain ⟨rest, rfl, hprefers⟩ := stringTail_prefers_of_scan hscan
    exact ⟨rest, rfl, step_string_of_prefers htop hrest hprefers sub⟩
  · rintro hscan body rest rfl hlast
    have hprefers := stringTail_prefers_of_last hscan rfl hlast
    exact step_string_of_prefers htop hrest hprefers sub
  · intro hlater
    exact step_quote htop hrest hlater sub

end

/-- A hidden quote within a string, one that ends the string for want of another, and a quote
alone. -/
theorem step_string_start :
    (Stream.start table.initial ['"', '\\', '"', '"', 'b']).step table none =
        (Stream.start table.initial ['"', '\\', '"', '"', 'b']).give .string
          ['"', '\\', '"', '"'] ∧
      (Stream.start table.initial ['"', 'a', '\\', '"', 'b']).step table none =
        (Stream.start table.initial ['"', 'a', '\\', '"', 'b']).give .string
          ['"', 'a', '\\', '"'] ∧
      (Stream.start table.initial ['"', 'a']).step table none =
        (Stream.start table.initial ['"', 'a']).give .error ['"'] := by
  refine ⟨?_, ?_, ?_⟩
  · obtain ⟨rest, -, hstep⟩ := (step_string (Stream.top_start _ _) rfl none).1 ['\\', '"']
      (show scan ['\\', '"', '"', 'b'] = some ['\\', '"'] by decide)
    exact hstep
  · exact (step_string (Stream.top_start _ _) rfl none).2.1
      (show scan ['a', '\\', '"', 'b'] = none by decide) ['a', '\\'] ['b'] rfl (by decide)
  · exact (step_string (Stream.top_start _ _) rfl none).2.2 (by decide)

end Shadow

end Highlighter
