/-
# Word lists mean their words

A word list is written down as a pattern and read again: the words are escaped, joined as
alternatives and put in a group, and the suffix follows.

* **Reading gives back the words**, whatever characters they are of (`reads_group`): what is escaped
  is read as the characters themselves (`reads_word`), and the bars end one word and begin the next
  (`reads_alternatives`).
* **What it finds is the first word in the order of the list** from which the suffix can go on
  (`find_anyOf`, `find_literal`).  With `\b` for a suffix that is the first word of the list that
  stands at the place and ends at a word boundary (`Words.match_iff_standsAt`).
-/
import Highlighter.Grammar.Words
import Highlighter.Lexer.Step
import Highlighter.Proofs.Grammar.Compile
import Highlighter.Proofs.Regex.Choices
import Highlighter.Proofs.Regex.Length
import Highlighter.Proofs.Regex.Reading

namespace Highlighter

open Pattern (literal anyOf)

/-! ## 1. Reading a word list -/

/-- A text as it is read under some flags: its characters, or all that differ from them in case
only. -/
def Pattern.spelled (flags : PatternFlags) (text : List Char) : Pattern :=
  concat (text.map fun c => PatternParser.setPattern flags (.single c))

/-- One of several texts. -/
def Pattern.spelledAny (flags : PatternFlags) (words : List String) : Pattern :=
  choice (words.map fun word => spelled flags word.toList)

namespace Scope

/-- The level on which alternatives have been read, and then the characters of a word. -/
def ofWord (flags : PatternFlags) (alternatives : List (Nested Pattern)) (word : List Char) :
    Scope :=
  ⟨alternatives, (word.map fun c => ⟨PatternParser.setPattern flags (.single c), 0, false⟩).reverse⟩

theorem push_ofWord (flags : PatternFlags) (alternatives : List (Nested Pattern))
    (word : List Char) (c : Char) :
    (ofWord flags alternatives word).push ⟨PatternParser.setPattern flags (.single c), 0, false⟩ =
      ofWord flags alternatives (word ++ [c]) := by
  rw [push, ofWord, ofWord, List.map_append, List.reverse_append]
  rfl

/-- What a word comes to. -/
def word (flags : PatternFlags) (word : List Char) : Nested Pattern :=
  (ofWord flags [] word).sequence

theorem value_word (flags : PatternFlags) (text : List Char) :
    (word flags text).value = .spelled flags text := by
  rw [word, value_sequence (by simp [ofWord]), ofWord, List.reverse_reverse, List.map_map]
  rfl

/-- A word is no choice. -/
theorem apart_value_word (flags : PatternFlags) (text : List Char) :
    apart (word flags text).value = (word flags text).value := by
  rw [value_word]
  match text with
  | [] => rfl
  | [_] => rfl
  | _ :: _ :: _ => rfl

theorem depth_word_le (flags : PatternFlags) (text : List Char) : (word flags text).depth ≤ 1 :=
  depth_sequence_le (by simp [ofWord])

/-- A depth that a level of words can have: no less than that of a word, and no more if there is
only one. -/
def HasDepth (flags : PatternFlags) (words : List String) (depth : Nat) : Prop :=
  (∀ text ∈ words, (word flags text.toList).depth ≤ depth) ∧
    ∀ text, words = [text] → depth = (word flags text.toList).depth

end Scope

namespace PatternParser

section

variable {s : PatternParser} (hverbose : s.flags.verbose = false)

/-- A backslash before a character with a meaning of its own takes it away. -/
theorem read_metaCharacter (flags : PatternFlags) {c : Char} (hc : c ∈ Escape.metaCharacters)
    (rest : List Char) : Escape.read flags (c :: rest) = .ok (.literal c, rest) := by
  have hescapable : Escape.isEscapable c = true := by
    rw [Escape.isEscapable, List.contains_iff_mem.mpr hc, Bool.true_or]
  unfold Escape.read
  split
  case h_1 heq => cases heq
  case h_5 heq =>
    obtain ⟨rfl, rfl⟩ := List.cons.inj heq
    rw [if_pos hescapable]
  -- The letters that begin escapes of their own have no other meaning.
  all_goals
    rename_i heq
    obtain ⟨rfl, -⟩ := List.cons.inj heq
    exact absurd hc (by decide)

theorem step_of_mem {c : Char} (hc : c ∈ Escape.metaCharacters) (rest : List Char) :
    s.step '\\' (c :: rest) = .ok (s.push (setPattern s.flags (.single c)) 0, rest) := by
  unfold step
  rw [read_metaCharacter _ hc]
  rfl

/-- Any other character stands for itself. -/
theorem step_of_not_mem {c : Char} (hc : c ∉ Escape.metaCharacters) (rest : List Char) :
    s.step c rest = .ok (s.push (setPattern s.flags (.single c)) 0, rest) := by
  unfold step
  split
  case h_13 => rfl
  all_goals exact absurd (by decide) hc

include hverbose

/-- **An escaped character is read as the character.** -/
theorem reads_character (c : Char) (rest : List Char) :
    Reads s (Words.escape [c] ++ rest) (s.push (setPattern s.flags (.single c)) 0) rest := by
  rw [Words.escape, List.flatMap_singleton]
  by_cases hc : c ∈ Escape.metaCharacters
  · rw [if_pos (List.contains_iff_mem.mpr hc)]
    exact .of_step hverbose (step_of_mem hc rest) (Nat.le_succ _)
  · rw [if_neg (fun h => hc (List.contains_iff_mem.mp h))]
    exact .of_step hverbose (step_of_not_mem hc rest) (Nat.le_refl _)

/-- An escaped word is read as its characters. -/
theorem reads_word {alternatives : List (Nested Pattern)} {u : List Char}
    (hscope : s.scope = .ofWord s.flags alternatives u) (v rest : List Char) :
    Reads s (Words.escape v ++ rest)
      { s with scope := .ofWord s.flags alternatives (u ++ v) } rest := by
  induction v generalizing s u with
  | nil =>
    rw [List.append_nil, ← hscope]
    exact .refl s rest
  | cons c v ih =>
    have hescape : Words.escape (c :: v) = Words.escape [c] ++ Words.escape v := by
      simp [Words.escape]
    rw [hescape, List.append_assoc]
    refine (reads_character hverbose c _).trans ?_
    let pushed := s.push (setPattern s.flags (.single c)) 0
    have hpush : pushed.scope = .ofWord pushed.flags alternatives (u ++ [c]) := by
      show s.scope.push _ = _
      rw [hscope, Scope.push_ofWord]
      rfl
    rw [List.append_cons]
    exact ih (s := pushed) hverbose hpush

/-- **Escaped words with bars between them are read as alternatives.**  By induction on the words;
each bar ends a word. -/
theorem reads_alternatives {alternatives : List (Nested Pattern)}
    (hscope : s.scope = ⟨alternatives, []⟩) (word : List Char) (words : List (List Char))
    (rest : List Char) :
    ∃ scope, Reads s (Words.alternatives (word :: words) ++ rest) { s with scope } rest ∧
      scope.alternatives.reverse ++ [scope.sequence] =
        alternatives.reverse ++ (word :: words).map (Scope.word s.flags) := by
  induction words generalizing s alternatives word with
  | nil =>
    refine ⟨.ofWord s.flags alternatives word, ?_, rfl⟩
    have hword := reads_word hverbose (u := []) hscope word rest
    simpa [Words.alternatives] using hword
  | cons next words ih =>
    have htext : Words.alternatives (word :: next :: words) ++ rest =
        Words.escape word ++ '|' :: (Words.alternatives (next :: words) ++ rest) := by
      simp [Words.alternatives, List.intercalate]
    obtain ⟨scope, hreads, hlevel⟩ :=
      ih (s := { s with scope := (Scope.ofWord s.flags alternatives word).alternate }) hverbose rfl
        next
    refine ⟨scope, ?_, ?_⟩
    · rw [htext]
      refine (reads_word hverbose (u := []) hscope word _).trans (.trans ?_ hreads)
      exact .of_step hverbose rfl (Nat.le_refl _)
    · rw [hlevel, List.reverse_cons, List.append_assoc]
      rfl

/-- A whole level of escaped words, be there any or none. -/
theorem reads_words (hscope : s.scope = .empty) (words : List String) (rest : List Char) :
    ∃ scope, Reads s (Words.alternatives (words.map String.toList) ++ rest) { s with scope } rest ∧
      scope.close.value = .spelledAny s.flags words ∧ scope.close.depth ≤ 2 ∧
      Scope.HasDepth s.flags words scope.close.depth := by
  cases words with
  | nil =>
    refine ⟨.empty, ?_, rfl, Nat.zero_le _, fun _ h => (by cases h), fun _ h => by cases h⟩
    rw [← hscope]
    exact .refl s rest
  | cons word words =>
    obtain ⟨scope, hreads, hlevel⟩ := reads_alternatives hverbose hscope word.toList
      (words.map String.toList) rest
    have hlevel : scope.alternatives.reverse ++ [scope.sequence] =
        (word :: words).map fun word => Scope.word s.flags word.toList := by
      rw [hlevel, List.reverse_nil, List.nil_append, ← List.map_cons, List.map_map]
      rfl
    refine ⟨scope, hreads, ?_, ?_, ?_, ?_⟩
    · have hlast : scope.sequence ∈
          (word :: words).map fun word => Scope.word s.flags word.toList :=
        hlevel ▸ List.mem_append_right _ (List.mem_singleton_self _)
      obtain ⟨last, -, hlast⟩ := List.mem_map.mp hlast
      have hvalues := congrArg (List.map (·.value)) hlevel
      rw [List.map_append, List.map_map] at hvalues
      rw [Scope.value_close (hlast ▸ Scope.apart_value_word s.flags last.toList)]
      refine congrArg Pattern.choice (hvalues.trans (List.map_congr_left fun word _ => ?_))
      exact Scope.value_word s.flags word.toList
    · have hdepth : ∀ nested ∈ scope.alternatives.reverse ++ [scope.sequence],
          nested.depth ≤ 1 := by
        rw [hlevel]
        exact List.forall_mem_map.mpr fun word _ => Scope.depth_word_le s.flags word.toList
      obtain ⟨halternatives, hlast⟩ := List.forall_mem_append.mp hdepth
      exact Scope.depth_close_le (hlast _ (List.mem_singleton_self _))
        fun nested h => halternatives nested (List.mem_reverse.mpr h)
    · intro word hword
      refine Scope.le_depth_close ?_
      rw [hlevel]
      exact List.mem_map_of_mem hword
    · intro word hone
      rw [hone] at hlevel
      obtain ⟨halternatives, hlast⟩ : scope.alternatives = [] ∧ scope.sequence =
          Scope.word s.flags word.toList := by
        cases hothers : scope.alternatives.reverse with
        | nil => simp_all
        | cons first others => simp [hothers] at hlevel
      rw [Scope.close, halternatives, ← hlast]

/-- **A group of escaped words is read as one of the words**, and the reading goes on behind it. -/
theorem reads_group (words : List String) (rest : List Char) :
    ∃ depth ≤ 2, Scope.HasDepth s.flags words depth ∧ Reads s
      ('(' :: '?' :: ':' :: (Words.alternatives (words.map String.toList) ++ ')' :: rest))
      (s.push (.spelledAny s.flags words) (depth + 1)) rest := by
  let inner : PatternParser := ⟨s.flags, .empty, ⟨s.scope, none, s.flags⟩ :: s.enclosing,
    s.groups, s.names⟩
  obtain ⟨scope, hreads, hvalue, hclose, hdepth⟩ :=
    reads_words (s := inner) hverbose rfl words (')' :: rest)
  refine ⟨scope.close.depth, hclose, hdepth, ?_⟩
  have hopen : s.step '(' ('?' :: ':' :: (Words.alternatives (words.map String.toList) ++
      ')' :: rest)) = .ok (inner, Words.alternatives (words.map String.toList) ++ ')' :: rest) := by
    show s.enterGroup _ = _
    rw [enterGroup, hverbose]
    rfl
  have hleave : ({ inner with scope } : PatternParser).step ')' rest =
      .ok (s.push (.spelledAny s.flags words) (scope.close.depth + 1), rest) := by
    rw [← hvalue]
    rfl
  refine (Reads.of_step hverbose hopen ?_).trans (hreads.trans ?_)
  · simp only [List.length_cons]
    omega
  · exact .of_step hverbose hleave (Nat.le_refl _)

end

end PatternParser

namespace Words

/-- The text of a word list's pattern. -/
theorem toList_pattern (w : Words) :
    w.pattern.toList = '(' :: '?' :: ':' ::
      (alternatives (w.words.map String.toList) ++ ')' :: w.suffix.toList) := by
  have hopen : "(?:".toList = ['(', '?', ':'] := rfl
  have hclose : ")".toList = [')'] := rfl
  simp only [pattern, String.toList_append, String.toList_ofList, hopen, hclose,
    List.cons_append, List.nil_append, List.append_assoc]

/-- Where case is told, words stand for themselves. -/
theorem spelledAny_eq_anyOf {flags : PatternFlags} (hcase : flags.caseInsensitive = false)
    (words : List String) : Pattern.spelledAny flags words = anyOf words := by
  have hset : PatternParser.setPattern flags = Pattern.set := by
    funext s
    rw [PatternParser.setPattern, CharSet.foldUnder, hcase]
    rfl
  simp only [Pattern.spelledAny, Pattern.spelled, hset]
  rfl

/-- **A word list with `\b` for a suffix is one of its words and a word boundary.** -/
theorem parse_pattern {flags : PatternFlags} (hverbose : flags.verbose = false)
    (hcase : flags.caseInsensitive = false) (words : List String) :
    Pattern.parse flags (pattern ⟨words, "\\b"⟩) =
      .ok (.seq (anyOf words) (.look (.wordBoundary (.wordUnder flags)))) := by
  obtain ⟨depth, hdepth, -, hgroup⟩ :=
    PatternParser.reads_group (s := .start flags) hverbose words ['\\', 'b']
  let read := (PatternParser.start flags).push (.spelledAny flags words) (depth + 1)
  let final := read.push (.look (.wordBoundary (.wordUnder flags))) 0
  have hboundary : read.Reads ['\\', 'b'] final [] := .of_step hverbose rfl (Nat.zero_le _)
  have hclose : max (max 0 0) (depth + 1) + 1 ≤ PatternParser.maxDepth := by
    rw [PatternParser.maxDepth]
    omega
  have hfinish : final.finish =
      .ok (.seq (anyOf words) (.look (.wordBoundary (.wordUnder flags)))) := by
    rw [← spelledAny_eq_anyOf hcase]
    exact if_pos hclose
  have hsuffix : "\\b".toList = ['\\', 'b'] := rfl
  refine PatternParser.Reads.parse ?_ hfinish
  rw [toList_pattern]
  dsimp only
  rw [hsuffix]
  exact hgroup.trans hboundary

end Words

/-! ## 2. What a word list finds -/

namespace Pattern

section

variable {α : Type} {next : Place → Option α}

theorem find_concat_cons (a : Pattern) (as : List Pattern) {p : Place} :
    (concat (a :: as)).find p next = a.find p fun q => (concat as).find q next := by
  cases as with
  | nil => simp only [concat, find_empty]
  | cons b as => exact find_seq

theorem find_choice {as : List Pattern} (hne : as ≠ []) (p : Place) :
    (choice as).find p next = as.findSome? fun a => a.find p next := by
  induction as with
  | nil => exact absurd rfl hne
  | cons a as ih =>
    rw [List.findSome?_cons]
    cases as with
    | nil => cases h : a.find p next <;> simp [choice, h]
    | cons b as =>
      have hmore := ih (List.cons_ne_nil b as)
      rw [choice, find_alt, hmore]
      · cases a.find p next <;> rfl
      · exact fun h => by cases h

/-- **A text is found where it lies ahead**, and what follows goes on behind it. -/
theorem find_literal (text : List Char) (i : Nat) (b : Option Char) (rest : List Char) :
    (literal text).find ⟨i, b, rest⟩ next =
      if text <+: rest then
        next ⟨i + text.length, lastChar? b text, rest.drop text.length⟩
      else none := by
  induction text generalizing i b rest with
  | nil =>
    rw [if_pos List.nil_prefix]
    exact find_empty.trans (by simp)
  | cons c text ih =>
    rw [literal, List.map_cons, find_concat_cons]
    cases rest with
    | nil => simp [char]
    | cons d rest =>
      rw [char, find_set_cons, CharSet.contains_single, ← literal, ih, place_after_cons]
      by_cases h : d = c
      · subst h
        simp
      · rw [if_neg (by simpa using h), if_neg (by simp [Ne.symm h])]

/-- The first word from which what follows can go on. -/
theorem find_anyOf {words : List String} (hne : words ≠ []) (p : Place) :
    (anyOf words).find p next = words.findSome? fun word => (literal word.toList).find p next := by
  rw [anyOf, find_choice (by simpa using hne), List.findSome?_map]
  rfl

/-! ## 3. Words are not empty -/

theorem isEmpty_single (c : Char) : (CharSet.single c).isEmpty = false := by
  have hvalid : c.toNat.isValidChar := c.valid
  have hmem : c.toNat ∈ (CharSet.single c).probes := by
    simp [CharSet.probes, CharSet.single, CharSet.breaks]
  rw [CharSet.isEmpty, Bool.not_eq_false', List.any_eq_true]
  refine ⟨c.toNat, hmem, ?_⟩
  rw [Char.ofNat_toNat, CharSet.contains_single]
  simpa using hvalid

theorem blocked_literal (text : List Char) : (literal text).blocked = false := by
  induction text with
  | nil => rfl
  | cons c text ih =>
    cases text with
    | nil => exact isEmpty_single c
    | cons d text => exact Bool.or_eq_false_iff.mpr ⟨isEmpty_single c, ih⟩

theorem floor_literal (text : List Char) : (literal text).floor = text.length := by
  induction text with
  | nil => rfl
  | cons c text ih =>
    cases text with
    | nil => rfl
    | cons d text => exact (congrArg (1 + ·) ih).trans (Nat.add_comm 1 _)

theorem blocked_anyOf (words : List String) : (anyOf words).blocked = false := by
  induction words with
  | nil => rfl
  | cons word words ih =>
    cases words with
    | nil => exact blocked_literal word.toList
    | cons next words => exact Bool.or_eq_false_iff.mpr ⟨blocked_literal word.toList, ih⟩

/-- A choice between words takes one character at least. -/
theorem floor_anyOf_pos {words : List String} (hne : words ≠ [])
    (hwords : ∀ word ∈ words, word ≠ "") : 0 < (anyOf words).floor := by
  induction words with
  | nil => exact absurd rfl hne
  | cons word words ih =>
    obtain ⟨hword, hwords⟩ := List.forall_mem_cons.mp hwords
    have hpos : 0 < (literal word.toList).floor := by
      rw [floor_literal]
      exact List.length_pos_iff.mpr (mt String.toList_eq_nil_iff.mp hword)
    cases words with
    | nil => exact hpos
    | cons next words => exact Nat.lt_min.mpr ⟨hpos, ih (List.cons_ne_nil next words) hwords⟩

end

end Pattern

/-! ## 4. Word lists in a grammar -/

/-- Just one of the two neighbours is a word character. -/
def WordBoundary (before ahead : Option Char) : Prop :=
  before.any CharClass.isWord ≠ ahead.any CharClass.isWord

/-- The word lies ahead and ends at a word boundary. -/
def StandsAt (word rest : List Char) : Prop :=
  word <+: rest ∧ WordBoundary word.getLast? (rest.drop word.length).head?

instance (word rest : List Char) : Decidable (StandsAt word rest) :=
  inferInstanceAs (Decidable (_ ∧ _ ≠ _))

namespace Words

/-- One of the words, and a word boundary. -/
def bounded (words : List String) : Pattern :=
  .seq (anyOf words) (.look (.wordBoundary (.property .word)))

/-- What follows a word in the pattern of its list. -/
theorem find_word {word : List Char} (hne : word ≠ []) (before : Option Char) (rest : List Char) :
    ((literal word).find (.start before rest) fun p =>
        (Pattern.look (.wordBoundary (.property .word))).find p fun q => some q.index) =
      if StandsAt word rest then some word.length else none := by
  have hlast : lastChar? before word = word.getLast? := by
    rw [lastChar?, List.getLast?_eq_some_getLast hne]
    rfl
  have hholds : (Assertion.wordBoundary (.property .word)).holds
      ⟨word.length, word.getLast?, rest.drop word.length⟩ = true ↔
        WordBoundary word.getLast? (rest.drop word.length).head? := bne_iff_ne
  rw [Place.start, Pattern.find_literal, Pattern.find_look, hlast, Nat.zero_add]
  by_cases hstands : StandsAt word rest
  · rw [if_pos hstands, if_pos hstands.1, if_pos (hholds.mpr hstands.2)]
  · rw [if_neg hstands]
    split
    · rename_i hahead
      rw [if_neg fun h => hstands ⟨hahead, hholds.mp h⟩]
    · rfl

/-- **The match is the first word of the list that stands at the place.** -/
theorem length_match? {words : List String} (hne : words ≠ [])
    (hwords : ∀ word ∈ words, word ≠ "") (before : Option Char) (rest : List Char) :
    ((bounded words).match? before rest).map (·.length) =
      (words.find? fun word => StandsAt word.toList rest).map (·.toList.length) := by
  rw [Pattern.map_length_match?, bounded, Pattern.find_seq, Pattern.find_anyOf hne]
  clear hne
  induction words with
  | nil => rfl
  | cons word words ih =>
    obtain ⟨hword, hwords⟩ := List.forall_mem_cons.mp hwords
    rw [List.findSome?_cons, List.find?_cons, ih hwords,
      find_word (mt String.toList_eq_nil_iff.mp hword)]
    by_cases hstands : StandsAt word.toList rest
    · simp [hstands]
    · simp [hstands]

/-- The pattern of a word list in a grammar that tells case. -/
theorem parse_of_grammar {g : Grammar} (hcase : g.flags.caseInsensitive = false)
    (words : List String) :
    Pattern.parse g.flags.patternFlags (pattern ⟨words, "\\b"⟩) = .ok (bounded words) :=
  parse_pattern rfl hcase words

/-- The pattern passes the checks on patterns. -/
theorem validPattern {g : Grammar} (hcase : g.flags.caseInsensitive = false) {words : List String}
    (hne : words ≠ []) (hwords : ∀ word ∈ words, word ≠ "") (state : String) (index : Nat)
    (kind : Kind) (transition : Option (Transition String)) :
    g.compilePattern state index (rule ⟨words, "\\b"⟩ kind transition) =
      .ok (bounded words) := by
  refine Grammar.compilePattern_eq_ok_iff.mpr ⟨parse_of_grammar hcase words, ?_, ?_⟩
  · have hblocked : (bounded words).blocked = false :=
      Bool.or_eq_false_iff.mpr ⟨Pattern.blocked_anyOf words, rfl⟩
    rw [Pattern.minLength_of_not_blocked hblocked]
    exact fun h => Nat.ne_of_gt (Pattern.floor_anyOf_pos hne hwords) (Option.some.inj h)
  · exact fun _ _ h => by cases h

/-- The match of the rule of a word list. -/
theorem length_match?_of_compileRule {g : Grammar} (hcase : g.flags.caseInsensitive = false)
    {words : List String} (hwords : ∀ word ∈ words, word ≠ "") {state : String} {index : Nat}
    {kind : Kind} {transition : Option (Transition String)} {r : TableRule}
    (hr : g.compileRule state index (rule ⟨words, "\\b"⟩ kind transition) = .ok r)
    (before : Option Char) (rest : List Char) :
    (r.match? before rest).map (·.length) =
      (words.find? fun word => StandsAt word.toList rest).map (·.toList.length) := by
  obtain ⟨hvalid, hcompiles⟩ := Grammar.compileRule_eq_ok_iff.mp hr
  have hparse := parse_of_grammar hcase words
  have hpattern := Except.ok.inj (hcompiles.pattern.symm.trans hparse)
  have hne : words ≠ [] := by
    rintro rfl
    exact hvalid.minLength_ne_zero hcompiles (hpattern ▸ rfl)
  have hlength := length_match? hne hwords before rest
  rw [← hpattern] at hlength
  rw [← hlength]
  cases hm : r.pattern.match? before rest with
  | none => rw [TableRule.match?, hm, Option.filter_none]
  | some m =>
    rw [hm] at hlength
    obtain ⟨word, hword, hlen⟩ := Option.map_eq_some_iff.mp hlength.symm
    have hne := hwords word (List.mem_of_find?_eq_some hword)
    have hpos : 0 < m.length := Nat.lt_of_lt_of_eq
      (List.length_pos_iff.mpr (mt String.toList_eq_nil_iff.mp hne)) hlen
    rw [TableRule.match?_of_pos hm hpos]

/-- **A word list means its words.**  In a grammar that tells case, the pattern of a list of words
with `\b` for a suffix is accepted, whatever characters the words are of; and its rule matches at a
place of a text just if a word of the list stands there and ends at a word boundary.  The match is
the first such word in the order of the list, be it longer or shorter than the others. -/
theorem match_iff_standsAt {g : Grammar} (hcase : g.flags.caseInsensitive = false)
    {words : List String} (hwords : ∀ word ∈ words, word ≠ "") (state : String) (index : Nat)
    (kind : Kind) (transition : Option (Transition String)) :
    (words ≠ [] → ∃ p,
      g.compilePattern state index (rule ⟨words, "\\b"⟩ kind transition) = .ok p) ∧
    ∀ r, g.compileRule state index (rule ⟨words, "\\b"⟩ kind transition) = .ok r →
      ∀ before rest,
        ((∃ m, r.match? before rest = some m) ↔ ∃ word ∈ words, StandsAt word.toList rest) ∧
        ∀ m, r.match? before rest = some m → ∃ earlier word later,
          words = earlier ++ word :: later ∧ StandsAt word.toList rest ∧
          (∀ e ∈ earlier, ¬ StandsAt e.toList rest) ∧ m.length = word.toList.length := by
  refine ⟨fun hne => ⟨_, validPattern hcase hne hwords state index kind transition⟩,
    fun r hr before rest => ?_⟩
  have hlength := length_match?_of_compileRule hcase hwords hr before rest
  constructor
  · rw [← Option.isSome_iff_exists, ← Option.isSome_map (f := (·.length)), hlength,
      Option.isSome_map, List.find?_isSome]
    simp only [decide_eq_true_eq]
  · intro m hm
    rw [hm] at hlength
    obtain ⟨word, hword, hm⟩ := Option.map_eq_some_iff.mp hlength.symm
    obtain ⟨hstands, earlier, later, heq, hearlier⟩ := List.find?_eq_some_iff_append.mp hword
    refine ⟨earlier, word, later, heq, of_decide_eq_true hstands, fun e he => ?_, hm.symm⟩
    simpa using hearlier e he

/-- The shorter word comes first in the list, but it does not end at a word boundary; and the full
stop stands for itself. -/
theorem match_iff_standsAt_int :
    ∃ g : Grammar, g.flags.caseInsensitive = false ∧
      (∀ word ∈ ["in", "int", "a.b"], word ≠ "") ∧
      ∃ r, g.compileRule "root" 0 (rule ⟨["in", "int", "a.b"], "\\b"⟩ .keyword) = .ok r ∧
        (∃ m, r.match? none "int x".toList = some m ∧ m.length = 3) ∧
        (∃ m, r.match? none "a.b".toList = some m) ∧
        ¬ ∃ m, r.match? none "axb".toList = some m := by
  let g : Grammar := { name := "words", states := [] }
  have hwords : ∀ word ∈ ["in", "int", "a.b"], word ≠ "" := by decide
  obtain ⟨r, hr⟩ :
      ∃ r, g.compileRule "root" 0 (rule ⟨["in", "int", "a.b"], "\\b"⟩ .keyword) = .ok r :=
    ⟨⟨"(?:in|int|a\\.b)\\b", bounded ["in", "int", "a.b"], .token .keyword, none⟩,
      by decide +kernel⟩
  obtain ⟨-, hmatches⟩ := match_iff_standsAt (g := g) rfl hwords "root" 0 .keyword none
  refine ⟨g, rfl, hwords, r, hr, ?_, ?_, ?_⟩
  · obtain ⟨hiff, hfirst⟩ := hmatches r hr none "int x".toList
    obtain ⟨m, hm⟩ := hiff.mpr ⟨"int", by decide, by decide +kernel⟩
    obtain ⟨earlier, word, later, hlist, hstands, -, hlen⟩ := hfirst m hm
    have hint : ∀ word ∈ ["in", "int", "a.b"],
        StandsAt word.toList "int x".toList → word.toList.length = 3 := by decide +kernel
    have hword : word ∈ ["in", "int", "a.b"] :=
      hlist ▸ List.mem_append_right earlier List.mem_cons_self
    exact ⟨m, hm, hlen.trans (hint word hword hstands)⟩
  · exact (hmatches r hr none "a.b".toList).1.mpr ⟨"a.b", by decide, by decide +kernel⟩
  · exact fun h => absurd ((hmatches r hr none "axb".toList).1.mp h) (by decide +kernel)

end Words

end Highlighter
