/-
# Annotations

An annotation is a list of identifiers in brackets, with a comma and any white space between them.
The pattern for annotations takes a first identifier of any length, but of those after a comma it
takes two characters: one that may begin an identifier and one more.  So an annotation is one token
**just where all identifiers but the first have two characters**, and else its bracket is an
operator (`tokenize_annotation_text`).

The text behind the first identifier can be divided among the iterations of the pattern in one way
only: an iteration begins at a comma, and no identifier has one.
-/
import Highlighter.Proofs.Lexer.Evaluation
import Highlighter.Proofs.Shadow.Steps

namespace Highlighter

namespace Shadow

open Pattern (many)

/-! ## 1. Annotations -/

/-- A word character other than a digit, and further word characters. -/
structure Identifier where
  first : Char
  more : List Char
  isWord_first : CharClass.isWord first = true
  isDigit_first : CharClass.isDigit first = false
  isWord_more : ∀ c ∈ more, CharClass.isWord c = true

/-- A further identifier of an annotation, with the white space between the comma and it. -/
structure LaterIdentifier where
  space : List Char
  identifier : Identifier
  isSpace_space : ∀ c ∈ space, CharClass.isSpace c = true

/-- A list of identifiers that is not empty. -/
structure Annotation where
  first : Identifier
  others : List LaterIdentifier

def Identifier.text (n : Identifier) : List Char := n.first :: n.more

def LaterIdentifier.text (l : LaterIdentifier) : List Char := ',' :: (l.space ++ l.identifier.text)

/-- What is behind the first identifier. -/
def annotationEnd (others : List LaterIdentifier) : List Char :=
  others.flatMap LaterIdentifier.text ++ [']']

def Annotation.text (a : Annotation) : List Char := '[' :: (a.first.text ++ annotationEnd a.others)

theorem Identifier.letterSet_first (n : Identifier) : letterSet.contains n.first = true := by
  have hdigit : (CharSet.property .digit).contains n.first = false := n.isDigit_first
  rw [letterSet, CharSet.contains_compl, CharSet.contains_union, CharSet.contains_compl,
    contains_wordSet, n.isWord_first, hdigit]
  rfl

theorem annotationEnd_cons (l : LaterIdentifier) (others : List LaterIdentifier) :
    annotationEnd (l :: others) = l.text ++ annotationEnd others := by
  rw [annotationEnd, annotationEnd, List.flatMap_cons, List.append_assoc]

/-- An identifier ends at a comma or at the bracket. -/
theorem annotationEnd_head? (others : List LaterIdentifier) (after : List Char) :
    ∀ c ∈ (annotationEnd others ++ after).head?, CharClass.isWord c = false := by
  cases others with
  | nil => exact forall_head?_cons (by decide)
  | cons l others => exact forall_head?_cons (by decide)

theorem not_isSpace {c : Char} (h : CharClass.isWord c = true) : ¬ CharClass.isSpace c = true :=
  fun hspace => Bool.eq_false_iff.mp (CharClass.isWord_of_isSpace hspace) h

/-! ## 2. What the pattern takes -/

/-- What the pattern takes of a comma and an identifier. -/
def decoratorUnit : Pattern :=
  .group 1 (.concat [.char ',', many (.property .space), .set letterSet, .set wordSet])

/-- What comes after the first identifier. -/
def decoratorTail : Pattern := .seq (.repeated decoratorUnit 0 none true) (.char ']')

def decorator : Pattern := .concat [.char '[', .set letterSet, many wordSet, decoratorTail]

section

variable {others : List LaterIdentifier} {after : List Char}

theorem consumes_decoratorUnit : decoratorUnit.Consumes :=
  Pattern.Needs.consumes (.group (.first (Pattern.needs_char (P := (· = ',')) rfl)))

/-- An iteration takes an identifier that has two characters. -/
theorem decoratorUnit_prefers (l : LaterIdentifier) (hlength : l.identifier.text.length = 2) :
    decoratorUnit.Prefers l.text after := by
  obtain ⟨d, hd⟩ := List.length_eq_one_iff.mp (Nat.succ.inj hlength)
  have htext : l.text = [','] ++ (l.space ++ ([l.identifier.first] ++ [d])) := by
    rw [LaterIdentifier.text, Identifier.text, hd]
    rfl
  have hword : wordSet.contains d = true := l.identifier.isWord_more d (by simp [hd])
  have hspaces : (many (.property .space)).Prefers l.space
      (([l.identifier.first] ++ [d]) ++ after) :=
    Pattern.prefers_many l.isSpace_space
      (forall_head?_cons (Bool.eq_false_iff.mpr (not_isSpace l.identifier.isWord_first)))
  rw [htext]
  exact .group ((Pattern.prefers_char ',' _).seq (hspaces.seq
    ((Pattern.prefers_set l.identifier.letterSet_first _).seq (Pattern.prefers_set hword after)))) 1

/-- An iteration goes through the white space and takes two characters. -/
theorem decoratorUnit_takes (l : LaterIdentifier) {before : Option Char} {taken rest : List Char}
    (hrest : l.text ++ after = taken ++ rest) (h : decoratorUnit.Takes before taken rest) :
    ∃ d, CharClass.isWord d = true ∧ l.identifier.more ++ after = d :: rest := by
  obtain ⟨_, _, rfl, hcomma, space, _, rfl, hspace, _, _, rfl, ⟨c, hc, rfl⟩, ⟨d, hd, rfl⟩⟩ := h
  obtain rfl := Pattern.takes_char.mp hcomma
  have hspace : ∀ e ∈ space, CharClass.isSpace e = true :=
    Pattern.takes_many.mp hspace
  have hsplit : l.space ++ l.identifier.first :: (l.identifier.more ++ after) =
      space ++ c :: d :: rest := by
    simpa [LaterIdentifier.text, Identifier.text] using hrest
  -- No identifier begins with white space, so both lists go on behind all of it.
  have hbehind := congrArg (List.dropWhile CharClass.isSpace) hsplit
  rw [List.dropWhile_append_of_pos l.isSpace_space, List.dropWhile_append_of_pos hspace,
    List.dropWhile_cons_of_neg (not_isSpace l.identifier.isWord_first),
    List.dropWhile_cons_of_neg (not_isSpace (isWord_of_letterSet hc))] at hbehind
  exact ⟨d, hd, (List.cons.inj hbehind).2⟩

/-- **If all identifiers have two characters, the pattern takes them.**  By induction on them. -/
theorem decoratorTail_prefers (h : ∀ l ∈ others, l.identifier.text.length = 2) :
    decoratorTail.Prefers (annotationEnd others) after := by
  induction others with
  | nil =>
    have hunit : decoratorUnit.Refuses (']' :: after) :=
      ((Pattern.refuses_char (by decide) after).seq _).group 1
    exact .seq_stop consumes_decoratorUnit hunit (Pattern.prefers_char ']' after)
  | cons l others ih =>
    obtain ⟨hl, hothers⟩ := List.forall_mem_cons.mp h
    rw [annotationEnd_cons]
    exact .seq_more consumes_decoratorUnit (decoratorUnit_prefers l hl) (ih hothers)

theorem decoratorTail_mayBegin {c : Char} (hc : CharClass.isWord c = true) :
    decoratorTail.mayBegin c = false := by
  have hcomma : c ≠ ',' := by
    rintro rfl
    cases hc
  have hclose : c ≠ ']' := by
    rintro rfl
    cases hc
  simp [decoratorTail, decoratorUnit, Pattern.concat, Pattern.char, Pattern.mayBegin,
    Pattern.mayBeEmpty, CharSet.contains_single, hcomma, hclose]

/-- **If an identifier has not, the pattern comes to nothing.**  By induction on them.  Of an
identifier with one character there is too little for an iteration, and of one with three or more
something is left that the pattern cannot go on with. -/
theorem decoratorTail_refuses (h : ∃ l ∈ others, l.identifier.text.length ≠ 2) :
    decoratorTail.Refuses (annotationEnd others ++ after) := by
  induction others with
  | nil => simp at h
  | cons l others ih =>
    rw [annotationEnd_cons, List.append_assoc]
    refine Pattern.refuses_seq_greedy consumes_decoratorUnit (Pattern.refuses_char (by decide) _) ?_
    intro before taken rest hrest htakes
    obtain ⟨d, hd, hmore⟩ := decoratorUnit_takes l hrest htakes
    rcases hchars : l.identifier.more with - | ⟨e, - | ⟨e', more⟩⟩
    · rw [hchars, List.nil_append] at hmore
      have hnot := annotationEnd_head? others after d (by rw [hmore]; rfl)
      rw [hd] at hnot
      cases hnot
    · rw [hchars] at hmore
      obtain rfl : annotationEnd others ++ after = rest := (List.cons.inj hmore).2
      obtain ⟨l', hl', hlength⟩ := h
      rcases List.mem_cons.mp hl' with rfl | hl'
      · exact absurd (by rw [Identifier.text, hchars]; rfl) hlength
      · exact ih ⟨l', hl', hlength⟩
    · rw [hchars] at hmore
      obtain rfl := (List.cons.inj hmore).2
      have hword := l.identifier.isWord_more e' (by simp [hchars])
      exact Pattern.refuses_of_mayBegin rfl (forall_head?_cons (decoratorTail_mayBegin hword))

end

/-! ## 3. The step -/

section

variable {s : Stream} {after : List Char}

/-- **If all identifiers but the first have two characters, the annotation is one token.** -/
theorem step_annotation_text (htop : s.cursor.stack.top = table.initial) (a : Annotation)
    (hrest : s.cursor.rest = a.text ++ after)
    (hlength : ∀ l ∈ a.others, l.identifier.text.length = 2) (sub : Option SubLexer) :
    s.step table sub = s.give .nameDecorator a.text := by
  have hprefers : decorator.Prefers (['['] ++ ([a.first.first] ++
      (a.first.more ++ annotationEnd a.others))) after :=
    (Pattern.prefers_char '[' _).seq ((Pattern.prefers_set a.first.letterSet_first _).seq
      ((Pattern.prefers_many a.first.isWord_more (annotationEnd_head? a.others after)).seq
        (decoratorTail_prefers hlength)))
  exact step_eq_give htop 5 rfl rfl rfl hrest (forall_refuses (by decide +kernel) _) hprefers
    (List.cons_ne_nil _ _) sub

/-- **If one of them has not, its bracket is an operator.** -/
theorem step_annotation_bracket (htop : s.cursor.stack.top = table.initial) (a : Annotation)
    (hrest : s.cursor.rest = a.text ++ after)
    (hlength : ∃ l ∈ a.others, l.identifier.text.length ≠ 2) (sub : Option SubLexer) :
    s.step table sub = s.give .operator ['['] := by
  have hdecorator : decorator.Refuses (a.text ++ after) := by
    have hword : ∀ c ∈ a.first.more, decoratorTail.mayBegin c = false := fun c hc =>
      decoratorTail_mayBegin (a.first.isWord_more c hc)
    have htail : (Pattern.seq (many wordSet) decoratorTail).Refuses
        (a.first.more ++ (annotationEnd a.others ++ after)) :=
      Pattern.refuses_seq_many rfl hword (annotationEnd_head? a.others after)
        (decoratorTail_refuses hlength)
    rw [← List.append_assoc] at htail
    exact (htail.seq_set letterSet a.first.first).seq_set _ '['
  have hearlier : ∀ r ∈ Compiled.rootRules.take 22, r.pattern.Refuses (a.text ++ after) := by
    have hrules : Compiled.rootRules.take 22 = Compiled.rootRules.take 5 ++
        Compiled.token "\\[[^\\W\\d][\\w]*(,\\s*[^\\W\\d][\\w])*\\]" decorator .nameDecorator ::
          (Compiled.rootRules.take 22).drop 6 := rfl
    rw [hrules]
    exact List.forall_mem_append.mpr ⟨forall_refuses (by decide +kernel) _,
      List.forall_mem_cons.mpr ⟨hdecorator, forall_refuses (by decide +kernel) _⟩⟩
  have hsplit : s.cursor.rest =
      ['['] ++ (a.first.text ++ annotationEnd a.others ++ after) := hrest
  exact step_eq_give htop 22 rfl rfl rfl hsplit hearlier (Pattern.prefers_set (by decide) _)
    (List.cons_ne_nil _ _) sub

end

/-! ## 4. The tokens -/

/-- **An annotation is one token just where all identifiers but the first have two characters.**
Else its bracket is an operator. -/
theorem tokenize_annotation_text (a : Annotation) :
    (table.tokenize a.text = [⟨.nameDecorator, a.text, 0⟩] ↔
      ∀ l ∈ a.others, l.identifier.text.length = 2) ∧
    ((∃ l ∈ a.others, l.identifier.text.length ≠ 2) →
      ∃ others, table.tokenize a.text = ⟨.operator, ['['], 0⟩ :: others) := by
  have hbracket : (∃ l ∈ a.others, l.identifier.text.length ≠ 2) →
      ∃ others, table.tokenize a.text = ⟨.operator, ['['], 0⟩ :: others := fun hlength =>
    have hstep := step_annotation_bracket (Stream.top_start table.initial a.text) a
      (List.append_nil _).symm hlength table.groupLexer
    ⟨_, Table.tokenize_eq_cons (List.cons_ne_nil '[' []) hstep⟩
  refine ⟨⟨fun htokens l hl => ?_, fun hlength => ?_⟩, hbracket⟩
  · by_contra hlength
    obtain ⟨others, hothers⟩ := hbracket ⟨l, hl, hlength⟩
    cases htokens.symm.trans hothers
  · exact Table.tokenize_eq_singleton (List.cons_ne_nil _ _)
      (step_annotation_text (Stream.top_start _ _) a (List.append_nil _).symm hlength _)

/-- An annotation of which the second identifier has three characters. -/
def longAnnotation : Annotation where
  first := ⟨'A', [], by decide, by decide, List.forall_mem_nil _⟩
  others := [⟨[' '], ⟨'B', ['c', 'd'], by decide, by decide, by simp; decide⟩, by simp; decide⟩]

theorem tokenize_annotation_bracket :
    ∃ others, table.tokenize longAnnotation.text = ⟨.operator, ['['], 0⟩ :: others :=
  (tokenize_annotation_text longAnnotation).2 ⟨_, List.mem_singleton_self _, by decide⟩

/-- **An annotation need not be one token.**  All of this one are marks, names and white space. -/
theorem longAnnotation_split :
    longAnnotation.text = "[A, Bcd]".toList ∧
      table.tokenize longAnnotation.text =
        [⟨.operator, ['['], 0⟩, ⟨.name, ['A'], 1⟩, ⟨.punctuation, [','], 2⟩, ⟨.text, [' '], 3⟩,
          ⟨.name, ['B', 'c', 'd'], 4⟩, ⟨.operator, [']'], 7⟩] := by
  refine ⟨by decide, ?_⟩
  rw [table_eq, Table.tokenize_eq_tokenizeWithin]
  decide +kernel

end Shadow

end Highlighter
