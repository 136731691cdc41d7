/-
# What a glob stands for

A name fits a glob if it can be cut into pieces, one for each character of the glob (`Covers`): a
star stands for any text, a question mark for one character, and every other character for itself.

* **The pattern of a glob takes just the names that the glob covers** (`takes_pattern`), however many
  stars it has, by induction on the glob.
* Written in the notation of patterns, character by character with all that has a meaning there
  escaped (`source`), it is read as this pattern again (`parse_source`).  No escape is lost, and no
  star is read together with what follows it.
* A search for it goes through all places of a name, but it can begin at the first one only
  (`foundIn_anchored`).

The two wildcards stand for any character but a line feed, and a name may well have one
(`accepts_iff_covers`, `star_refuses_lineFeed`).
-/
import Highlighter.Proofs.Grammar.Words
import Highlighter.Proofs.Regex.Completeness
import Highlighter.Registry.Glob

namespace Highlighter

namespace Glob

/-! ## 1. Names and globs -/

/-- What a character of a glob stands for: a star for any text, a question mark for any character,
and every other character for itself.  The characters of such a text are those of `wild`. -/
def StandsFor (wild : Char → Prop) : Char → List Char → Prop
  | '*', text => ∀ c ∈ text, wild c
  | '?', text => ∃ c, wild c ∧ text = [c]
  | c, text => text = [c]

/-- The name is made of what the characters of the glob stand for, one after the other. -/
def Covers (wild : Char → Prop) (glob : Glob) (name : List Char) : Prop :=
  ∃ pieces : List (List Char), List.Forall₂ (StandsFor wild) glob pieces ∧ name = pieces.flatten

section

variable {wild : Char → Prop} {c : Char} {glob name : List Char}

theorem standsFor_of_ne (hstar : c ≠ '*') (hmark : c ≠ '?') {text : List Char} :
    StandsFor wild c text ↔ text = [c] := by
  unfold StandsFor
  split
  · exact absurd rfl hstar
  · exact absurd rfl hmark
  · exact Iff.rfl

theorem covers_nil : Covers wild [] name ↔ name = [] := by
  constructor
  · rintro ⟨pieces, hpieces, rfl⟩
    rw [List.forall₂_nil_left_iff.mp hpieces, List.flatten_nil]
  · rintro rfl
    exact ⟨[], .nil, rfl⟩

theorem covers_cons : Covers wild (c :: glob) name ↔
    ∃ u v, name = u ++ v ∧ StandsFor wild c u ∧ Covers wild glob v := by
  constructor
  · rintro ⟨pieces, hpieces, rfl⟩
    obtain ⟨u, more, hu, hmore, rfl⟩ := List.forall₂_cons_left_iff.mp hpieces
    exact ⟨u, more.flatten, rfl, hu, more, hmore, rfl⟩
  · rintro ⟨u, v, rfl, hu, more, hmore, rfl⟩
    exact ⟨u :: more, .cons hu hmore, rfl⟩

theorem StandsFor.mono {wider : Char → Prop} {text : List Char} (h : StandsFor wild c text)
    (hwider : ∀ d ∈ text, wild d → wider d) : StandsFor wider c text := by
  by_cases hstar : c = '*'
  · subst hstar
    exact fun d hd => hwider d hd (h d hd)
  · by_cases hmark : c = '?'
    · subst hmark
      obtain ⟨d, hd, rfl⟩ := h
      exact ⟨d, hwider d (List.mem_singleton_self d) hd, rfl⟩
    · rwa [standsFor_of_ne hstar hmark] at h ⊢

theorem Covers.mono {wider : Char → Prop} (h : Covers wild glob name)
    (hwider : ∀ d ∈ name, wild d → wider d) : Covers wider glob name := by
  induction glob generalizing name with
  | nil => rwa [covers_nil] at h ⊢
  | cons c glob ih =>
    obtain ⟨u, v, rfl, hu, hv⟩ := covers_cons.mp h
    refine covers_cons.mpr ⟨u, v, rfl, hu.mono fun d hd => ?_, ih hv fun d hd => ?_⟩
    · exact hwider d (List.mem_append_left v hd)
    · exact hwider d (List.mem_append_right u hd)

/-- Which characters may be stood for makes no difference if the name has only such. -/
theorem covers_iff_of_forall (h : ∀ c ∈ name, wild c) :
    Covers wild glob name ↔ Covers (fun _ => True) glob name :=
  ⟨fun hc => hc.mono fun _ _ _ => trivial, fun hc => hc.mono fun c hc _ => h c hc⟩

end

/-! ## 2. Patterns of globs -/

theorem piece_of_ne {c : Char} (hstar : c ≠ '*') (hmark : c ≠ '?') : piece c = .char c := by
  unfold piece
  split
  · exact absurd rfl hstar
  · exact absurd rfl hmark
  · rfl

theorem contains_wildcard (c : Char) :
    (CharSet.compl (.single '\n')).contains c = true ↔ c ≠ '\n' := by
  simp [CharSet.contains_single]

/-- The pattern of a character takes what the character stands for. -/
theorem takes_piece {c : Char} {before : Option Char} {taken after : List Char} :
    (piece c).Takes before taken after ↔ StandsFor (· ≠ '\n') c taken := by
  by_cases hstar : c = '*'
  · subst hstar
    refine Pattern.takes_many.trans ?_
    simp only [contains_wildcard]
    exact Iff.rfl
  · by_cases hmark : c = '?'
    · subst hmark
      show (∃ c, _ ∧ _) ↔ (∃ c, _ ∧ _)
      simp only [contains_wildcard]
    · rw [piece_of_ne hstar hmark, standsFor_of_ne hstar hmark]
      exact Pattern.takes_char

/-- **The pattern of a glob takes the names that the glob covers**, as a whole. -/
theorem takes_pattern {glob : Glob} {before : Option Char} {taken after : List Char} :
    (pattern glob).Takes before taken after ↔ after = [] ∧ Covers (· ≠ '\n') glob taken := by
  unfold pattern
  induction glob generalizing before taken with
  | nil =>
    rw [covers_nil]
    show taken = [] ∧ after.head?.isNone = true ↔ _
    rw [Option.isNone_iff_eq_none, List.head?_eq_none_iff, and_comm]
  | cons c glob ih =>
    rw [List.map_cons, List.cons_append, Pattern.takes_concat_cons, covers_cons]
    simp only [takes_piece, ih]
    constructor
    · rintro ⟨u, v, htaken, hu, hafter, hv⟩
      exact ⟨hafter, u, v, htaken, hu, hv⟩
    · rintro ⟨hafter, u, v, htaken, hu, hv⟩
      exact ⟨u, v, htaken, hu, hafter, hv⟩

/-- **A glob accepts the names that it covers**, as long as only characters other than a line feed
are stood for. -/
theorem accepts_pattern_iff {glob : Glob} {name : List Char} :
    accepts (pattern glob) name = true ↔ Covers (· ≠ '\n') glob name := by
  rw [accepts, Option.isSome_iff_ne_none, Pattern.match?_ne_none_iff]
  simp only [takes_pattern]
  constructor
  · rintro ⟨taken, after, rfl, rfl, hcovers⟩
    rwa [List.append_nil]
  · intro hcovers
    exact ⟨name, [], (List.append_nil name).symm, rfl, hcovers⟩

/-! ## 3. Globs in the notation of patterns -/

/-- A character of a glob as a pattern is written. -/
def written : Char → List Char
  | '*' => ['.', '*']
  | '?' => ['.']
  | c => Words.escape [c]

/-- A glob as a pattern is written, with an anchor at either end. -/
def source (glob : Glob) : String := String.ofList ('^' :: (glob.flatMap written ++ ['$']))

/-- A glob as a pattern that may be looked for anywhere in a name. -/
def anchored (glob : Glob) : Pattern :=
  .concat (.look .textStart :: (glob.map piece ++ [.look .textEnd]))

/-- The item that a character of a glob is read as. -/
def item (c : Char) : Item := ⟨piece c, if c = '*' then 1 else 0, false⟩

section

variable {s : PatternParser} (hflags : s.flags = {})

theorem written_of_ne {c : Char} (hstar : c ≠ '*') (hmark : c ≠ '?') :
    written c = Words.escape [c] := by
  unfold written
  split
  · exact absurd rfl hstar
  · exact absurd rfl hmark
  · rfl

/-- What is written for a character does not begin with a question mark, which would make the star
before it lazy. -/
theorem head?_written (c : Char) (rest : List Char) : (written c ++ rest).head? ≠ some '?' := by
  by_cases hstar : c = '*'
  · subst hstar
    exact fun h => by cases h
  · by_cases hmark : c = '?'
    · subst hmark
      exact fun h => by cases h
    · rw [written_of_ne hstar hmark, Words.escape, List.flatMap_singleton]
      split
      · exact fun h => by cases h
      · exact fun h => hmark (Option.some.inj h)

theorem head?_flatMap_written (glob : Glob) :
    (glob.flatMap written ++ ['$']).head? ≠ some '?' := by
  cases glob with
  | nil => exact fun h => by cases h
  | cons c glob =>
    rw [List.flatMap_cons, List.append_assoc]
    exact head?_written c _

include hflags

theorem step_dot (rest : List Char) : s.step '.' rest = .ok (s.push wildcard 0, rest) := by
  unfold PatternParser.step
  rw [hflags]
  rfl

theorem step_star {rest : List Char} (hrest : rest.head? ≠ some '?') :
    (s.push wildcard 0).step '*' rest =
      .ok ({ s with scope := s.scope.push (item '*') }, rest) := by
  have hgreed : (s.push wildcard 0).flags.swapGreed = false := by
    show s.flags.swapGreed = false
    rw [hflags]
  show (s.push wildcard 0).repeatLast 0 none rest = _
  unfold PatternParser.repeatLast
  rw [hgreed]
  split
  · rename_i hitems
    cases hitems
  · rename_i first items hitems
    obtain ⟨rfl, rfl⟩ := List.cons.inj hitems
    rw [if_neg Bool.false_ne_true]
    dsimp only
    split
    · exact absurd rfl hrest
    · rfl

/-- **What is written for a character of a glob is read as its pattern.** -/
theorem reads_written (c : Char) {rest : List Char} (hrest : rest.head? ≠ some '?') :
    s.Reads (written c ++ rest) { s with scope := s.scope.push (item c) } rest := by
  have hverbose : s.flags.verbose = false := hflags ▸ rfl
  by_cases hstar : c = '*'
  · subst hstar
    exact .trans (.of_step hverbose (step_dot hflags _) (Nat.le_refl _))
      (.of_step hverbose (step_star hflags hrest) (Nat.le_refl _))
  · by_cases hmark : c = '?'
    · subst hmark
      exact .of_step hverbose (step_dot hflags rest) (Nat.le_refl _)
    · have hitem : item c = ⟨PatternParser.setPattern s.flags (.single c), 0, false⟩ := by
        rw [item, piece_of_ne hstar hmark, if_neg hstar, hflags]
        rfl
      rw [written_of_ne hstar hmark, hitem]
      exact PatternParser.reads_character hverbose c rest

/-- A glob is read character by character, up to the anchor behind it. -/
theorem reads_flatMap_written (glob : Glob) :
    s.Reads (glob.flatMap written ++ ['$'])
      { s with scope := { s.scope with items := (glob.map item).reverse ++ s.scope.items } }
      ['$'] := by
  induction glob generalizing s with
  | nil => exact .refl s _
  | cons c glob ih =>
    rw [List.flatMap_cons, List.append_assoc]
    refine (reads_written hflags c (head?_flatMap_written glob)).trans ?_
    have hmore := ih (s := { s with scope := s.scope.push (item c) }) hflags
    rwa [List.map_cons, List.reverse_cons, List.append_assoc]

end

/-- **The written form of a glob is read as its pattern**, whatever characters it is of. -/
theorem parse_source (glob : Glob) : Pattern.parse {} (source glob) = .ok (anchored glob) := by
  let opened := (PatternParser.start {}).push (.look .textStart) 0
  let read : PatternParser := { opened with
    scope := { opened.scope with items := (glob.map item).reverse ++ opened.scope.items } }
  let final := read.push (.look .textEnd) 0
  have hopen : (PatternParser.start {}).Reads (source glob).toList opened
      (glob.flatMap written ++ ['$']) := by
    rw [source, String.toList_ofList]
    exact .of_step rfl rfl (Nat.le_refl _)
  have hclose : read.Reads ['$'] final [] := .of_step rfl rfl (Nat.zero_le _)
  have hitems : final.scope.items.reverse =
      ⟨.look .textStart, 0, false⟩ :: (glob.map item ++ [⟨.look .textEnd, 0, false⟩]) := by
    show (_ :: ((glob.map item).reverse ++ [_])).reverse = _
    simp
  -- A star is the deepest item, so no glob is nested too deeply.
  have hlevel : ∀ i ∈ final.scope.items, i.isDirective = false ∧ i.depth ≤ 1 := by
    intro i hi
    rw [← List.mem_reverse, hitems, List.mem_cons, List.mem_append, List.mem_singleton,
      List.mem_map] at hi
    rcases hi with rfl | ⟨c, -, rfl⟩ | rfl
    · exact ⟨rfl, Nat.zero_le _⟩
    · refine ⟨rfl, ?_⟩
      rw [item]
      split
      · exact Nat.le_refl _
      · exact Nat.zero_le _
    · exact ⟨rfl, Nat.zero_le _⟩
  have hdepth : final.scope.sequence.depth ≤ PatternParser.maxDepth :=
    (Scope.depth_sequence_le fun i hi => (hlevel i hi).2).trans (by decide)
  have hvalue : final.scope.sequence.value = anchored glob := by
    rw [Scope.value_sequence fun i hi => (hlevel i hi).1, hitems, anchored, List.map_cons,
      List.map_append, List.map_map]
    rfl
  refine PatternParser.Reads.parse ((hopen.trans (reads_flatMap_written rfl glob)).trans hclose) ?_
  rw [← hvalue]
  exact if_pos hdepth

/-! ## 4. Globs and names -/

/-- The pattern matches somewhere in the text. -/
def FoundIn (p : Pattern) (text : List Char) : Prop :=
  ∃ front back, text = front ++ back ∧ p.match? front.getLast? back ≠ none

theorem takes_anchored {glob : Glob} {before : Option Char} {taken after : List Char} :
    (anchored glob).Takes before taken after ↔
      before = none ∧ (pattern glob).Takes before taken after := by
  rw [anchored, Pattern.takes_concat_cons]
  constructor
  · rintro ⟨_, v, rfl, ⟨rfl, hstart⟩, hv⟩
    rw [lastChar?_nil] at hv
    exact ⟨Option.isNone_iff_eq_none.mp hstart, hv⟩
  · rintro ⟨rfl, hv⟩
    exact ⟨[], taken, rfl, ⟨rfl, rfl⟩, hv⟩

/-- A search goes through all places, but the anchor keeps it to the first one. -/
theorem foundIn_anchored {glob : Glob} {name : List Char} :
    FoundIn (anchored glob) name ↔ accepts (pattern glob) name = true := by
  rw [accepts, Option.isSome_iff_ne_none, FoundIn]
  simp only [Pattern.match?_ne_none_iff, takes_anchored]
  constructor
  · rintro ⟨front, _, rfl, taken, after, rfl, hfirst, htakes⟩
    obtain rfl := List.getLast?_eq_none_iff.mp hfirst
    exact ⟨taken, after, rfl, htakes⟩
  · rintro ⟨taken, after, rfl, htakes⟩
    exact ⟨[], _, rfl, taken, after, rfl, rfl, htakes⟩

/-- **A glob accepts just the names that it covers, where its wildcards stand for anything but a
line feed**; so it accepts just the names that it covers, if they have no line feed.  It is all one
whether its pattern is taken at the beginning of a name or written down, read again and looked for
everywhere. -/
theorem accepts_iff_covers {glob : Glob} {p : Pattern} (h : compile? glob = some p)
    (name : List Char) :
    (accepts p name = true ↔ Covers (· ≠ '\n') glob name) ∧
    ('\n' ∉ name → (accepts p name = true ↔ Covers (fun _ => True) glob name)) ∧
    ∃ r, Pattern.parse {} (source glob) = .ok r ∧ (FoundIn r name ↔ accepts p name = true) := by
  obtain rfl : pattern glob = p := by
    rw [compile?] at h
    split at h
    · cases h
    · exact Option.some.inj h
  refine ⟨accepts_pattern_iff, fun hname => ?_, _, parse_source glob, foundIn_anchored⟩
  rw [accepts_pattern_iff]
  exact covers_iff_of_forall fun c hc => ne_of_mem_of_not_mem hc hname

/-- A full stop in a glob is one, and the first of two stars leaves to the second what it has to. -/
theorem accepts_iff_covers_twoStars :
    ∃ p, compile? "*.b*?".toList = some p ∧ '\n' ∉ "a.b.bc".toList ∧
      accepts p "a.b.bc".toList = true ∧ accepts p "axbc".toList = false ∧
      Covers (fun _ => True) "*.b*?".toList "a.b.bc".toList ∧
      ¬ Covers (fun _ => True) "*.b*?".toList "axbc".toList := by
  have hcompile : compile? "*.b*?".toList = some (pattern "*.b*?".toList) :=
    if_neg (by decide +kernel)
  have haccepts : accepts (pattern "*.b*?".toList) "a.b.bc".toList = true := by decide +kernel
  have hrefuses : accepts (pattern "*.b*?".toList) "axbc".toList = false := by decide +kernel
  have hname : '\n' ∉ "a.b.bc".toList := by decide
  obtain ⟨-, hcovers, -⟩ := accepts_iff_covers hcompile "a.b.bc".toList
  obtain ⟨-, hcovers', -⟩ := accepts_iff_covers hcompile "axbc".toList
  refine ⟨_, hcompile, hname, haccepts, hrefuses, (hcovers hname).mp haccepts, fun h => ?_⟩
  exact absurd ((hcovers' (by decide)).mpr h) (by rw [hrefuses]; exact Bool.false_ne_true)

/-- A star stands for no text with a line feed in it: the glob covers the whole of this name, and
yet its pattern refuses it. -/
theorem star_refuses_lineFeed :
    (compile? "*.shadow".toList).map (accepts · "a\nb.shadow".toList) = some false ∧
      Covers (fun _ => True) "*.shadow".toList "a\nb.shadow".toList := by
  refine ⟨by decide +kernel, ["a\nb".toList, ['.'], ['s'], ['h'], ['a'], ['d'], ['o'], ['w']], ?_,
    rfl⟩
  exact .cons (fun _ _ => trivial) (.cons rfl (.cons rfl (.cons rfl (.cons rfl (.cons rfl
    (.cons rfl (.cons rfl .nil)))))))

end Glob

end Highlighter
