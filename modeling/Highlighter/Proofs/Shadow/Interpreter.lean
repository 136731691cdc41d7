/-
# Interpreter lines

A text that begins with `#!` and names Shadow as its interpreter is certainly written in it.  What
names it is a word of the first line, and the line is cut into words to find it.  Here the same is
said by places: `shadow` stands in the line, with the beginning or a word break just before it and
the end, a word break or a full stop just behind it (`NamesShadow`).

* A part of a text that is cut is a stretch of it with no separator inside and one on either side,
  or an end of the text (`Text.mem_splitWhere_iff`).
* Whether the line ends in a line feed alone or in a carriage return too makes no difference, as a
  carriage return is a word break (`namesShadow_return`).
-/
import Highlighter.Shadow.Language
import Mathlib.Data.List.TakeWhile

namespace Highlighter

/-! ## 1. Parts of a text -/

namespace Text

variable {p : Char → Bool}

/-- A text is cut at its first separator, and then what follows is cut. -/
theorem splitWhere_eq_or (p : Char → Bool) (text : List Char) :
    (∀ c ∈ text, p c = false) ∨ ∃ first c rest, text = first ++ c :: rest ∧ p c = true ∧
      (∀ d ∈ first, p d = false) ∧ splitWhere p text = first :: splitWhere p rest := by
  by_cases h : ∀ c ∈ text, p c = false
  · exact .inl h
  · have hfirst : ∀ c ∈ text.takeWhile (!p ·), p c = false := by
      intro c hc
      simpa using List.mem_takeWhile_imp hc
    obtain ⟨c, rest, hrest⟩ : ∃ c rest, text.dropWhile (!p ·) = c :: rest := by
      refine List.exists_cons_of_ne_nil fun hnil => h fun c hc => hfirst c ?_
      rwa [← List.takeWhile_append_dropWhile (p := (!p ·)) (l := text), hnil, List.append_nil] at hc
    have hc : p c = true := by
      have hhead := List.head?_dropWhile_not (!p ·) text
      rw [hrest] at hhead
      simpa using hhead
    have htext : text = text.takeWhile (!p ·) ++ c :: rest := by
      rw [← hrest, List.takeWhile_append_dropWhile]
    refine .inr ⟨_, c, rest, htext, hc, hfirst, ?_⟩
    calc splitWhere p text
        = splitWhere p (text.takeWhile (!p ·) ++ c :: rest) := congrArg (splitWhere p) htext
      _ = text.takeWhile (!p ·) :: splitWhere p rest := by
          rw [splitWhere_append_cons hc, splitWhere_of_forall hfirst, List.singleton_append]

/-- **A part is a stretch without separators** that has a separator or an end of the text on either
side. -/
theorem mem_splitWhere_iff {part text : List Char} :
    part ∈ splitWhere p text ↔ ∃ front back, text = front ++ (part ++ back) ∧
      (∀ c ∈ part, p c = false) ∧ (∀ c ∈ front.getLast?, p c = true) ∧
      ∀ c ∈ back.head?, p c = true := by
  constructor
  · intro h
    -- By induction on the length of the text, as what follows a separator is cut again.
    induction hn : text.length using Nat.strongRecOn generalizing text with
    | ind n ih =>
      rcases splitWhere_eq_or p text with htext | ⟨first, c, rest, rfl, hc, hfirst, hsplit⟩
      · rw [splitWhere_of_forall htext, List.mem_singleton] at h
        subst h
        exact ⟨[], [], by simp, htext, by simp, by simp⟩
      · rw [hsplit] at h
        rcases List.mem_cons.mp h with rfl | h
        · exact ⟨[], c :: rest, rfl, hfirst, by simp, by simpa using hc⟩
        · have hlt : rest.length < n := by
            rw [← hn, List.length_append, List.length_cons]
            omega
          obtain ⟨front, back, rfl, hpart, hfront, hback⟩ := ih _ hlt h rfl
          refine ⟨first ++ c :: front, back, by simp, hpart, ?_, hback⟩
          cases hlast : front.getLast? with
          | none => simpa [List.getLast?_eq_none_iff.mp hlast] using hc
          | some d =>
            obtain ⟨before, rfl⟩ := List.getLast?_eq_some_iff.mp hlast
            rw [← List.cons_append, ← List.append_assoc, List.getLast?_concat]
            rintro e ⟨⟩
            exact hfront d hlast
  · rintro ⟨front, back, rfl, hpart, hfront, hback⟩
    have hmem : part ∈ splitWhere p (part ++ back) := by
      cases back with
      | nil => rw [List.append_nil, splitWhere_of_forall hpart]; exact List.mem_singleton_self _
      | cons c back =>
        rw [splitWhere_append_cons (hback c rfl), splitWhere_of_forall hpart]
        exact List.mem_cons_self
    cases hlast : front.getLast? with
    | none => rwa [List.getLast?_eq_none_iff.mp hlast, List.nil_append]
    | some c =>
      obtain ⟨before, rfl⟩ := List.getLast?_eq_some_iff.mp hlast
      rw [List.append_assoc, List.singleton_append, splitWhere_append_cons (hfront c hlast)]
      exact List.mem_append_right _ hmem

/-- What has no separator inside and none before it is the beginning of a part, which goes on up to
the next separator. -/
theorem append_takeWhile_mem_splitWhere {front begun : List Char} (back : List Char)
    (hbegun : ∀ c ∈ begun, p c = false) (hfront : ∀ c ∈ front.getLast?, p c = true) :
    begun ++ back.takeWhile (!p ·) ∈ splitWhere p (front ++ (begun ++ back)) := by
  refine mem_splitWhere_iff.mpr ⟨front, back.dropWhile (!p ·), ?_, ?_, hfront, ?_⟩
  · rw [List.append_assoc, List.takeWhile_append_dropWhile]
  · refine List.forall_mem_append.mpr ⟨hbegun, fun c hc => ?_⟩
    simpa using List.mem_takeWhile_imp hc
  · intro c hc
    have hhead := List.head?_dropWhile_not (!p ·) back
    rw [Option.mem_def.mp hc] at hhead
    simpa using hhead

end Text

/-! ## 2. Words of a line -/

namespace Shadow

/-- The word `shadow` stands somewhere in the text: at its beginning or just behind white space or a
slash, and just before the end, white space, a slash or a full stop. -/
def NamesShadow (text : List Char) : Prop :=
  ∃ front back, text = front ++ ("shadow".toList ++ back) ∧
    (front = [] ∨ ∃ c, front.getLast? = some c ∧ (CharClass.isSpace c = true ∨ c = '/')) ∧
    (back = [] ∨ ∃ c, back.head? = some c ∧ (CharClass.isSpace c = true ∨ c = '/' ∨ c = '.'))

theorem isWordBreak_iff {c : Char} :
    isWordBreak c = true ↔ CharClass.isSpace c = true ∨ c = '/' := by
  simp [isWordBreak]

/-- **A word that names Shadow is one at the beginning of which `shadow` stands.** -/
theorem any_isInterpreter_iff {line : List Char} :
    (Text.splitWhere isWordBreak line).any isInterpreter = true ↔ NamesShadow line := by
  rw [List.any_eq_true]
  constructor
  · rintro ⟨word, hword, hnames⟩
    obtain ⟨front, back, rfl, hnone, hfront, hback⟩ := Text.mem_splitWhere_iff.mp hword
    have hbefore : front = [] ∨ ∃ c, front.getLast? = some c ∧
        (CharClass.isSpace c = true ∨ c = '/') := by
      rcases hlast : front.getLast? with - | c
      · exact .inl (List.getLast?_eq_none_iff.mp hlast)
      · exact .inr ⟨c, rfl, isWordBreak_iff.mp (hfront c hlast)⟩
    rcases Bool.or_eq_true_iff.mp hnames with hnames | hnames
    · obtain rfl := eq_of_beq hnames
      refine ⟨front, back, rfl, hbefore, ?_⟩
      rcases back with - | ⟨c, back⟩
      · exact .inl rfl
      · rcases isWordBreak_iff.mp (hback c rfl) with hc | hc
        · exact .inr ⟨c, rfl, .inl hc⟩
        · exact .inr ⟨c, rfl, .inr (.inl hc)⟩
    · obtain ⟨more, rfl⟩ := List.isPrefixOf_iff_prefix.mp hnames
      refine ⟨front, '.' :: (more ++ back), by simp, hbefore, .inr ⟨'.', rfl, .inr (.inr rfl)⟩⟩
  · rintro ⟨front, back, rfl, hfront, hback⟩
    have hletters : "shadow".toList.all (fun c => !isWordBreak c) = true := by decide
    have hword : ∀ c ∈ "shadow".toList, isWordBreak c = false := fun c hc => by
      simpa using List.all_eq_true.mp hletters c hc
    have hbefore : ∀ c ∈ front.getLast?, isWordBreak c = true := by
      intro c hc
      rcases hfront with rfl | ⟨d, hd, hbreak⟩
      · cases hc
      · obtain rfl := Option.some.inj (hd.symm.trans hc)
        exact isWordBreak_iff.mpr hbreak
    refine ⟨_, Text.append_takeWhile_mem_splitWhere back hword hbefore, ?_⟩
    rw [isInterpreter, Bool.or_eq_true, beq_iff_eq, List.isPrefixOf_iff_prefix]
    rcases back with - | ⟨c, back⟩
    · exact .inl rfl
    · obtain ⟨d, hd, hbreak⟩ := hback.resolve_left (List.cons_ne_nil c back)
      obtain rfl : c = d := Option.some.inj hd
      by_cases hc : isWordBreak c = true
      · exact .inl (by simp [hc])
      · rw [isWordBreak_iff, not_or] at hc
        obtain rfl : c = '.' := (hbreak.resolve_left hc.1).resolve_left hc.2
        exact .inr ⟨back.takeWhile (!isWordBreak ·), rfl⟩

/-- A carriage return behind a line changes nothing. -/
theorem namesShadow_return {line : List Char} :
    NamesShadow (line ++ ['\r']) ↔ NamesShadow line := by
  have hreturn : CharClass.isSpace '\r' = true := by decide
  constructor
  · rintro ⟨front, back, hline, hfront, hback⟩
    rcases List.eq_nil_or_concat back with rfl | ⟨before, c, rfl⟩
    · -- The word does not end in a carriage return.
      have hlast := congrArg List.getLast? hline
      simp at hlast
    · rw [List.concat_eq_append] at hline hback
      rw [← List.append_assoc, ← List.append_assoc, List.append_assoc front] at hline
      obtain ⟨rfl, hc⟩ := List.append_inj' hline rfl
      refine ⟨front, before, by simp, hfront, ?_⟩
      rcases before with - | ⟨d, before⟩
      · exact .inl rfl
      · exact .inr (hback.resolve_left (by simp))
  · rintro ⟨front, back, rfl, hfront, hback⟩
    refine ⟨front, back ++ ['\r'], by simp, hfront, .inr ?_⟩
    rcases back with - | ⟨c, back⟩
    · exact ⟨'\r', rfl, .inl hreturn⟩
    · exact hback.resolve_left (List.cons_ne_nil c back)

/-! ## 3. The first line -/

/-- The first line of a text, without what ends it: a line feed, or a carriage return and a line
feed. -/
def firstLine (text : List Char) : List Char :=
  let line := text.takeWhile (· != '\n')
  if '\n' ∈ text ∧ line.getLast? = some '\r' then line.dropLast else line

theorem takeWhile_eq_firstLine_or (text : List Char) :
    text.takeWhile (· != '\n') = firstLine text ∨
      text.takeWhile (· != '\n') = firstLine text ++ ['\r'] := by
  rw [firstLine]
  split
  · rename_i h
    obtain ⟨line, hline⟩ := List.getLast?_eq_some_iff.mp h.2
    exact .inr (by rw [hline, List.dropLast_concat])
  · exact .inl rfl

/-- The line begins with `#!`, and behind that it names Shadow. -/
def IsInterpreterLine (line : List Char) : Prop :=
  ∃ rest, line = '#' :: '!' :: rest ∧ NamesShadow rest

theorem isInterpreterLine_return {line : List Char} :
    IsInterpreterLine (line ++ ['\r']) ↔ IsInterpreterLine line := by
  constructor
  · rintro ⟨rest, hline, hnames⟩
    rcases line with - | ⟨c, - | ⟨d, line⟩⟩
    · simp at hline
    · simp at hline
    · simp only [List.cons_append, List.cons.injEq] at hline
      obtain ⟨rfl, rfl, rfl⟩ := hline
      exact ⟨line, rfl, namesShadow_return.mp hnames⟩
  · rintro ⟨rest, rfl, hnames⟩
    exact ⟨rest ++ ['\r'], rfl, namesShadow_return.mpr hnames⟩

theorem hasInterpreterLine_iff {text : List Char} :
    hasInterpreterLine text = true ↔ IsInterpreterLine (firstLine text) := by
  have hwhole : hasInterpreterLine text = true ↔
      IsInterpreterLine (text.takeWhile (· != '\n')) := by
    rw [hasInterpreterLine]
    split
    · rename_i line hline
      rw [hline, any_isInterpreter_iff]
      refine ⟨fun h => ⟨line, rfl, h⟩, fun ⟨rest, hrest, h⟩ => ?_⟩
      simp only [List.cons.injEq, true_and] at hrest
      exact hrest ▸ h
    · rename_i hother
      exact ⟨fun h => (by cases h), fun ⟨rest, hrest, _⟩ => absurd hrest (hother rest)⟩
  rw [hwhole]
  rcases takeWhile_eq_firstLine_or text with hline | hline
  · rw [hline]
  · rw [hline, isInterpreterLine_return]

/-- **A text is certainly written in Shadow just if its first line names Shadow as the
interpreter**, and otherwise it is not taken to be.  Nothing from the first line feed on counts. -/
theorem confidence_eq_one_iff (text : List Char) :
    (confidence text = .value 1 ↔
      ∃ rest, firstLine text = '#' :: '!' :: rest ∧ NamesShadow rest) ∧
    (confidence text = .value 0 ↔
      ¬ ∃ rest, firstLine text = '#' :: '!' :: rest ∧ NamesShadow rest) ∧
    confidence text = confidence (text.takeWhile (· != '\n')) := by
  have hline : hasInterpreterLine text = true ↔
      ∃ rest, firstLine text = '#' :: '!' :: rest ∧ NamesShadow rest := hasInterpreterLine_iff
  refine ⟨?_, ?_, ?_⟩
  · rw [← hline, confidence]
    cases hasInterpreterLine text <;> decide
  · rw [← hline, confidence]
    cases hasInterpreterLine text <;> decide
  · rw [confidence, confidence, hasInterpreterLine, hasInterpreterLine, List.takeWhile_idem]

/-- A word that only begins and ends with `shadow` names nothing, and neither does a later line. -/
example :
    confidence "#!/usr/bin/env\tshadow.sh\r\n".toList = .value 1 ∧
      confidence "#!/bin/shadowshadow\n#!shadow".toList = .value 0 := by decide

end Shadow

end Highlighter
