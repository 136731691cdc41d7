/-
# Trimming and splitting text

What is split can be joined again (`intercalate_splitAt`), no part holds a separator
(`not_mem_of_mem_splitWhere`), and parts that are joined can be split again (`splitAt_intercalate`).
-/
import Highlighter.Unicode.CharClass

namespace Highlighter

namespace Text

/-- A text without the characters of a class at its two ends. -/
def trimWhere (p : Char → Bool) (text : List Char) : List Char :=
  ((text.dropWhile p).reverse.dropWhile p).reverse

/-- A text without white space at its two ends. -/
def trim (text : List Char) : List Char := trimWhere CharClass.isSpace text

/-- The parts of a text between the characters of a class.  There is one part more than there are
such characters. -/
def splitWhere (p : Char → Bool) : List Char → List (List Char)
  | [] => [[]]
  | c :: cs =>
    if p c then [] :: splitWhere p cs
    else
      match splitWhere p cs with
      | [] => [[c]]
      | part :: parts => (c :: part) :: parts

/-- The parts of a text between the places where a character stands. -/
def splitAt (separator : Char) (text : List Char) : List (List Char) :=
  splitWhere (· == separator) text

/-- A text before and after the first place where a character stands. -/
def splitOnce? (separator : Char) : List Char → Option (List Char × List Char)
  | [] => none
  | c :: cs =>
    if c == separator then some ([], cs)
    else (splitOnce? separator cs).map fun (before, after) => (c :: before, after)

theorem splitWhere_ne_nil (p : Char → Bool) (text : List Char) : splitWhere p text ≠ [] := by
  cases text with
  | nil => simp [splitWhere]
  | cons c cs =>
    unfold splitWhere
    split
    · simp
    · split <;> simp

/-- **Splitting loses nothing**: the parts, joined again, are the text. -/
theorem intercalate_splitAt (separator : Char) (text : List Char) :
    [separator].intercalate (splitAt separator text) = text := by
  unfold splitAt
  induction text with
  | nil => rfl
  | cons c cs ih =>
    obtain ⟨part, parts, h⟩ := List.exists_cons_of_ne_nil (splitWhere_ne_nil (· == separator) cs)
    rw [h] at ih
    unfold splitWhere
    split
    · rename_i hc
      rw [h, List.intercalate_cons_cons, ih, eq_of_beq hc]
      rfl
    · rw [h]
      cases parts with
      | nil => simpa using ih
      | cons next parts =>
        rw [List.intercalate_cons_cons] at ih
        simp only [List.intercalate_cons_cons, List.cons_append, ih]

/-- No part holds a separator. -/
theorem not_mem_of_mem_splitWhere {p : Char → Bool} {text part : List Char}
    (h : part ∈ splitWhere p text) {c : Char} (hc : c ∈ part) : p c = false := by
  induction text generalizing part with
  | nil =>
    simp [splitWhere] at h
    simp [h] at hc
  | cons d cs ih =>
    unfold splitWhere at h
    split at h
    · rcases List.mem_cons.mp h with rfl | h
      · cases hc
      · exact ih h hc
    · rename_i hd
      split at h
      · simp at h
        simp_all
      · rename_i first rest heq
        rw [heq] at ih
        rcases List.mem_cons.mp h with rfl | h
        · rcases List.mem_cons.mp hc with rfl | hc
          · simpa using hd
          · exact ih (by simp) hc
        · exact ih (List.mem_cons_of_mem _ h) hc

theorem splitWhere_append_cons {p : Char → Bool} {c : Char} (hc : p c = true)
    (before after : List Char) :
    splitWhere p (before ++ c :: after) = splitWhere p before ++ splitWhere p after := by
  induction before with
  | nil => simp [splitWhere, hc]
  | cons d before ih =>
    obtain ⟨part, parts, h⟩ := List.exists_cons_of_ne_nil (splitWhere_ne_nil p before)
    rw [h] at ih
    rw [List.cons_append, splitWhere, splitWhere, ih, h]
    split <;> rfl

theorem splitWhere_of_forall {p : Char → Bool} {text : List Char} (h : ∀ c ∈ text, p c = false) :
    splitWhere p text = [text] := by
  induction text with
  | nil => rfl
  | cons c cs ih =>
    have hc : p c = false := h c List.mem_cons_self
    have hcs := ih fun d hd => h d (List.mem_cons_of_mem c hd)
    simp [splitWhere, hc, hcs]

theorem splitAt_of_not_mem {separator : Char} {text : List Char} (h : separator ∉ text) :
    splitAt separator text = [text] :=
  splitWhere_of_forall fun _ hc => beq_false_of_ne fun heq => h (heq ▸ hc)

/-- What stands before the first separator is the first part. -/
theorem splitAt_append_cons {separator : Char} {before : List Char} (h : separator ∉ before)
    (after : List Char) :
    splitAt separator (before ++ separator :: after) = before :: splitAt separator after :=
  calc splitAt separator (before ++ separator :: after)
      = splitAt separator before ++ splitAt separator after :=
        splitWhere_append_cons (p := (· == separator)) (beq_self_eq_true separator) before after
    _ = before :: splitAt separator after := by
        rw [splitAt_of_not_mem h, List.singleton_append]

/-- **Parts that are joined can be split again**, if no part holds a separator and there is a part
at all. -/
theorem splitAt_intercalate {separator : Char} {parts : List (List Char)} (hne : parts ≠ [])
    (h : ∀ part ∈ parts, separator ∉ part) :
    splitAt separator ([separator].intercalate parts) = parts := by
  induction parts with
  | nil => exact absurd rfl hne
  | cons part parts ih =>
    have hpart : separator ∉ part := h part List.mem_cons_self
    cases parts with
    | nil => rw [List.intercalate_singleton, splitAt_of_not_mem hpart]
    | cons next parts =>
      have hparts := ih (List.cons_ne_nil next parts) fun q hq => h q (List.mem_cons_of_mem part hq)
      rw [List.intercalate_cons_cons, List.append_assoc, List.singleton_append,
        splitAt_append_cons hpart, hparts]

theorem splitOnce?_append_cons {separator : Char} {before : List Char} (h : separator ∉ before)
    (after : List Char) :
    splitOnce? separator (before ++ separator :: after) = some (before, after) := by
  induction before with
  | nil => exact if_pos (beq_self_eq_true separator)
  | cons c before ih =>
    have hc : (c == separator) = false := beq_false_of_ne fun heq => h (heq ▸ List.mem_cons_self)
    have hbefore : separator ∉ before := fun hmem => h (List.mem_cons_of_mem c hmem)
    rw [List.cons_append, splitOnce?, hc, ih hbefore]
    rfl

/-- A text is split at the first separator. -/
theorem splitOnce?_eq_some_iff {separator : Char} {text before after : List Char} :
    splitOnce? separator text = some (before, after) ↔
      text = before ++ separator :: after ∧ separator ∉ before := by
  refine ⟨fun h => ?_, fun ⟨htext, h⟩ => htext ▸ splitOnce?_append_cons h after⟩
  induction text generalizing before with
  | nil => cases h
  | cons c cs ih =>
    unfold splitOnce? at h
    split at h
    · rename_i hc
      obtain ⟨rfl, rfl⟩ := Prod.mk.inj (Option.some.inj h)
      exact ⟨congrArg (· :: cs) (eq_of_beq hc), List.not_mem_nil⟩
    · rename_i hc
      obtain ⟨⟨front, back⟩, hsplit, hpair⟩ := Option.map_eq_some_iff.mp h
      obtain ⟨rfl, rfl⟩ := Prod.mk.inj hpair
      obtain ⟨rfl, hmem⟩ := ih hsplit
      refine ⟨rfl, fun hin => ?_⟩
      rcases List.mem_cons.mp hin with heq | hin
      · exact hc (beq_iff_eq.mpr heq.symm)
      · exact hmem hin

end Text

end Highlighter
