/-
# Line ends in one pass

Line ends are unified by two replacements over the whole text: a line feed for each carriage return
and line feed, and then one for each carriage return that is left.  The first replacement can bring
a carriage return and a line feed together that did not stand together in the text: `\r\r\n` becomes
`\r\n`.

* **The two replacements come to one pass from left to right** (`unifyInOnePass`), which puts a line
  feed for a carriage return and the line feed directly after it, if there is one
  (`unifyLineEnds_eq_unifyInOnePass`).  What the first replacement brings together is not taken for
  one line end, since the second looks at each character by itself.  So there are three steps that
  the replacements can take at the front of a text, and they are those of the pass
  (`unifyLineEnds_pair`, `unifyLineEnds_return`, `unifyLineEnds_other`).
* **The two replacements are such as can be made of any text** (`Text.replace`), and are made only
  where there is a carriage return at all (`replaceLineEnds_eq_unifyLineEnds`).
* **A text without a carriage return is in normal form, and no other one** (`normal_lineEnds_iff`),
  where line ends are all that the options are about.
-/
import Highlighter.Proofs.Options.NormalForm

namespace Highlighter

/-! ## 1. Replacing -/

namespace Text

/-- A text with another one put in every place where a given one stands, which must not be empty.
Places are taken from left to right and do not overlap. -/
def replace (old new : List Char) : List Char → List Char
  | [] => []
  | c :: cs =>
    if old.isPrefixOf (c :: cs) then new ++ replace old new (cs.drop (old.length - 1))
    else c :: replace old new cs
  termination_by text => text.length
  decreasing_by all_goals simp +arith

variable {old : List Char} {c : Char} {cs : List Char}

theorem replace_append (hold : old ≠ []) (new cs : List Char) :
    replace old new (old ++ cs) = new ++ replace old new cs := by
  obtain ⟨d, ds, rfl⟩ := List.exists_cons_of_ne_nil hold
  have hprefix : (d :: ds).isPrefixOf (d :: (ds ++ cs)) = true :=
    List.isPrefixOf_iff_prefix.mpr (List.prefix_append (d :: ds) cs)
  rw [List.cons_append, replace, if_pos hprefix, List.length_cons, Nat.add_sub_cancel,
    List.drop_left]

theorem replace_cons (h : ¬old <+: c :: cs) (new : List Char) :
    replace old new (c :: cs) = c :: replace old new cs := by
  rw [replace, if_neg (mt List.isPrefixOf_iff_prefix.mp h)]

/-- To replace a single character is to replace each character by itself. -/
theorem replace_singleton (old new : Char) (text : List Char) :
    replace [old] [new] text = text.map fun c => if c == old then new else c := by
  induction text with
  | nil => rw [replace, List.map_nil]
  | cons c cs ih =>
    rw [List.map_cons]
    split
    · rename_i hc
      rw [eq_of_beq hc, ← ih]
      exact replace_append (List.cons_ne_nil old []) [new] cs
    · rename_i hc
      rw [← ih]
      refine replace_cons (fun hprefix => hc ?_) [new]
      exact beq_iff_eq.mpr (List.cons_prefix_cons.mp hprefix).1.symm

end Text

namespace TextOptions

/-- The two replacements of line ends, in a text that has a carriage return. -/
def replaceLineEnds (text : List Char) : List Char :=
  if text.contains '\r' then
    Text.replace ['\r'] ['\n'] (Text.replace ['\r', '\n'] ['\n'] text)
  else text

theorem replace_eq_joinLineEnds (text : List Char) :
    Text.replace ['\r', '\n'] ['\n'] text = joinLineEnds text := by
  fun_induction joinLineEnds text with
  | case1 => rw [Text.replace]
  | case2 cs ih =>
    rw [← ih]
    exact Text.replace_append (List.cons_ne_nil '\r' ['\n']) ['\n'] cs
  | case3 c cs hpair ih =>
    have hprefix : ¬['\r', '\n'] <+: c :: cs := by
      rintro ⟨rest, hrest⟩
      obtain ⟨hc, hcs⟩ := List.cons_eq_cons.mp hrest
      exact hpair rest hc.symm hcs.symm
    rw [Text.replace_cons hprefix, ih]

/-- **The first pass over a text is the two replacements.**  Without a carriage return there is
nothing to replace. -/
theorem replaceLineEnds_eq_unifyLineEnds (text : List Char) :
    replaceLineEnds text = unifyLineEnds text := by
  unfold replaceLineEnds
  split
  · rw [replace_eq_joinLineEnds, Text.replace_singleton, unifyLineEnds]
  · rename_i hreturn
    have hmem : '\r' ∉ text := by simpa using hreturn
    rw [unifyLineEnds_of_not_mem hmem]

/-! ## 2. The pass -/

/-- A line feed for every line end, in one pass from left to right: for each carriage return,
together with the line feed directly after it if there is one.  Every other character is copied. -/
def unifyInOnePass : List Char → List Char
  | [] => []
  | '\r' :: '\n' :: cs => '\n' :: unifyInOnePass cs
  | '\r' :: cs => '\n' :: unifyInOnePass cs
  | c :: cs => c :: unifyInOnePass cs

/-! ## 3. The replacements at the front of a text -/

section

variable {c : Char} {cs : List Char}

theorem joinLineEnds_return (h : ∀ rest, cs ≠ '\n' :: rest) :
    joinLineEnds ('\r' :: cs) = '\r' :: joinLineEnds cs := by
  rw [joinLineEnds]
  rintro rest - rfl
  exact h rest rfl

theorem joinLineEnds_other (h : c ≠ '\r') : joinLineEnds (c :: cs) = c :: joinLineEnds cs := by
  rw [joinLineEnds]
  exact fun _ hc _ => h hc

theorem unifyLineEnds_pair (cs : List Char) :
    unifyLineEnds ('\r' :: '\n' :: cs) = '\n' :: unifyLineEnds cs := rfl

/-- A carriage return that no line feed follows is a line end of its own, whatever the first
replacement makes of the text behind it. -/
theorem unifyLineEnds_return (h : ∀ rest, cs ≠ '\n' :: rest) :
    unifyLineEnds ('\r' :: cs) = '\n' :: unifyLineEnds cs := by
  rw [unifyLineEnds, joinLineEnds_return h, List.map_cons]
  rfl

theorem unifyLineEnds_other (h : c ≠ '\r') :
    unifyLineEnds (c :: cs) = c :: unifyLineEnds cs := by
  rw [unifyLineEnds, joinLineEnds_other h, List.map_cons, if_neg (by simpa using h)]
  rfl

end

/-! ## 4. Two replacements and one pass -/

/-- **The two replacements come to one pass.** -/
theorem unifyLineEnds_eq_unifyInOnePass (text : List Char) :
    unifyLineEnds text = unifyInOnePass text := by
  -- The induction is on the pass, so that a pair at the front of the text is taken as a whole.
  fun_induction unifyInOnePass text with
  | case1 => rfl
  | case2 cs ih => rw [unifyLineEnds_pair, ih]
  | case3 cs hcs ih => rw [unifyLineEnds_return hcs, ih]
  | case4 c cs _ hc ih => rw [unifyLineEnds_other hc, ih]

/-- Where only line ends are to be unified, the texts in normal form are those without a carriage
return. -/
theorem normal_lineEnds_iff {text : List Char} :
    ({ normalizeNewlines := true } : TextOptions).Normal text ↔ '\r' ∉ text := by
  constructor
  · intro h
    exact h.lineEnds rfl
  · intro h
    exact ⟨fun _ => h, nofun, nofun, nofun, nofun⟩

/-- **Line ends are unified in one pass.**  With no other option on, each carriage return of a text,
together with the line feed directly after it if there is one, becomes one line feed and every other
character is copied, just as the two replacements over the whole text have it; and the texts that
stay as they are are those without a carriage return. -/
theorem prepare_unifies_in_one_pass (text : List Char) :
    ({ normalizeNewlines := true } : TextOptions).prepare text = unifyInOnePass text ∧
      replaceLineEnds text = unifyInOnePass text ∧
      (({ normalizeNewlines := true } : TextOptions).prepare text = text ↔ '\r' ∉ text) := by
  refine ⟨?_, ?_, prepare_eq_self_iff.trans normal_lineEnds_iff⟩
  · -- The passes after the first one are off and hand the text on as it is.
    have hprepare : ({ normalizeNewlines := true } : TextOptions).prepare text
        = unifyLineEnds text := rfl
    rw [hprepare, unifyLineEnds_eq_unifyInOnePass]
  · rw [replaceLineEnds_eq_unifyLineEnds, unifyLineEnds_eq_unifyInOnePass]

/-- The line feed belongs to the second carriage return, and the first one is a line end of its own;
a line feed that comes first is one too. -/
example : unifyLineEnds ['\r', '\r', '\n', 'x', '\n', '\r'] = ['\n', '\n', 'x', '\n', '\n'] := by
  decide

end TextOptions

end Highlighter
