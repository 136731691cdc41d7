/-
# The normal form of a text

What the options ask of a text, said of the text alone (`TextOptions.Normal`): no carriage return,
no tab, a line feed at the end, and nothing left to strip.

* **What the options make of a text is in normal form** (`normal_prepare`).  Each of the four passes
  keeps what the earlier ones have done; that stripping comes before the last pass and not after it
  is why the line feed at the end is left out of account where it is asked for (`body`).
* **A text in normal form stays as it is** (`prepare_of_normal`).  Stripping takes the line feed at
  the end away, and the last pass puts it back (`closeLine_trimWhere`).

So a text that was prepared once is not changed by being prepared again, and the texts that stay
as they are are those in normal form (`prepare_eq_self_iff`).  There is a text that breaks with
every option (`telltale`): it stays as it is just if all options are off.
-/
import Highlighter.Options.Basic
import Mathlib.Data.List.DropRight

namespace Highlighter

/-! ## 1. Trimming -/

namespace Text

/-- The text neither begins nor ends with a character of the class. -/
structure Trimmed (p : Char → Bool) (text : List Char) : Prop where
  first : ∀ c, text.head? = some c → p c = false
  last : ∀ c, text.getLast? = some c → p c = false

variable {p q : Char → Bool} {text : List Char} {c : Char}

theorem Trimmed.mono (h : Trimmed p text) (hqp : ∀ c, q c = true → p c = true) :
    Trimmed q text := by
  have hnot : ∀ c, p c = false → q c = false := by
    intro c hc
    rw [← Bool.not_eq_true] at hc ⊢
    exact mt (hqp c) hc
  exact ⟨fun c hc => hnot c (h.first c hc), fun c hc => hnot c (h.last c hc)⟩

theorem trimWhere_eq (p : Char → Bool) (text : List Char) :
    trimWhere p text = (text.dropWhile p).rdropWhile p := rfl

theorem trimWhere_sublist (p : Char → Bool) (text : List Char) :
    (trimWhere p text).Sublist text :=
  (List.rdropWhile_prefix p _).sublist.trans (List.dropWhile_sublist p)

/-- **What is left after trimming neither begins nor ends with a character of the class.** -/
theorem trimmed_trimWhere (p : Char → Bool) (text : List Char) : Trimmed p (trimWhere p text) := by
  rw [trimWhere_eq]
  constructor
  · intro c hc
    have hne : text.dropWhile p ≠ [] := by
      intro hnil
      simp [hnil] at hc
    -- Taking characters away at the end leaves the first one where it is, if any is left.
    obtain ⟨rest, hrest⟩ := List.rdropWhile_prefix p (text.dropWhile p)
    have hhead : (text.dropWhile p).head? = some c := by
      rw [← hrest, List.head?_append, hc, Option.some_or]
    rw [List.head?_eq_some_head hne] at hhead
    simpa [Option.some.inj hhead] using List.head_dropWhile_not p hne
  · intro c hc
    have hne : (text.dropWhile p).rdropWhile p ≠ [] := by
      intro hnil
      simp [hnil] at hc
    rw [List.getLast?_eq_some_getLast hne] at hc
    simpa [Option.some.inj hc] using List.rdropWhile_last_not p _ hne

theorem Trimmed.dropWhile (h : Trimmed p text) : text.dropWhile p = text := by
  cases text with
  | nil => rfl
  | cons c text => exact List.dropWhile_cons_of_neg (by simp [h.first c rfl])

theorem Trimmed.rdropWhile (h : Trimmed p text) : text.rdropWhile p = text := by
  rw [List.rdropWhile_eq_self_iff]
  intro hne
  simp [h.last _ (List.getLast?_eq_some_getLast hne)]

/-- A text that is trimmed already stays as it is. -/
theorem Trimmed.trimWhere (h : Trimmed p text) : trimWhere p text = text := by
  rw [trimWhere_eq, h.dropWhile, h.rdropWhile]

/-- A character of the class behind a trimmed text is all that trimming takes away. -/
theorem Trimmed.trimWhere_concat (h : Trimmed p text) (hc : p c = true) :
    Text.trimWhere p (text ++ [c]) = text := by
  rw [trimWhere_eq]
  cases text with
  | nil => simp [hc]
  | cons d text =>
    rw [List.cons_append, List.dropWhile_cons_of_neg (by simp [h.first d rfl]), ← List.cons_append,
      List.rdropWhile_concat_pos p _ _ hc, h.rdropWhile]

end Text

namespace TextOptions

open Text (Trimmed trimWhere)

/-! ## 2. The passes -/

theorem not_mem_unifyLineEnds (text : List Char) : '\r' ∉ unifyLineEnds text := by
  intro h
  obtain ⟨c, -, hc⟩ := List.mem_map.mp h
  split at hc
  · exact absurd hc (by decide)
  · rename_i hne
    exact hne (beq_iff_eq.mpr hc)

theorem joinLineEnds_of_not_mem {text : List Char} (h : '\r' ∉ text) :
    joinLineEnds text = text := by
  fun_induction joinLineEnds text with
  | case1 => rfl
  | case2 cs ih => exact absurd List.mem_cons_self h
  | case3 c cs _ ih => rw [ih fun hcs => h (List.mem_cons_of_mem c hcs)]

theorem unifyLineEnds_of_not_mem {text : List Char} (h : '\r' ∉ text) :
    unifyLineEnds text = text := by
  rw [unifyLineEnds, joinLineEnds_of_not_mem h]
  conv_rhs => rw [← List.map_id text]
  refine List.map_congr_left fun c hc => if_neg ?_
  rw [beq_iff_eq]
  rintro rfl
  exact h hc

theorem mem_expandTabs {size : Nat} {text : List Char} {c : Char} (h : c ∈ expandTabs size text) :
    c = ' ' ∨ c ∈ text ∧ c ≠ '\t' := by
  obtain ⟨d, hd, hc⟩ := List.mem_flatMap.mp h
  split at hc
  · exact Or.inl (List.eq_of_mem_replicate hc)
  · rename_i hne
    obtain rfl := List.mem_singleton.mp hc
    exact Or.inr ⟨hd, by simpa using hne⟩

theorem expandTabs_of_not_mem {size : Nat} {text : List Char} (h : '\t' ∉ text) :
    expandTabs size text = text := by
  induction text with
  | nil => rfl
  | cons c text ih =>
    obtain ⟨hc, htext⟩ := not_or.mp (mt List.mem_cons.mpr h)
    rw [expandTabs, List.flatMap_cons, if_neg (by simpa using Ne.symm hc)]
    exact congrArg (c :: ·) (ih htext)

theorem mem_closeLine {text : List Char} {c : Char} (h : c ∈ closeLine text) :
    c ∈ text ∨ c = '\n' := by
  unfold closeLine at h
  split at h
  · exact Or.inl h
  · simpa using h

theorem getLast?_closeLine (text : List Char) : (closeLine text).getLast? = some '\n' := by
  unfold closeLine
  split
  · exact beq_iff_eq.mp ‹_›
  · simp

theorem closeLine_of_getLast? {text : List Char} (h : text.getLast? = some '\n') :
    closeLine text = text :=
  if_pos (beq_iff_eq.mpr h)

section

variable {p : Char → Bool} {text : List Char}

/-- A text that does not end with white space has a line feed put behind it. -/
theorem closeLine_of_trimmed (h : Trimmed p text) (hp : p '\n' = true) :
    closeLine text = text ++ ['\n'] := by
  refine if_neg fun hlast => ?_
  rw [h.last '\n' (beq_iff_eq.mp hlast)] at hp
  cases hp

/-- **Stripping takes away the line feed that was put at the end, and it is put there again.** -/
theorem closeLine_trimWhere (h : Trimmed p text) (hp : p '\n' = true) :
    closeLine (trimWhere p (text ++ ['\n'])) = text ++ ['\n'] := by
  rw [h.trimWhere_concat hp, closeLine_of_trimmed h hp]

end

/-! ## 3. The normal form -/

section

variable (o : TextOptions)

/-- The text without the line feed that is asked for at its end. -/
def body (text : List Char) : List Char := if o.ensureNewline then text.dropLast else text

/-- What the options ask of a text. -/
structure Normal (text : List Char) : Prop where
  lineEnds : o.normalizeNewlines = true → '\r' ∉ text
  tabs : 0 < o.tabSize → '\t' ∉ text
  closed : o.ensureNewline = true → text.getLast? = some '\n'
  stripped : o.stripAll = true → Trimmed CharClass.isSpace (o.body text)
  strippedNewlines : o.stripNewlines = true → Trimmed (· == '\n') (o.body text)

/-- The first two passes. -/
def plain (text : List Char) : List Char :=
  let text := if o.normalizeNewlines then unifyLineEnds text else text
  if 0 < o.tabSize then expandTabs o.tabSize text else text

/-- The class of characters that are stripped, if any are. -/
def blanks? : Option (Char → Bool) :=
  if o.stripAll then some CharClass.isSpace
  else if o.stripNewlines then some (· == '\n')
  else none

/-- The third pass. -/
def strip (text : List Char) : List Char := o.blanks?.elim text fun p => trimWhere p text

/-- The last pass. -/
def finish (text : List Char) : List Char := if o.ensureNewline then closeLine text else text

variable {o}

theorem prepare_eq (text : List Char) : o.prepare text = o.finish (o.strip (o.plain text)) := by
  rw [prepare, strip, blanks?]
  cases o.stripAll <;> cases o.stripNewlines <;> rfl

/-- White space is stripped where all of it is to go, and line feeds where only they are. -/
theorem eq_of_blanks? {p : Char → Bool} (h : o.blanks? = some p) :
    o.stripAll = true ∧ p = CharClass.isSpace ∨ o.stripNewlines = true ∧ p = (· == '\n') := by
  unfold blanks? at h
  split at h
  · exact Or.inl ⟨‹_›, (Option.some.inj h).symm⟩
  · split at h
    · exact Or.inr ⟨‹_›, (Option.some.inj h).symm⟩
    · cases h

/-- A line feed is among the characters that are stripped. -/
theorem newline_of_blanks? {p : Char → Bool} (h : o.blanks? = some p) : p '\n' = true := by
  rcases eq_of_blanks? h with ⟨-, rfl⟩ | ⟨-, rfl⟩
  · decide +kernel
  · rfl

theorem strip_of_some {p : Char → Bool} (h : o.blanks? = some p) (text : List Char) :
    o.strip text = trimWhere p text := by
  rw [strip, h, Option.elim_some]

theorem strip_of_none (h : o.blanks? = none) (text : List Char) : o.strip text = text := by
  rw [strip, h, Option.elim_none]

theorem not_mem_plain_return (h : o.normalizeNewlines = true) (text : List Char) :
    '\r' ∉ o.plain text := by
  unfold plain
  rw [if_pos h]
  split
  · intro hmem
    rcases mem_expandTabs hmem with hc | ⟨hmem, -⟩
    · exact absurd hc (by decide)
    · exact not_mem_unifyLineEnds text hmem
  · exact not_mem_unifyLineEnds text

theorem not_mem_plain_tab (h : 0 < o.tabSize) (text : List Char) : '\t' ∉ o.plain text := by
  unfold plain
  rw [if_pos h]
  intro hmem
  rcases mem_expandTabs hmem with hc | ⟨-, hc⟩
  · exact absurd hc (by decide)
  · exact hc rfl

theorem plain_of_normal {text : List Char} (h : o.Normal text) : o.plain text = text := by
  have hlines : (if o.normalizeNewlines then unifyLineEnds text else text) = text := by
    split
    · exact unifyLineEnds_of_not_mem (h.lineEnds ‹_›)
    · rfl
  rw [plain, hlines]
  split
  · exact expandTabs_of_not_mem (h.tabs ‹_›)
  · rfl

/-- The last two passes put in a line feed at most. -/
theorem mem_finish_strip {text : List Char} {c : Char} (h : c ∈ o.finish (o.strip text)) :
    c ∈ text ∨ c = '\n' := by
  have hstrip : ∀ c ∈ o.strip text, c ∈ text := by
    intro c hc
    cases hp : o.blanks? with
    | none => rwa [strip_of_none hp] at hc
    | some p =>
      rw [strip_of_some hp] at hc
      exact (Text.trimWhere_sublist p text).subset hc
  unfold finish at h
  split at h
  · exact (mem_closeLine h).imp_left (hstrip c)
  · exact Or.inl (hstrip c h)

/-- What stripping has left is the body of the text that comes out. -/
theorem body_finish_strip {p : Char → Bool} (hp : o.blanks? = some p) (text : List Char) :
    o.body (o.finish (o.strip text)) = trimWhere p text := by
  rw [strip_of_some hp, body, finish]
  split
  · rw [closeLine_of_trimmed (Text.trimmed_trimWhere p text) (newline_of_blanks? hp),
      List.dropLast_concat]
  · rfl

/-- **What the options make of a text is in normal form.** -/
theorem normal_prepare (o : TextOptions) (text : List Char) : o.Normal (o.prepare text) := by
  rw [prepare_eq]
  refine ⟨fun hlines hmem => ?_, fun htabs hmem => ?_, fun hensure => ?_, fun hall => ?_,
    fun hnewlines => ?_⟩
  · rcases mem_finish_strip hmem with hmem | hc
    · exact not_mem_plain_return hlines text hmem
    · exact absurd hc (by decide)
  · rcases mem_finish_strip hmem with hmem | hc
    · exact not_mem_plain_tab htabs text hmem
    · exact absurd hc (by decide)
  · rw [finish, if_pos hensure]
    exact getLast?_closeLine _
  · have hp : o.blanks? = some CharClass.isSpace := if_pos hall
    rw [body_finish_strip hp]
    exact Text.trimmed_trimWhere _ _
  · -- Where all white space is stripped, line feeds are stripped with it.
    obtain ⟨p, hp⟩ : ∃ p, o.blanks? = some p := by
      rw [blanks?, if_pos hnewlines]
      split
      · exact ⟨_, rfl⟩
      · exact ⟨_, rfl⟩
    rw [body_finish_strip hp]
    refine (Text.trimmed_trimWhere p _).mono fun c hc => ?_
    rw [beq_iff_eq.mp hc]
    exact newline_of_blanks? hp

/-- **A text in normal form stays as it is.** -/
theorem prepare_of_normal {text : List Char} (h : o.Normal text) : o.prepare text = text := by
  rw [prepare_eq, plain_of_normal h]
  have hbody : o.ensureNewline = true → text = o.body text ++ ['\n'] := by
    intro hensure
    rw [body, if_pos hensure]
    exact (List.dropLast_append_getLast? '\n' (h.closed hensure)).symm
  have htrimmed : ∀ p, o.blanks? = some p → Trimmed p (o.body text) := by
    intro p hp
    rcases eq_of_blanks? hp with ⟨hall, rfl⟩ | ⟨hnewlines, rfl⟩
    · exact h.stripped hall
    · exact h.strippedNewlines hnewlines
  cases hp : o.blanks? with
  | none =>
    rw [strip_of_none hp, finish]
    split
    · exact closeLine_of_getLast? (h.closed ‹_›)
    · rfl
  | some p =>
    rw [strip_of_some hp, finish]
    split
    · rename_i hensure
      rw [hbody hensure]
      exact closeLine_trimWhere (htrimmed p hp) (newline_of_blanks? hp)
    · rename_i hensure
      have hsame : o.body text = text := if_neg hensure
      exact (hsame ▸ htrimmed p hp).trimWhere

/-- **Preparing a text brings it to its normal form, once for all.**  Whatever the options and the
text, the prepared text has no carriage return if line ends are unified, no tab if tabs are
expanded, and a line feed at its end if one is asked for; but for that line feed it neither begins
nor ends with what is stripped; and preparing it again leaves it as it is. -/
theorem prepare_reaches_normalForm (o : TextOptions) (text : List Char) :
    o.Normal (o.prepare text) ∧ o.prepare (o.prepare text) = o.prepare text :=
  ⟨normal_prepare o text, prepare_of_normal (normal_prepare o text)⟩

/-- Tabs are expanded before blanks are stripped, so that nothing is left of a tab at an end. -/
example :
    ({ stripAll := true, ensureNewline := true, tabSize := 2 } : TextOptions).prepare
      ['\t', 'x', '\t', 'y', '\t', '\n', '\n'] = ['x', ' ', ' ', 'y', '\n'] := by
  decide +kernel

/-! ## 4. Texts that stay as they are -/

/-- **The texts that stay as they are are those in normal form.** -/
theorem prepare_eq_self_iff {text : List Char} : o.prepare text = text ↔ o.Normal text := by
  constructor
  · intro h
    rw [← h]
    exact normal_prepare o text
  · exact prepare_of_normal

/-- A text that is in no normal form but that of the options that are all off.  It begins with a
line feed, so that it can be stripped, and does not end with one. -/
def telltale : List Char := ['\n', '\r', '\t']

theorem body_telltale_head? (o : TextOptions) : (o.body telltale).head? = some '\n' := by
  unfold body
  split
  · rfl
  · rfl

/-- **Each option that is on asks something of a text that the telltale text does not have.** -/
theorem eq_default_of_normal_telltale (h : o.Normal telltale) : o = {} := by
  have hlines : o.normalizeNewlines = false := by
    refine Bool.eq_false_iff.mpr fun hon => h.lineEnds hon ?_
    decide
  have htabs : o.tabSize = 0 := by
    by_contra hsize
    exact h.tabs (Nat.pos_of_ne_zero hsize) (by decide)
  have hensure : o.ensureNewline = false :=
    Bool.eq_false_iff.mpr fun hon => absurd (h.closed hon) (by decide)
  have hall : o.stripAll = false := by
    refine Bool.eq_false_iff.mpr fun hon => ?_
    exact absurd ((h.stripped hon).first '\n' (body_telltale_head? o)) (by decide +kernel)
  have hnewlines : o.stripNewlines = false := by
    refine Bool.eq_false_iff.mpr fun hon => ?_
    exact absurd ((h.strippedNewlines hon).first '\n' (body_telltale_head? o)) (by decide)
  cases o
  simp_all

theorem prepare_default (text : List Char) : prepare {} text = text := rfl

/-- **The options leave every text alone just if all of them are off.**  One option that is on is
enough to change a text, whatever the others are and however they undo each other's work. -/
theorem isLossless_iff (o : TextOptions) :
    o.isLossless = true ↔ ∀ text, o.prepare text = text := by
  rw [isLossless, beq_iff_eq]
  constructor
  · rintro rfl text
    exact prepare_default text
  · intro h
    exact eq_default_of_normal_telltale (prepare_eq_self_iff.mp (h telltale))

/-- The line feed that is stripped from an empty line is put back. -/
example :
    ({ stripNewlines := true, ensureNewline := true } : TextOptions).prepare ['\n'] = ['\n'] := by
  decide

end

end TextOptions

end Highlighter
