/-
# The reader of patterns goes on

Whatever a reader of the pattern notation reads, what it leaves is the end of the text that it was
given (`Leaves`).  One lemma for each reader, from blanks and counts up to an item of a pattern
(`leaves_step`); each is put together as its reader is.

An item takes a character at least, so **the steps that `PatternParser.run` may take are enough**, as
many as there are characters: more of them read the same pattern (`run_eq`).
-/
import Highlighter.Proofs.Regex.Reading

namespace Highlighter

/-! ## 1. What a reader leaves -/

/-- What is left of the text after reading, if that succeeds, is the end of it. -/
def Leaves {ε α : Type} (x : Except ε (α × List Char)) (cs : List Char) : Prop :=
  ∀ a rest, x = .ok (a, rest) → rest <:+ cs

namespace Leaves

variable {ε α β : Type} {cs rest : List Char}

theorem ok (a : α) (h : rest <:+ cs) : Leaves (.ok (a, rest) : Except ε (α × List Char)) cs := by
  intro _ _ heq
  obtain ⟨-, rfl⟩ := Prod.mk.inj (Except.ok.inj heq)
  exact h

theorem error (e : ε) : Leaves (.error e : Except ε (α × List Char)) cs := by
  intro _ _ heq
  cases heq

theorem mono {x : Except ε (α × List Char)} (h : Leaves x rest) (hle : rest <:+ cs) :
    Leaves x cs := by
  intro a rest' heq
  exact (h a rest' heq).trans hle

/-- One reader after the other. -/
theorem bind {x : Except ε (α × List Char)} {f : α × List Char → Except ε (β × List Char)}
    (hx : Leaves x cs) (hf : ∀ a rest, rest <:+ cs → Leaves (f (a, rest)) cs) :
    Leaves (x >>= f) cs := by
  cases x with
  | error e => exact error e
  | ok a =>
    obtain ⟨a, rest⟩ := a
    exact hf a rest (hx a rest rfl)

/-- A check between reading. -/
theorem bind_check {x : Except ε α} {f : α → Except ε (β × List Char)}
    (hf : ∀ a, Leaves (f a) cs) : Leaves (x >>= f) cs := by
  cases x with
  | error e => exact error e
  | ok a => exact hf a

end Leaves

namespace PatternReader

/-! ## 2. Blanks, codes and counts -/

theorem skipBlanks_suffix (inComment : Bool) (cs : List Char) : skipBlanks inComment cs <:+ cs := by
  fun_induction skipBlanks inComment cs with
  | case1 => exact List.suffix_rfl
  | case2 c cs ih => exact ih.trans (List.suffix_cons c cs)
  | case3 c cs _ ih => exact ih.trans (List.suffix_cons c cs)
  | case4 c cs _ _ ih => exact ih.trans (List.suffix_cons c cs)
  | case5 => exact List.suffix_rfl

theorem skip_suffix (verbose : Bool) (cs : List Char) : skip verbose cs <:+ cs := by
  unfold skip
  split
  · exact skipBlanks_suffix false cs
  · exact List.suffix_rfl

variable {verbose inComment : Bool} {cs text rest : List Char}

/-- What stands before blanks is in front of what stands behind them. -/
theorem suffix_of_skip {c : Char} (h : skip verbose cs = c :: rest) : rest <:+ cs :=
  (List.suffix_cons c rest).trans (h ▸ skip_suffix verbose cs)

theorem braced_suffix (h : braced verbose inComment cs = some (text, rest)) : rest <:+ cs := by
  fun_induction braced verbose inComment cs generalizing text with
  | case1 => cases h
  | case2 c cs ih => exact (ih h).trans (List.suffix_cons c cs)
  | case3 c cs _ ih => exact (ih h).trans (List.suffix_cons c cs)
  | case4 c cs _ _ ih => exact (ih h).trans (List.suffix_cons c cs)
  | case5 c cs =>
    obtain ⟨-, rfl⟩ := Prod.mk.inj (Option.some.inj h)
    exact List.suffix_cons _ _
  | case6 c cs _ _ _ ih =>
    obtain ⟨⟨text, rest⟩, hread, heq⟩ := Option.map_eq_some_iff.mp h
    obtain ⟨-, rfl⟩ := Prod.mk.inj heq
    exact (ih hread).trans (List.suffix_cons c cs)

theorem fixed_suffix {n : Nat} (h : fixed verbose n cs = some (text, rest)) : rest <:+ cs := by
  induction n generalizing cs text with
  | zero =>
    obtain ⟨-, rfl⟩ := Prod.mk.inj (Option.some.inj h)
    exact List.suffix_rfl
  | succ n ih =>
    rw [fixed] at h
    split at h
    · cases h
    · rename_i c cs' hskip
      obtain ⟨⟨text, rest⟩, hread, heq⟩ := Option.map_eq_some_iff.mp h
      obtain ⟨-, rfl⟩ := Prod.mk.inj heq
      exact (ih hread).trans (suffix_of_skip hskip)

theorem leaves_code (verbose : Bool) (digits : Nat) (cs : List Char) :
    Leaves (code verbose digits cs) cs := by
  unfold code
  dsimp only
  split
  · exact .error _
  · rename_i text rest hread
    have hrest : rest <:+ cs := by
      split at hread
      · rename_i inner hskip
        obtain ⟨hread, -⟩ := Option.filter_eq_some_iff.mp hread
        exact (braced_suffix hread).trans (suffix_of_skip hskip)
      · exact fixed_suffix hread
    split
    · exact .ok _ hrest
    · exact .error _

theorem digits_suffix (verbose inComment : Bool) (cs : List Char) :
    (digits verbose inComment cs).2 <:+ cs := by
  fun_induction digits verbose inComment cs with
  | case1 => exact List.suffix_rfl
  | case2 c cs ih => exact ih.trans (List.suffix_cons c cs)
  | case3 c cs _ ds rest hread ih =>
    rw [hread] at ih
    exact ih.trans (List.suffix_cons c cs)
  | case4 c cs _ _ ih => exact ih.trans (List.suffix_cons c cs)
  | case5 c cs _ _ _ ih => exact ih.trans (List.suffix_cons c cs)
  | case6 => exact List.suffix_rfl

theorem leaves_count (verbose : Bool) (cs : List Char) : Leaves (count verbose cs) cs := by
  have hrest : ((digits verbose false (cs.dropWhile CharClass.isSpace)).2.dropWhile
      CharClass.isSpace) <:+ cs :=
    (List.dropWhile_suffix _).trans ((digits_suffix _ _ _).trans (List.dropWhile_suffix _))
  unfold count
  dsimp only
  split
  · exact .ok _ hrest
  · split
    · exact .ok _ hrest
    · exact .error _

theorem leaves_bounds (verbose : Bool) (cs : List Char) : Leaves (bounds verbose cs) cs := by
  unfold bounds
  refine .bind ((leaves_count _ _).mono (skip_suffix _ _)) fun found rest hrest => ?_
  split
  · rename_i heq
    obtain ⟨-, rfl⟩ := Prod.mk.inj heq
    exact .ok _ ((List.suffix_cons _ _).trans hrest)
  · rename_i heq
    obtain ⟨-, rfl⟩ := Prod.mk.inj heq
    have hrest := (List.suffix_cons _ _).trans hrest
    split
    · rename_i hskip
      exact .ok _ ((suffix_of_skip hskip).trans hrest)
    · refine .bind ((leaves_count _ _).mono ((skip_suffix _ _).trans hrest)) ?_
      intro found rest' hrest'
      split
      · rename_i heq
        obtain ⟨-, rfl⟩ := Prod.mk.inj heq
        split
        · exact .ok _ ((List.suffix_cons _ _).trans hrest')
        · exact .error _
      · exact .error _
  · exact .error _

end PatternReader

namespace Escape

/-! ## 3. Escapes -/

open PatternReader (skip_suffix suffix_of_skip braced_suffix leaves_code)

variable (flags : PatternFlags) (cs : List Char)

theorem leaves_property (negated : Bool) : Leaves (property flags negated cs) cs := by
  -- What is done with the set leaves the text alone.
  have hset : ∀ (s : CharSet) (rest : List Char), rest <:+ cs →
      Leaves (if flags.unicode then do
          return (Atom.set (← (s.foldUnder flags).negateUnder flags negated), rest)
        else .error PatternError.beyondAscii) cs := by
    intro s rest hrest
    split
    · exact .bind_check fun _ => .ok _ hrest
    · exact .error _
  unfold property
  dsimp only
  split
  · exact .error _
  · rename_i inner hskip
    split
    · exact .error _
    · rename_i name rest hread
      have hrest := (braced_suffix hread).trans (suffix_of_skip hskip)
      cases bracedProperty? name with
      | none => exact .error _
      | some s => exact hset s rest hrest
  · rename_i c rest _ hskip
    cases if c == '\\' then none else PropertyName.lookup? [c] with
    | none => exact .error _
    | some s => exact hset s rest (suffix_of_skip hskip)

theorem leaves_coded (digits : Nat) : Leaves (coded flags digits cs) cs := by
  unfold coded
  refine .bind (leaves_code _ _ _) fun c rest hrest => ?_
  dsimp only
  split
  · exact .error _
  · exact .ok _ hrest

theorem boundaryName_suffix (verbose inComment : Bool) :
    (boundaryName verbose inComment cs).2 <:+ cs := by
  fun_induction boundaryName verbose inComment cs with
  | case1 => exact List.suffix_rfl
  | case2 c cs ih => exact ih.trans (List.suffix_cons c cs)
  | case3 c cs _ name rest hread ih =>
    rw [hread] at ih
    exact ih.trans (List.suffix_cons c cs)
  | case4 c cs _ _ ih => exact ih.trans (List.suffix_cons c cs)
  | case5 c cs _ _ _ ih => exact ih.trans (List.suffix_cons c cs)
  | case6 => exact List.suffix_rfl

theorem leaves_boundary : Leaves (boundary flags cs) cs := by
  unfold boundary
  dsimp only
  split
  · rename_i inner
    split
    · exact .error _
    · rename_i c inner' hskip
      split
      · split
        · rename_i name rest hname
          have hrest := boundaryName_suffix (c :: inner') flags.verbose false
          rw [hname] at hrest
          split
          · refine .ok _ ((List.suffix_cons _ rest).trans (hrest.trans ?_))
            exact (hskip ▸ skip_suffix _ _).trans (List.suffix_cons _ inner)
          · exact .error _
        · exact .error _
      · exact .ok _ List.suffix_rfl
  · exact .ok _ List.suffix_rfl

/-- **An escape leaves the end of the text.** -/
theorem leaves_read : Leaves (read flags cs) cs := by
  unfold read
  split
  · exact .error _
  · rename_i cs
    refine .bind ((leaves_boundary flags cs).mono (List.suffix_cons _ cs)) ?_
    exact fun a rest hrest => .ok _ hrest
  · rename_i cs
    exact (leaves_property flags cs false).mono (List.suffix_cons _ cs)
  · rename_i cs
    exact (leaves_property flags cs true).mono (List.suffix_cons _ cs)
  · rename_i c cs _ _ _
    have hrest := List.suffix_cons c cs
    split
    · exact .ok _ hrest
    · split
      · exact .error _
      · split
        · exact (leaves_coded flags cs _).mono hrest
        · exact .ok _ hrest
        · exact .ok _ hrest
        · exact .bind_check fun _ => .ok _ hrest
        · exact .error _

end Escape

namespace Bracket

/-! ## 4. Bracketed classes -/

open PatternReader (skip_suffix suffix_of_skip)

theorem leadingHyphens_suffix (verbose : Bool) (fuel : Nat) (k : OpenClass) (cs : List Char) :
    (leadingHyphens verbose fuel k cs).2 <:+ cs := by
  fun_induction leadingHyphens verbose fuel k cs with
  | case1 fuel k cs ih => exact ih.trans ((skip_suffix _ _).trans (List.suffix_cons _ cs))
  | case2 => exact List.suffix_rfl

theorem opening_suffix (verbose : Bool) (cs : List Char) : (opening verbose cs).2 <:+ cs := by
  fun_cases opening verbose cs
  -- The sign of negation and the hyphens are read in either case.
  all_goals
    rename_i all negated rest hsign k after _ hhyphens
    have hall : all <:+ cs := skip_suffix verbose cs
    clear_value all
    have hrest : rest <:+ cs := by
      split at hsign
      · obtain ⟨-, rfl⟩ := Prod.mk.inj hsign
        exact (skip_suffix _ _).trans ((List.suffix_cons _ _).trans hall)
      · obtain ⟨-, rfl⟩ := Prod.mk.inj hsign
        exact hall
    have hafter := leadingHyphens_suffix verbose rest.length ⟨negated, [], none⟩ rest
    rw [hhyphens] at hafter
  · exact (skip_suffix _ _).trans ((List.suffix_cons _ _).trans (hafter.trans hrest))
  · exact hafter.trans hrest

theorem named?_suffix {cs rest : List Char} {negated : Bool} {s : CharSet}
    (h : named? cs = some (negated, s, rest)) : rest <:+ cs := by
  unfold named? at h
  split at h
  · rename_i cs
    split at h
    rename_i negated' name hsign
    have hname : name <:+ cs := by
      split at hsign
      · obtain ⟨-, rfl⟩ := Prod.mk.inj hsign
        exact List.suffix_cons _ _
      · obtain ⟨-, rfl⟩ := Prod.mk.inj hsign
        exact List.suffix_rfl
    split at h
    · rename_i after hend
      have hafter : ':' :: ']' :: after <:+ name := hend ▸ List.dropWhile_suffix _
      obtain ⟨s, -, heq⟩ := Option.map_eq_some_iff.mp h
      obtain ⟨-, heq⟩ := Prod.mk.inj heq
      obtain ⟨-, rfl⟩ := Prod.mk.inj heq
      exact (List.suffix_cons _ _).trans ((List.suffix_cons _ _).trans
        (hafter.trans (hname.trans (List.suffix_cons _ _))))
    · cases h
  · cases h

variable (flags : PatternFlags)

theorem leaves_atom (cs : List Char) : Leaves (atom flags cs) cs := by
  unfold atom
  split
  · exact .error _
  · rename_i cs
    exact (Escape.leaves_read flags cs).mono (List.suffix_cons _ cs)
  · rename_i c cs _
    exact .ok _ (List.suffix_cons c cs)

theorem leaves_item (cs : List Char) : Leaves (item flags cs) cs := by
  unfold item
  refine .bind (leaves_atom flags cs) fun first rest hrest => ?_
  dsimp only
  split
  · exact .error _
  · rename_i after hskip
    have hafter : '-' :: after <:+ cs := (hskip ▸ skip_suffix _ _).trans hrest
    split
    · exact .bind_check fun _ => .ok _ hafter
    · have hlast : PatternReader.skip flags.verbose after <:+ cs :=
        (skip_suffix _ _).trans ((List.suffix_cons _ _).trans hafter)
      refine .bind ((leaves_atom flags _).mono hlast) fun last rest' hrest' => ?_
      refine .bind_check fun _ => .bind_check fun _ => ?_
      split
      · exact .ok _ hrest'
      · exact .error _
  · exact .bind_check fun _ => .ok _ ((skip_suffix _ _).trans hrest)

theorem leaves_readFrom (fuel : Nat) (k : OpenClass) (outer : List OpenClass) (cs : List Char) :
    Leaves (readFrom flags fuel k outer cs) cs := by
  induction fuel generalizing k outer cs with
  | zero => exact .error _
  | succ fuel ih =>
    rw [readFrom]
    split
    · exact .error _
    · rename_i inner hskip
      have hinner := suffix_of_skip hskip
      split
      · rename_i hnamed
        exact .bind_check fun _ => (ih _ _ _).mono ((named?_suffix hnamed).trans hinner)
      · exact (ih _ _ _).mono ((opening_suffix _ _).trans hinner)
    · rename_i rest hskip
      have hrest := suffix_of_skip hskip
      refine .bind_check fun closed => ?_
      split
      · exact .ok _ hrest
      · exact (ih _ _ _).mono hrest
    · rename_i c d rest _ _ hskip
      have hitem : Leaves (item flags (c :: d :: rest)) cs :=
        (leaves_item flags _).mono (hskip ▸ skip_suffix _ _)
      have hrest : rest <:+ cs := (List.suffix_cons d rest).trans (suffix_of_skip hskip)
      split
      · split
        · exact (ih _ _ _).mono hrest
        · exact .bind hitem fun _ _ hrest => (ih _ _ _).mono hrest
      · exact .bind hitem fun _ _ hrest => (ih _ _ _).mono hrest
    · exact .error _

/-- **A bracketed class leaves the end of the text.** -/
theorem leaves_read (cs : List Char) : Leaves (read flags cs) cs := by
  unfold read
  exact (leaves_readFrom flags _ _ _ _).mono (opening_suffix _ _)

end Bracket

namespace PatternParser

/-! ## 5. Items of a pattern -/

open PatternReader (skip_suffix suffix_of_skip)

theorem leaves_flagItems (cs : List Char) : Leaves (flagItems cs) cs := by
  induction cs with
  | nil => exact .error _
  | cons c cs ih =>
    have hmore : ∀ item : FlagItem, Leaves (flagItems cs >>= fun read =>
        if read.1.contains item then .error PatternError.invalidFlags
        else .ok (item :: read.1, read.2)) (c :: cs) := by
      intro item
      refine .bind (ih.mono (List.suffix_cons c cs)) fun items rest hrest => ?_
      split
      · exact .error _
      · exact .ok _ hrest
    unfold flagItems
    split
    · exact .error _
    · rename_i heq
      exact .ok _ (heq ▸ List.suffix_rfl)
    · rename_i heq
      exact .ok _ (heq ▸ List.suffix_rfl)
    · rename_i heq
      obtain ⟨rfl, rfl⟩ := List.cons.inj heq
      dsimp only
      split
      · exact hmore .negation
      · split
        · rename_i flag _
          exact hmore (.flag flag)
        · exact .error _

variable (st : PatternParser)

theorem leaves_openNamed (cs : List Char) : Leaves (st.openNamed cs) cs := by
  unfold openNamed
  split
  · exact .error _
  · rename_i c rest hname
    have hrest : rest <:+ cs := (List.suffix_cons c rest).trans (hname ▸ List.dropWhile_suffix _)
    dsimp only
    split
    · exact .error _
    · split
      · exact .error _
      · exact .ok _ hrest

theorem leaves_enterGroup (cs : List Char) : Leaves (st.enterGroup cs) cs := by
  have hskip := skip_suffix st.flags.verbose cs
  unfold enterGroup
  split
  · exact .error _
  · exact .error _
  · exact .error _
  · exact .error _
  · rename_i inner heq
    rw [heq] at hskip
    have hinner : inner <:+ '?' :: 'P' :: '<' :: inner :=
      List.suffix_append ['?', 'P', '<'] inner
    exact (leaves_openNamed st inner).mono (hinner.trans hskip)
  · rename_i inner _ _ heq
    rw [heq] at hskip
    have hinner : inner <:+ '?' :: '<' :: inner := List.suffix_append ['?', '<'] inner
    exact (leaves_openNamed st inner).mono (hinner.trans hskip)
  · rename_i inner _ _ _ _ _ _ heq
    rw [heq] at hskip
    have hinner := (List.suffix_cons '?' inner).trans hskip
    refine .bind ((leaves_flagItems inner).mono hinner) fun items rest hrest => ?_
    dsimp only
    split
    · exact .error _
    · split
      · exact .error _
      · exact .ok _ ((List.suffix_cons _ _).trans hrest)
      · exact .ok _ ((List.suffix_cons _ _).trans hrest)
      · exact .error _
  · exact .ok _ hskip

theorem leaves_repeatLast (min : Nat) (max : Option Nat) (rest : List Char) :
    Leaves (st.repeatLast min max rest) rest := by
  unfold repeatLast
  split
  · exact .error _
  · split
    · exact .error _
    · split
      rename_i lazy after hlazy
      refine .ok _ ?_
      split at hlazy
      · obtain ⟨-, rfl⟩ := Prod.mk.inj hlazy
        exact List.suffix_cons _ _
      · obtain ⟨-, rfl⟩ := Prod.mk.inj hlazy
        exact List.suffix_rfl

/-- **An item of a pattern leaves the end of the text.** -/
theorem leaves_step (c : Char) (rest : List Char) : Leaves (st.step c rest) rest := by
  unfold step
  split
  · exact leaves_enterGroup st rest
  · exact .bind_check fun _ => .ok _ List.suffix_rfl
  · exact .ok _ List.suffix_rfl
  · exact .bind (Bracket.leaves_read st.flags rest) fun _ _ hrest => .ok _ hrest
  · exact leaves_repeatLast st 0 (some 1) rest
  · exact leaves_repeatLast st 0 none rest
  · exact leaves_repeatLast st 1 none rest
  · split
    · exact .error _
    · rename_i min max after hbounds
      refine (leaves_repeatLast st min max _).mono ((skip_suffix _ _).trans ?_)
      exact PatternReader.leaves_bounds st.flags.verbose rest _ _ hbounds
  · exact .bind (Escape.leaves_read st.flags rest) fun _ _ hrest => .ok _ hrest
  · exact .bind_check fun _ => .ok _ List.suffix_rfl
  · exact .ok _ List.suffix_rfl
  · exact .ok _ List.suffix_rfl
  · exact .ok _ List.suffix_rfl

/-- **As many steps as there are characters are enough**, whatever the reader is given beyond that.
By induction on the steps; each takes a character at least. -/
theorem run_eq {st : PatternParser} {cs : List Char} {fuel fuel' : Nat} (h : cs.length ≤ fuel)
    (h' : cs.length ≤ fuel') : run fuel st cs = run fuel' st cs := by
  induction fuel generalizing st cs fuel' with
  | zero =>
    obtain rfl := List.eq_nil_of_length_eq_zero (Nat.le_zero.mp h)
    rw [run_nil, run_nil]
  | succ fuel ih =>
    cases fuel' with
    | zero =>
      obtain rfl := List.eq_nil_of_length_eq_zero (Nat.le_zero.mp h')
      rw [run_nil, run_nil]
    | succ fuel' =>
      rw [run, run]
      split
      · rfl
      · rename_i c rest hskip
        cases hstep : st.step c rest with
        | error e => rfl
        | ok read =>
          obtain ⟨st', rest'⟩ := read
          have hrest : rest'.length ≤ rest.length :=
            (leaves_step st c rest _ _ hstep).length_le
          have hcs : rest.length + 1 ≤ cs.length :=
            (hskip ▸ skip_suffix st.flags.verbose cs : c :: rest <:+ cs).length_le
          exact ih (by omega) (by omega)

/-- **What comes after a stretch of the text is read as if it stood alone.** -/
theorem Reads.parse_eq {flags : PatternFlags} {text : String} {st : PatternParser} {cs : List Char}
    (h : Reads (.start flags) text.toList st cs) : Pattern.parse flags text = run cs.length st cs := by
  obtain ⟨steps, hle, hrun⟩ := h
  have hsplit : text.toList.length = text.toList.length - steps + steps := by omega
  rw [Pattern.parse, hsplit, hrun]
  exact run_eq (by omega) (Nat.le_refl _)

end PatternParser

end Highlighter
