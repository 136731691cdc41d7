/-
# The tokens of the groups of a match

A rule with group actions walks through its groups once, with a cursor that is the end of the group
handled last.  Whatever the groups took, be they nested, empty, missing or before the cursor:

* **A group is handled just if** its action does not skip it, it took something, and what it took
  begins at or after the end of every group handled before it (`mem_handledGroups_iff`).
* **The tokens lie in a row** (`exists_laid`): the text up to a handled group, the group's own
  tokens, and so on, and the rest of the match (`Laid`).  The invariant of the walk is that the cursor
  lies between characters of the match.
* So each byte of the match is in just one token, which is of the gap kind outside of the handled
  groups, and tokens begin and end only at the ends of the match and of handled groups, or inside of
  a group that is lexed on its own (`groups_split_match`).
-/
import Mathlib.Logic.ExistsUnique
import Highlighter.Proofs.Bytewise.Nesting

namespace Highlighter

/-! ## 1. Bytes in tokens -/

/-- The token covers the byte at an offset. -/
def Token.Covers (token : Token) (offset : Nat) : Prop :=
  token.start ≤ offset ∧ offset < token.stop

/-- **Of tiled tokens just one covers a byte.** -/
theorem Tiled.existsUnique_covers {start : Nat} {tokens : List Token} (h : Tiled start tokens)
    {offset : Nat} (hstart : start ≤ offset) (hstop : offset < start + byteLength (texts tokens)) :
    ∃! token, token ∈ tokens ∧ token.Covers offset := by
  induction tokens generalizing start with
  | nil =>
    rw [texts_nil, byteLength_nil] at hstop
    omega
  | cons first tokens ih =>
    obtain ⟨rfl, -, ht⟩ := h
    rw [texts_cons, byteLength_append, ← Nat.add_assoc, ← Token.stop] at hstop
    by_cases hfirst : offset < first.stop
    · refine ⟨first, ⟨List.mem_cons_self, hstart, hfirst⟩, ?_⟩
      rintro token ⟨hm, hcovers⟩
      rcases List.mem_cons.mp hm with rfl | hm
      · rfl
      · have hlater := (ht.bounds hm).1
        exact absurd hcovers.1 (by omega)
    · obtain ⟨token, ⟨hm, hcovers⟩, hunique⟩ := ih ht (Nat.not_lt.mp hfirst) hstop
      refine ⟨token, ⟨List.mem_cons_of_mem _ hm, hcovers⟩, ?_⟩
      rintro other ⟨hother, hcovers'⟩
      rcases List.mem_cons.mp hother with rfl | hother
      · exact absurd hcovers'.2 hfirst
      · exact hunique other ⟨hother, hcovers'⟩

namespace Bytewise

/-! ## 2. The groups that are handled -/

/-- A group that is handled, with the bounds of what it took.  The first group has the index 0. -/
structure HandledGroup where
  index : Nat
  action : GroupAction StateId
  start : Nat
  stop : Nat
  deriving DecidableEq

namespace HandledGroup

/-- The byte at an offset is in the group. -/
def Has (g : HandledGroup) (pos : Nat) : Prop := g.start ≤ pos ∧ pos < g.stop

/-- The text of the group is lexed on its own. -/
def Lexed (g : HandledGroup) : Prop := ∃ state, g.action = .using state

end HandledGroup

/-- The groups that are handled, of those that have these actions and indexes from `index` on, once
the match has been dealt with up to `cursor`. -/
def Hit.handledGroups (hit : Hit) :
    (cursor index : Nat) → List (GroupAction StateId) → List HandledGroup
  | _, _, [] => []
  | cursor, index, action :: actions =>
    match hit.handled? cursor index action with
    | none => hit.handledGroups cursor (index + 1) actions
    | some (start, stop) =>
      ⟨index, action, start, stop⟩ :: hit.handledGroups stop (index + 1) actions

section

variable {hit : Hit} {cursor index : Nat} {actions : List (GroupAction StateId)}

theorem handledGroups_bounds {g : HandledGroup}
    (h : g ∈ hit.handledGroups cursor index actions) :
    index ≤ g.index ∧ cursor ≤ g.start ∧ g.start < g.stop := by
  induction actions generalizing cursor index with
  | nil => cases h
  | cons action actions ih =>
    rw [Hit.handledGroups] at h
    cases hhandled : hit.handled? cursor index action with
    | none =>
      rw [hhandled] at h
      obtain ⟨hindex, hrest⟩ := ih h
      exact ⟨by omega, hrest⟩
    | some span =>
      obtain ⟨start, stop⟩ := span
      obtain ⟨-, -, hcursor, hlt⟩ := Hit.handled?_eq_some_iff.mp hhandled
      rw [hhandled] at h
      rcases List.mem_cons.mp h with rfl | h
      · exact ⟨Nat.le_refl _, hcursor, hlt⟩
      · obtain ⟨hindex, hstart, hrest⟩ := ih h
        exact ⟨by omega, by omega, hrest⟩

/-- Handled groups come in order, and each one begins where the one before it ends, or later. -/
theorem pairwise_handledGroups : (hit.handledGroups cursor index actions).Pairwise
    fun g g' => g.index < g'.index ∧ g.stop ≤ g'.start := by
  induction actions generalizing cursor index with
  | nil => exact .nil
  | cons action actions ih =>
    rw [Hit.handledGroups]
    split
    · exact ih
    · refine List.pairwise_cons.mpr ⟨fun g hg => ?_, ih⟩
      obtain ⟨hindex, hstart, -⟩ := handledGroups_bounds hg
      exact ⟨hindex, hstart⟩

/-- **Which groups are handled.**  The groups before count only by those of them that are handled
themselves. -/
theorem mem_handledGroups_iff {g : HandledGroup} :
    g ∈ hit.handledGroups cursor index actions ↔
      ∃ i, g.index = index + i ∧ actions[i]? = some g.action ∧ g.action ≠ .skip ∧
        hit.spans (g.index + 1) = some (g.start, g.stop) ∧ g.start < g.stop ∧ cursor ≤ g.start ∧
        ∀ g' ∈ hit.handledGroups cursor index actions, g'.index < g.index → g'.stop ≤ g.start := by
  induction actions generalizing cursor index with
  | nil =>
    refine iff_of_false (fun h => by cases h) ?_
    rintro ⟨i, -, haction, -⟩
    cases haction
  | cons action actions ih =>
    rw [Hit.handledGroups]
    cases hhandled : hit.handled? cursor index action with
    | none =>
      dsimp only
      rw [ih]
      constructor
      · rintro ⟨i, hindex, haction, hrest⟩
        exact ⟨i + 1, by omega, haction, hrest⟩
      · rintro ⟨i, hindex, haction, hskip, hspan, hlt, hcursor, hrest⟩
        cases i with
        | zero =>
          -- The group at hand would be handled.
          obtain rfl := Option.some.inj haction
          rw [hindex, Nat.add_zero] at hspan
          cases hhandled.symm.trans (Hit.handled?_eq_some_iff.mpr ⟨hskip, hspan, hcursor, hlt⟩)
        | succ i => exact ⟨i, by omega, haction, hskip, hspan, hlt, hcursor, hrest⟩
    | some span =>
      obtain ⟨start, stop⟩ := span
      obtain ⟨hskip, hspan, hcursor, hlt⟩ := Hit.handled?_eq_some_iff.mp hhandled
      dsimp only
      constructor
      · intro h
        rcases List.mem_cons.mp h with rfl | h
        · refine ⟨0, rfl, rfl, hskip, hspan, hlt, hcursor, fun g' hg' hbefore => ?_⟩
          rcases List.mem_cons.mp hg' with rfl | hg'
          · exact absurd hbefore (Nat.lt_irrefl _)
          · obtain ⟨hindex, -⟩ := handledGroups_bounds hg'
            dsimp only at hbefore
            omega
        · obtain ⟨-, hstop, -⟩ := handledGroups_bounds h
          obtain ⟨i, hindex, haction, hskip', hspan', hlt', -, hrest⟩ := ih.mp h
          refine ⟨i + 1, by omega, haction, hskip', hspan', hlt', by omega, fun g' hg' hbefore => ?_⟩
          rcases List.mem_cons.mp hg' with rfl | hg'
          · exact hstop
          · exact hrest g' hg' hbefore
      · rintro ⟨i, hindex, haction, hskip', hspan', hlt', -, hrest⟩
        cases i with
        | zero =>
          obtain ⟨gindex, gaction, gstart, gstop⟩ := g
          dsimp only at hindex haction hspan'
          rw [Nat.add_zero] at hindex
          subst hindex
          obtain rfl := Option.some.inj haction
          obtain ⟨rfl, rfl⟩ := Prod.mk.inj (Option.some.inj (hspan.symm.trans hspan'))
          exact List.mem_cons_self
        | succ i =>
          refine List.mem_cons_of_mem _ (ih.mpr ⟨i, by omega, haction, hskip', hspan', hlt', ?_,
            fun g' hg' => hrest g' (List.mem_cons_of_mem _ hg')⟩)
          exact hrest _ List.mem_cons_self (by dsimp only; omega)

end

/-! ## 3. Tokens in a row -/

section

variable (t : Table) (text : List Char) (base depth : Nat) (gap : Kind)

/-- The own tokens of a handled group of a text, in a lexer that is nested so deep. -/
inductive Own (start stop : Nat) : GroupAction StateId → List Token → Prop where
  | token {kind : Kind} {piece : List Char} (hpiece : slice text start stop = pure piece) :
      Own start stop (.token kind) (Emission.piece kind piece (base + start))
  /-- The text of the group is lexed on its own. -/
  | lexed {state : StateId} {piece : List Char} {tokens : List Token}
      (hpiece : slice text start stop = pure piece) (hd : depth < maxSubLexDepth)
      (h : collect t (.start state piece (base + start) (depth + 1)) = pure tokens)
      (hcut : Cut (base + start) piece tokens) : Own start stop (.using state) tokens
  /-- Lexers are nested as deep as they may be. -/
  | limit {state : StateId} {piece : List Char} (hpiece : slice text start stop = pure piece)
      (hd : maxSubLexDepth ≤ depth) :
      Own start stop (.using state) (Emission.piece gap piece (base + start))

/-- The tokens of a match from `cursor` on, with these groups to be handled. -/
inductive Laid (stop : Nat) : (cursor : Nat) → List HandledGroup → List Token → Prop where
  /-- What is left of the match. -/
  | last {cursor : Nat} {rest : List Char} (hrest : slice text cursor stop = pure rest) :
      Laid stop cursor [] (Emission.piece gap rest (base + cursor))
  /-- The text up to a group, then the group. -/
  | group {cursor : Nat} {g : HandledGroup} {groups : List HandledGroup} {between : List Char}
      {own later : List Token} (hbetween : slice text cursor g.start = pure between)
      (hown : Own t text base depth gap g.start g.stop g.action own)
      (hlater : Laid stop g.stop groups later) :
      Laid stop cursor (g :: groups)
        (Emission.piece gap between (base + cursor) ++ own ++ later)

end

section

variable {t : Table} {text : List Char} {base depth : Nat} {gap : Kind}

theorem Own.exists_cut {start stop : Nat} {action : GroupAction StateId} {tokens : List Token}
    (h : Own t text base depth gap start stop action tokens) :
    ∃ piece, slice text start stop = pure piece ∧ Cut (base + start) piece tokens := by
  cases h with
  | token hpiece => exact ⟨_, hpiece, Emission.cut_piece _ _ _⟩
  | lexed hpiece _ _ hcut => exact ⟨_, hpiece, hcut⟩
  | limit hpiece => exact ⟨_, hpiece, Emission.cut_piece _ _ _⟩

theorem stop_of_slice {start stop : Nat} {piece : List Char}
    (h : slice text start stop = pure piece) : stop = start + byteLength piece := by
  obtain ⟨-, -, -, -, hstop⟩ := slice_eq_pure_iff.mp h
  exact hstop.symm

/-- Tokens that a slice is cut into begin and end between its bounds. -/
theorem Cut.bounds {start stop : Nat} {piece : List Char} {tokens : List Token}
    (h : Cut (base + start) piece tokens) (hpiece : slice text start stop = pure piece)
    {token : Token} (hm : token ∈ tokens) :
    base + start ≤ token.start ∧ token.stop ≤ base + stop := by
  have hbounds := h.tiled.bounds hm
  rwa [h.texts_eq, Nat.add_assoc, ← stop_of_slice hpiece] at hbounds

theorem eq_of_mem_piece {kind : Kind} {piece : List Char} {start : Nat} {token : Token}
    (h : token ∈ Emission.piece kind piece start) : token = ⟨kind, piece, start⟩ := by
  unfold Emission.piece at h
  split at h
  · cases h
  · exact List.mem_singleton.mp h

section

variable {stop cursor : Nat} {groups : List HandledGroup} {tokens : List Token}

/-- **The tokens make up the match.** -/
theorem Laid.exists_cut (h : Laid t text base depth gap stop cursor groups tokens) :
    ∃ piece, slice text cursor stop = pure piece ∧ Cut (base + cursor) piece tokens := by
  induction h with
  | last hrest => exact ⟨_, hrest, Emission.cut_piece _ _ _⟩
  | @group cursor g groups between own later hbetween hown _ ih =>
    obtain ⟨piece, hpiece, hcut⟩ := hown.exists_cut
    obtain ⟨rest, hrest, hlater⟩ := ih
    refine ⟨between ++ piece ++ rest, slice_trans (slice_trans hbetween hpiece) hrest, ?_⟩
    have hstart := stop_of_slice hbetween
    have hstop := stop_of_slice hpiece
    refine ((Emission.cut_piece _ _ _).append ?_).append ?_
    · rwa [Nat.add_assoc, ← hstart]
    · rwa [byteLength_append, Nat.add_assoc, ← Nat.add_assoc cursor, ← hstart, ← hstop]

/-- The groups lie between the cursor and the end of the match. -/
theorem Laid.bounds (h : Laid t text base depth gap stop cursor groups tokens) :
    cursor ≤ stop ∧ ∀ g ∈ groups, cursor ≤ g.start ∧ g.stop ≤ stop := by
  induction h with
  | last hrest =>
    have hstop := stop_of_slice hrest
    exact ⟨by omega, List.forall_mem_nil _⟩
  | @group cursor g groups _ _ _ hbetween hown _ ih =>
    obtain ⟨piece, hpiece, -⟩ := hown.exists_cut
    have hstart := stop_of_slice hbetween
    have hstop := stop_of_slice hpiece
    obtain ⟨hle, hgroups⟩ := ih
    refine ⟨by omega, List.forall_mem_cons.mpr ⟨⟨by omega, hle⟩, fun g' hg' => ?_⟩⟩
    obtain ⟨hcursor, hend⟩ := hgroups g' hg'
    exact ⟨by omega, hend⟩

/-- A token that covers a byte is where the byte is. -/
theorem Cut.has_of_covers {start stop : Nat} {piece : List Char} {tokens : List Token}
    (h : Cut (base + start) piece tokens) (hpiece : slice text start stop = pure piece)
    {token : Token} (hm : token ∈ tokens) {pos : Nat} (hpos : token.Covers (base + pos)) :
    start ≤ pos ∧ pos < stop := by
  obtain ⟨hstart, hstop⟩ := Cut.bounds h hpiece hm
  obtain ⟨hle, hlt⟩ := hpos
  exact ⟨by omega, by omega⟩

/-- **The kinds of bytes.**  A token that covers a byte outside of all groups is of the gap kind, and
one that covers a byte of a group that is a token has the kind of that token. -/
theorem Laid.kind_eq (h : Laid t text base depth gap stop cursor groups tokens) {token : Token}
    (hm : token ∈ tokens) {pos : Nat} (hpos : token.Covers (base + pos)) :
    ((∀ g ∈ groups, ¬ g.Has pos) → token.kind = gap) ∧
      ∀ g ∈ groups, g.Has pos → ∀ kind, g.action = .token kind → token.kind = kind := by
  induction h with
  | last hrest => exact ⟨fun _ => eq_of_mem_piece hm ▸ rfl, fun _ hg => by cases hg⟩
  | @group cursor g groups between own later hbetween hown hlater ih =>
    obtain ⟨piece, hpiece, hcut⟩ := hown.exists_cut
    obtain ⟨-, hgroups⟩ := hlater.bounds
    rcases List.mem_append.mp hm with hm | hm
    · rcases List.mem_append.mp hm with hm | hm
      · -- The token is the text before the group.
        obtain ⟨-, hbefore⟩ :=
          Cut.has_of_covers (Emission.cut_piece gap between _) hbetween hm hpos
        refine ⟨fun _ => eq_of_mem_piece hm ▸ rfl, fun g' hg' hhas => ?_⟩
        rcases List.mem_cons.mp hg' with rfl | hg'
        · exact absurd hhas.1 (Nat.not_le_of_lt hbefore)
        · have hstart := (hgroups g' hg').1
          have hstop := stop_of_slice hpiece
          exact absurd hhas.1 (by omega)
      · -- The token is one of the group.
        have hhere : g.Has pos := Cut.has_of_covers hcut hpiece hm hpos
        refine ⟨fun houtside => absurd hhere (houtside g List.mem_cons_self),
          fun g' hg' hhas kind haction => ?_⟩
        rcases List.mem_cons.mp hg' with rfl | hg'
        · rw [haction] at hown
          cases hown with
          | token => exact eq_of_mem_piece hm ▸ rfl
        · have hstart := (hgroups g' hg').1
          exact absurd (Nat.le_trans hstart hhas.1) (Nat.not_le_of_lt hhere.2)
    · -- The token is one of what comes after the group.
      obtain ⟨rest, hrest, hcut'⟩ := hlater.exists_cut
      obtain ⟨hafter, -⟩ := Cut.has_of_covers hcut' hrest hm hpos
      obtain ⟨hgap, hkinds⟩ := ih hm
      refine ⟨fun houtside => hgap fun g' hg' => houtside g' (List.mem_cons_of_mem _ hg'),
        fun g' hg' hhas => ?_⟩
      rcases List.mem_cons.mp hg' with rfl | hg'
      · exact absurd hhas.2 (Nat.not_lt_of_le hafter)
      · exact hkinds g' hg' hhas

theorem ends_of_mem_piece {kind : Kind} {start stop : Nat} {piece : List Char}
    (hpiece : slice text start stop = pure piece) {token : Token}
    (h : token ∈ Emission.piece kind piece (base + start)) :
    token.start = base + start ∧ token.stop = base + stop := by
  obtain rfl := eq_of_mem_piece h
  refine ⟨rfl, ?_⟩
  rw [stop_of_slice hpiece, ← Nat.add_assoc]
  rfl

/-- The tokens of a group begin and end at its ends, or inside of it if it is lexed on its own. -/
theorem Own.ends {g : HandledGroup} {own : List Token}
    (h : Own t text base depth gap g.start g.stop g.action own) {token : Token} (hm : token ∈ own)
    {pos : Nat} (hpos : base + pos = token.start ∨ base + pos = token.stop) :
    pos = g.start ∨ pos = g.stop ∨ (g.Lexed ∧ g.start < pos ∧ pos < g.stop) := by
  obtain ⟨index, action, start, stop⟩ := g
  dsimp only at h ⊢
  cases h with
  | token hpiece =>
    obtain ⟨hstart, hstop⟩ := ends_of_mem_piece hpiece hm
    omega
  | @lexed state piece _ hpiece _ _ hcut =>
    obtain ⟨hstart, hstop⟩ := Cut.bounds hcut hpiece hm
    have hle : token.start ≤ token.stop := Nat.le_add_right _ _
    have hlexed : HandledGroup.Lexed ⟨index, .using state, start, stop⟩ := ⟨state, rfl⟩
    by_cases hends : pos = start ∨ pos = stop
    · exact hends.imp_right Or.inl
    · exact Or.inr (Or.inr ⟨hlexed, by omega, by omega⟩)
  | limit hpiece =>
    obtain ⟨hstart, hstop⟩ := ends_of_mem_piece hpiece hm
    omega

/-- **Where tokens begin and end.**  A group that is not handled leaves nothing behind. -/
theorem Laid.ends (h : Laid t text base depth gap stop cursor groups tokens) {token : Token}
    (hm : token ∈ tokens) {pos : Nat} (hpos : base + pos = token.start ∨ base + pos = token.stop) :
    pos = cursor ∨ pos = stop ∨ ∃ g ∈ groups,
      pos = g.start ∨ pos = g.stop ∨ (g.Lexed ∧ g.start < pos ∧ pos < g.stop) := by
  induction h with
  | last hrest =>
    obtain ⟨hstart, hstop⟩ := ends_of_mem_piece hrest hm
    omega
  | @group cursor g groups between own later hbetween hown _ ih =>
    rcases List.mem_append.mp hm with hm | hm
    · rcases List.mem_append.mp hm with hm | hm
      · obtain ⟨hstart, hstop⟩ := ends_of_mem_piece hbetween hm
        by_cases hcursor : pos = cursor
        · exact Or.inl hcursor
        · exact Or.inr (Or.inr ⟨g, List.mem_cons_self, Or.inl (by omega)⟩)
      · exact Or.inr (Or.inr ⟨g, List.mem_cons_self, hown.ends hm hpos⟩)
    · rcases ih hm with rfl | hstop | ⟨g', hg', hends⟩
      · exact Or.inr (Or.inr ⟨g, List.mem_cons_self, Or.inr (Or.inl rfl)⟩)
      · exact Or.inr (Or.inl hstop)
      · exact Or.inr (Or.inr ⟨g', List.mem_cons_of_mem _ hg', hends⟩)

end

end

/-! ## 4. The walk through the groups -/

/-- What groups took lies in the match, and its bounds lie between characters. -/
structure Hit.Within (hit : Hit) (text : List Char) (start : Nat) : Prop where
  start_between : Between text start
  stop_between : Between text hit.stop
  start_le : start ≤ hit.stop
  spans : ∀ group first last, hit.spans group = some (first, last) →
    start ≤ first ∧ first ≤ last ∧ last ≤ hit.stop ∧ Between text first ∧ Between text last

/-- **What a rule matches is such a match.** -/
theorem within_of_matchAt {text : List Char} {pos : Nat} {r : TableRule} {hit : Hit}
    (h : matchAt text pos r = pure (some hit)) : hit.Within text pos := by
  unfold matchAt at h
  split at h
  · cases h
  · rename_i before rest hsplit
    obtain ⟨htext, hpos⟩ := split?_eq_some_iff.mp hsplit
    obtain ⟨hmap, hlt⟩ := Option.filter_eq_some_iff.mp (Run.pure_inj h)
    obtain ⟨m, hm, rfl⟩ := Option.map_eq_some_iff.mp hmap
    have hdescribes := Hit.describes_ofMatch hm pos
    have hbetween : ∀ count, Between text (pos + byteLength (rest.take count)) := by
      intro count
      refine ⟨before ++ rest.take count, rest.drop count, split?_eq_some_iff.mpr ⟨?_, ?_⟩⟩
      · rw [htext, List.append_assoc, List.take_append_drop]
      · rw [byteLength_append, hpos]
    refine ⟨⟨before, rest, hsplit⟩, hbetween m.length, Nat.le_of_lt (of_decide_eq_true hlt),
      fun group first last hspan => ?_⟩
    obtain ⟨⟨i, j⟩, hmatch, hbounds⟩ := Option.map_eq_some_iff.mp hspan
    obtain ⟨rfl, rfl⟩ := Prod.mk.inj hbounds
    obtain ⟨hle, hlast⟩ := Pattern.span?_bounds hm hmatch
    have hlength := Pattern.length_le_of_match? hm
    refine ⟨Nat.le_add_right _ _, Nat.add_le_add_left ?_ pos, Nat.add_le_add_left ?_ pos,
      hbetween i, hbetween j⟩
    · exact (byteLength_take_le_iff (by omega) (by omega)).mpr hle
    · exact (byteLength_take_le_iff (by omega) hlength).mpr hlast

section

variable {t : Table} (ht : t.Closed)

include ht

/-- A lexer for the text of a group returns, and cuts the text into tokens. -/
theorem exists_collect {state : StateId} (hs : state < t.states.length) (text : List Char)
    (base : Nat) {depth : Nat} (hd : depth ≤ maxSubLexDepth) :
    ∃ tokens, collect t (.start state text base depth) = pure tokens ∧ Cut base text tokens := by
  have hsub := subLexesTo_subLexer ht (Nat.add_sub_cancel' hd)
  have hl := t.lossless_subLexer (maxSubLexDepth - depth)
  have hcut := Stream.tokens_accounts hl (t := t) (Stream.accounts_start state text base)
  rw [List.nil_append] at hcut
  exact ⟨_, collect_eq ht hsub (represents_start hs text base), hcut⟩

theorem exists_own {m : Machine} (gap : Kind) {action : GroupAction StateId}
    (hskip : action ≠ .skip) (hid : ∀ id, action.target? = some id → id < t.states.length)
    {start stop : Nat} {piece : List Char} (hpiece : slice m.text start stop = pure piece) :
    ∃ own, emitGroup t gap m start stop action = pure (m.add own) ∧
      Own t m.text m.base m.depth gap start stop action own := by
  cases action with
  | token kind =>
    rw [emitGroup]
    exact ⟨_, emit_of_slice hpiece kind, .token hpiece⟩
  | «using» state =>
    rw [emitGroup, subLex]
    by_cases hd : maxSubLexDepth ≤ m.depth
    · rw [if_pos hd]
      exact ⟨_, emit_of_slice hpiece gap, .limit hpiece hd⟩
    · have hlt := Nat.not_le.mp hd
      obtain ⟨tokens, hcollect, hcut⟩ :=
        exists_collect ht (hid state rfl) piece (m.base + start) hlt
      rw [if_neg hd, hpiece, pure_bind, hcollect]
      exact ⟨tokens, rfl, .lexed hpiece hlt hcollect hcut⟩
  | skip => exact absurd rfl hskip

/-- **The groups give tokens in a row.**  By induction on the actions; the cursor lies between
characters of the match. -/
theorem exists_laid {m : Machine} {hit : Hit} {first : Nat} (hhit : hit.Within m.text first)
    (gap : Kind) {actions : List (GroupAction StateId)}
    (hids : ∀ a ∈ actions, ∀ id, a.target? = some id → id < t.states.length) {cursor : Nat}
    (hcursor : Between m.text cursor) (hle : cursor ≤ hit.stop) (index : Nat) :
    ∃ tokens, emitGroups t gap hit m cursor index actions = pure (m.add tokens) ∧
      Laid t m.text m.base m.depth gap hit.stop cursor (hit.handledGroups cursor index actions)
        tokens := by
  induction actions generalizing m cursor index with
  | nil =>
    obtain ⟨rest, hrest⟩ := exists_slice hcursor hhit.stop_between hle
    rw [emitGroups]
    exact ⟨_, emit_of_slice hrest gap, .last hrest⟩
  | cons action actions ih =>
    obtain ⟨hid, hids⟩ := List.forall_mem_cons.mp hids
    rw [emitGroups, Hit.handledGroups]
    cases hhandled : hit.handled? cursor index action with
    | none => exact ih hhit hids hcursor hle (index + 1)
    | some span =>
      obtain ⟨start, stop⟩ := span
      obtain ⟨hskip, hspan, hstart, hlt⟩ := Hit.handled?_eq_some_iff.mp hhandled
      obtain ⟨-, -, hstop, hbetween, hbetween'⟩ := hhit.spans _ _ _ hspan
      obtain ⟨between, hslice⟩ := exists_slice hcursor hbetween hstart
      obtain ⟨piece, hpiece⟩ := exists_slice hbetween hbetween' (Nat.le_of_lt hlt)
      have hgap := emit_of_slice hslice gap
      generalize hgapTokens : Emission.piece gap between (m.base + cursor) = gapTokens at hgap
      obtain ⟨own, hown, hlaidOwn⟩ :=
        exists_own ht (m := m.add gapTokens) gap hskip hid hpiece
      obtain ⟨later, hlater, hlaid⟩ :=
        ih (m := (m.add gapTokens).add own) hhit hids hbetween' hstop (index + 1)
      refine ⟨gapTokens ++ own ++ later, ?_, ?_⟩
      · dsimp only
        rw [hgap, pure_bind, hown, pure_bind, hlater, Machine.add_add, Machine.add_add,
          List.append_assoc]
      · subst hgapTokens
        exact .group hslice hlaidOwn hlaid

end

/-- **How the groups of a match split it into tokens**, whatever the groups took and whatever is to
be done with them.  The groups that are handled are those that are not skipped, took something and
begin at or after the end of every group handled before them.  The tokens lie in a row, and so

* each byte of the match is in just one token;
* a byte outside of the handled groups is of the gap kind, and one in a handled group that is a token
  has the kind of that token;
* tokens begin and end where the match or a handled group does, or inside of a handled group that is
  lexed on its own. -/
theorem groups_split_match {g : Grammar} {t : Table} (h : g.compile = .ok t) (m : Machine)
    {hit : Hit} {start : Nat} (hhit : hit.Within m.text start)
    {actions : List (GroupAction StateId)}
    (hids : ∀ a ∈ actions, ∀ id, a.target? = some id → id < t.states.length) (gap : Kind) :
    ∃ groups tokens, emitGroups t gap hit m start 0 actions = pure (m.add tokens) ∧
      Laid t m.text m.base m.depth gap hit.stop start groups tokens ∧
      (∀ group : HandledGroup, group ∈ groups ↔
        actions[group.index]? = some group.action ∧ group.action ≠ .skip ∧
        hit.spans (group.index + 1) = some (group.start, group.stop) ∧
        group.start < group.stop ∧ start ≤ group.start ∧
        ∀ earlier ∈ groups, earlier.index < group.index → earlier.stop ≤ group.start) ∧
      (groups.Pairwise fun group later =>
        group.index < later.index ∧ group.stop ≤ later.start) ∧
      (∀ pos, start ≤ pos → pos < hit.stop →
        ∃! token, token ∈ tokens ∧ token.Covers (m.base + pos)) ∧
      ∀ token ∈ tokens,
        (∀ pos, token.Covers (m.base + pos) →
          ((∀ group ∈ groups, ¬ group.Has pos) → token.kind = gap) ∧
          ∀ group ∈ groups, group.Has pos → ∀ kind, group.action = .token kind →
            token.kind = kind) ∧
        ∀ pos, m.base + pos = token.start ∨ m.base + pos = token.stop →
          pos = start ∨ pos = hit.stop ∨ ∃ group ∈ groups,
            pos = group.start ∨ pos = group.stop ∨
              (group.Lexed ∧ group.start < pos ∧ pos < group.stop) := by
  obtain ⟨tokens, htokens, hlaid⟩ := exists_laid (Grammar.closed_of_compile h) hhit gap hids
    hhit.start_between hhit.start_le 0
  refine ⟨_, tokens, htokens, hlaid, fun group => ?_, pairwise_handledGroups,
    fun pos hstart hstop => ?_,
    fun token hm => ⟨fun pos hpos => hlaid.kind_eq hm hpos, fun pos hpos => hlaid.ends hm hpos⟩⟩
  · rw [mem_handledGroups_iff]
    simp only [Nat.zero_add, exists_eq_left']
  · obtain ⟨piece, hpiece, hcut⟩ := hlaid.exists_cut
    refine hcut.tiled.existsUnique_covers (by omega) ?_
    rw [hcut.texts_eq, Nat.add_assoc, ← stop_of_slice hpiece]
    omega

/-- The second group lies before the first one, which is handled. -/
def backwards : Hit where
  stop := 4
  spans
    | 1 => some (1, 2)
    | 2 => some (0, 1)
    | 3 => some (2, 3)
    | _ => none

/-- Such a match, and one that a rule finds. -/
theorem groups_split_match_backwards :
    quoting.compile = .ok quotingTable ∧ backwards.Within ['b', 'a', 'c', 'd'] 0 ∧
      (∃ groups tokens,
        emitGroups quotingTable .text backwards (.start 0 ['b', 'a', 'c', 'd']) 0 0
            [.using 0, .token .name, .skip] =
          pure ((Machine.start 0 ['b', 'a', 'c', 'd']).add tokens) ∧
        Laid quotingTable ['b', 'a', 'c', 'd'] 0 0 .text 4 0 groups tokens ∧
        ∀ token ∈ tokens, ∀ pos, token.Covers (0 + pos) →
          (∀ group ∈ groups, ¬ group.Has pos) → token.kind = .text) ∧
      ∃ hit, matchAt ['q', 'q', 'a'] 0 quotingRule = pure (some hit) ∧
        hit.Within ['q', 'q', 'a'] 0 ∧ hit.spans 1 = some (1, 3) ∧ ∃ groups tokens,
          emitGroups quotingTable .text hit (.start 0 ['q', 'q', 'a']) 0 0 [.using 0] =
            pure ((Machine.start 0 ['q', 'q', 'a']).add tokens) ∧
          Laid quotingTable ['q', 'q', 'a'] 0 0 .text 3 0 groups tokens := by
  have hcompile : quoting.compile = .ok quotingTable := by decide +kernel
  have hbetween : ∀ pos, pos ≤ 4 → Between ['b', 'a', 'c', 'd'] pos := by
    have hall : ∀ pos ∈ List.range 5, (split? ['b', 'a', 'c', 'd'] pos).isSome = true := by decide
    intro pos hpos
    obtain ⟨⟨before, rest⟩, hsplit⟩ :=
      Option.isSome_iff_exists.mp (hall pos (List.mem_range.mpr (Nat.lt_succ_of_le hpos)))
    exact ⟨before, rest, hsplit⟩
  have hwithin : backwards.Within ['b', 'a', 'c', 'd'] 0 := by
    refine ⟨hbetween 0 (by decide), hbetween 4 (by decide), by decide,
      fun group first last hspan => ?_⟩
    have hbounds : first ≤ last ∧ last ≤ 4 := by
      unfold backwards at hspan
      dsimp only at hspan
      split at hspan
      · obtain ⟨rfl, rfl⟩ := Prod.mk.inj (Option.some.inj hspan)
        decide
      · obtain ⟨rfl, rfl⟩ := Prod.mk.inj (Option.some.inj hspan)
        decide
      · obtain ⟨rfl, rfl⟩ := Prod.mk.inj (Option.some.inj hspan)
        decide
      · cases hspan
    obtain ⟨hle, hlast⟩ := hbounds
    exact ⟨Nat.zero_le _, hle, hlast, hbetween first (by omega), hbetween last hlast⟩
  have hids : ∀ a ∈ [.using 0, .token .name, .skip], ∀ id : StateId,
      GroupAction.target? a = some id → id < quotingTable.states.length := by decide
  obtain ⟨groups, tokens, htokens, hlaid, -, -, -, hkinds⟩ :=
    groups_split_match hcompile (.start 0 ['b', 'a', 'c', 'd']) hwithin hids .text
  refine ⟨hcompile, hwithin, ⟨groups, tokens, htokens, hlaid,
    fun token hm pos hpos => ((hkinds token hm).1 pos hpos).1⟩, ?_⟩
  have hmatch : quotingRule.match? none ['q', 'q', 'a'] = some ⟨3, [⟨1, 1, 3⟩]⟩ := by
    decide +kernel
  have hhit : matchAt ([] ++ ['q', 'q', 'a']) 0 quotingRule = _ := matchAt_eq rfl quotingRule
  rw [List.getLast?_nil, hmatch] at hhit
  have hwithin := within_of_matchAt hhit
  have hids : ∀ a ∈ [.using 0], ∀ id : StateId,
      GroupAction.target? a = some id → id < quotingTable.states.length := by decide
  obtain ⟨groups, tokens, htokens, hlaid, -⟩ :=
    groups_split_match hcompile (.start 0 ['q', 'q', 'a']) hwithin hids .text
  exact ⟨_, hhit, hwithin, rfl, groups, tokens, htokens, hlaid⟩

end Bytewise

end Highlighter
