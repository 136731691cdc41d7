/-
# The rule that fires

Which rule fires is said by what the patterns of a state make of the text ahead: **the first rule
whose pattern prefers some text fires, if those before it refuse** (`step_eq_give`), and if all of
them refuse, one character is an error (`step_eq_give_error`).  Both are about any stream, with
whatever has been read and whatever tokens wait.

A step that gives one token says what a text begins with (`tokenize_eq_cons`).  Whatever rule fires,
its tokens are of the kinds that its action names, but for those of groups that are lexed by
themselves (`Emission.kind_mem_kinds`).
-/
import Highlighter.Proofs.Lexer.Evaluation
import Highlighter.Proofs.Lexer.Rows
import Highlighter.Proofs.Regex.Choices

namespace Highlighter

/-! ## 1. Rules -/

section

variable {r : TableRule} {rest text after : List Char}

theorem TableRule.match?_of_refuses (h : r.pattern.Refuses rest) (before : Option Char) :
    r.match? before rest = none := by
  rw [TableRule.match?, h.match?, Option.filter_none]

theorem TableRule.exists_match?_of_prefers (h : r.pattern.Prefers text after) (hne : text ≠ [])
    (before : Option Char) :
    ∃ m, r.match? before (text ++ after) = some m ∧ m.length = text.length := by
  obtain ⟨m, hm, hlength⟩ := h.match? before
  have hpos : 0 < m.length := hlength ▸ List.length_pos_iff.mpr hne
  exact ⟨m, Option.filter_eq_some_iff.mpr ⟨hm, decide_eq_true hpos⟩, hlength⟩

/-- The first rule that matches, where those before it refuse. -/
theorem firstMatch?_of_getElem? {rules : List TableRule} {count : Nat}
    {before : Option Char} {m : Match}
    (hr : rules[count]? = some r) (hearlier : ∀ e ∈ rules.take count, e.pattern.Refuses rest)
    (hm : r.match? before rest = some m) : firstMatch? rules before rest = some (r, m) := by
  have hnone : firstMatch? (rules.take count) before rest = none := by
    refine List.findSome?_eq_none_iff.mpr fun e he => ?_
    rw [TableRule.match?_of_refuses (hearlier e he), Option.map_none]
  have hfrom : firstMatch? (rules.drop count) before rest = some (r, m) := by
    obtain ⟨hlt, rfl⟩ := List.getElem?_eq_some_iff.mp hr
    rw [List.drop_eq_getElem_cons hlt, firstMatch?, List.findSome?_cons, hm, Option.map_some]
  rw [firstMatch?] at hnone hfrom ⊢
  rw [← List.take_append_drop count rules, List.findSome?_append, hnone, hfrom, Option.none_or]

end

/-! ## 2. Steps -/

/-- The stream after a step that takes `text` as one token. -/
def Stream.give (s : Stream) (kind : Kind) (text : List Char) : Stream :=
  ⟨s.cursor.consume text.length, s.pending ++ [⟨kind, text, s.cursor.offset⟩]⟩

theorem Stream.top_start (state : StateId) (text : List Char) :
    (Stream.start state text).cursor.stack.top = state := rfl

section

variable {t : Table} {sub : Option SubLexer} {s : Stream}

/-- **The first rule whose pattern does not refuse fires**, and its token is the text that the
pattern prefers. -/
theorem Stream.step_eq_give {count : Nat} {r : TableRule} {kind : Kind} {text after : List Char}
    (hr : (t.state s.cursor.stack.top).rules[count]? = some r)
    (haction : r.action = .token kind) (htransition : r.transition = none)
    (hearlier : ∀ e ∈ (t.state s.cursor.stack.top).rules.take count,
      e.pattern.Refuses s.cursor.rest)
    (hrest : s.cursor.rest = text ++ after) (hprefers : r.pattern.Prefers text after)
    (hne : text ≠ []) : s.step t sub = s.give kind text := by
  obtain ⟨m, hm, hlength⟩ := TableRule.exists_match?_of_prefers hprefers hne s.cursor.before
  rw [← hrest] at hm
  have hevent : t.event s.cursor = .rule r m :=
    Table.event_of_firstMatch? (firstMatch?_of_getElem? hr hearlier hm)
  have hafter : s.cursor.after (.rule r m) = s.cursor.consume text.length := by
    rw [Cursor.after, htransition, hlength]
    rfl
  have hemitted : s.cursor.emitted sub (.rule r m) = [⟨kind, text, s.cursor.offset⟩] := by
    rw [Cursor.emitted, haction, hlength, hrest, List.take_left]
    exact Emission.piece_of_ne_nil hne kind s.cursor.offset
  rw [step, hevent]
  rw [hafter, hemitted, give]

/-- **Where every rule refuses, the next character is an error.** -/
theorem Stream.step_eq_give_error {c : Char} {after : List Char}
    (hrules : ∀ r ∈ (t.state s.cursor.stack.top).rules, r.pattern.Refuses s.cursor.rest)
    (hfallback : (t.state s.cursor.stack.top).fallback = none)
    (hrest : s.cursor.rest = c :: after) : s.step t sub = s.give .error [c] := by
  have hnone : firstMatch? (t.state s.cursor.stack.top).rules s.cursor.before s.cursor.rest =
      none := by
    refine List.findSome?_eq_none_iff.mpr fun r hr => ?_
    rw [TableRule.match?_of_refuses (hrules r hr), Option.map_none]
  have hevent : t.event s.cursor = .error := by
    unfold Table.event
    dsimp only
    rw [hnone, hfallback]
  have hemitted : s.cursor.emitted sub .error = [⟨.error, [c], s.cursor.offset⟩] := by
    rw [Cursor.emitted, hrest]
    rfl
  rw [step, hevent]
  rw [hemitted]
  rfl

/-- A step that takes the beginning of a text as one token gives its first token. -/
theorem Table.tokenize_eq_cons {kind : Kind} {text after : List Char} (hne : text ≠ [])
    (h : (Stream.start t.initial (text ++ after)).step t t.groupLexer =
      (Stream.start t.initial (text ++ after)).give kind text) :
    t.tokenize (text ++ after) = ⟨kind, text, 0⟩ ::
      (⟨(Cursor.start t.initial (text ++ after)).consume text.length, []⟩ : Stream).tokens t
        t.groupLexer := by
  have hrest : (Stream.start t.initial (text ++ after)).cursor.rest ≠ [] :=
    List.append_ne_nil_of_left_ne_nil hne after
  rw [Table.tokenize, Table.tokenizeFrom, Stream.tokens_of_step t _ rfl hrest, h, Stream.give,
    Stream.tokens_of_pending]
  rfl

/-- A step that takes all of a text as one token gives all its tokens. -/
theorem Table.tokenize_eq_singleton {kind : Kind} {text : List Char} (hne : text ≠ [])
    (h : (Stream.start t.initial text).step t t.groupLexer =
      (Stream.start t.initial text).give kind text) :
    t.tokenize text = [⟨kind, text, 0⟩] := by
  have hnil : text ++ [] = text := List.append_nil text
  rw [← hnil, tokenize_eq_cons hne (by rwa [hnil]), Stream.tokens_of_end, hnil]
  exact List.drop_eq_nil_iff.mpr (Nat.le_of_eq (congrArg List.length hnil))

end

/-! ## 3. Kinds -/

/-- The kind that a group's action names. -/
def GroupAction.kind? {σ : Type} : GroupAction σ → Option Kind
  | .token kind => some kind
  | _ => none

/-- The kinds that an action names. -/
def Action.kinds {σ : Type} : Action σ → List Kind
  | .token kind => [kind]
  | .groups actions gap => gap :: actions.filterMap GroupAction.kind?

namespace Emission

section

variable {sub : Option SubLexer} {gap : Kind} {token : Token} {text : List Char} {start : Nat}

theorem kind_of_mem_piece {kind : Kind} (h : token ∈ piece kind text start) :
    token.kind = kind := by
  unfold piece at h
  split at h
  · cases h
  · exact List.mem_singleton.mp h ▸ rfl

theorem kind_of_mem_ofGroup {action : GroupAction StateId} (haction : action.target? = none)
    (h : token ∈ ofGroup sub gap action text start) :
    token.kind = gap ∨ action.kind? = some token.kind := by
  cases action with
  | token kind => exact Or.inr (congrArg some (kind_of_mem_piece h).symm)
  | «using» state => cases haction
  | skip => exact Or.inl (kind_of_mem_piece h)

theorem kind_of_mem_groupTokens {groups : List (GroupAction StateId × Option (Nat × Nat))}
    (hgroups : ∀ group ∈ groups, group.1.target? = none) {done : Nat}
    (h : token ∈ groupTokens sub gap done start text groups) :
    token.kind = gap ∨ ∃ group ∈ groups, group.1.kind? = some token.kind := by
  induction groups generalizing done start text with
  | nil => exact Or.inl (kind_of_mem_piece h)
  | cons group groups ih =>
    obtain ⟨hgroup, hgroups⟩ := List.forall_mem_cons.mp hgroups
    have hothers : (∃ group ∈ groups, group.1.kind? = some token.kind) →
        ∃ other ∈ group :: groups, other.1.kind? = some token.kind := fun ⟨other, hother, h⟩ =>
      ⟨other, List.mem_cons_of_mem group hother, h⟩
    rw [groupTokens] at h
    split at h
    · exact (ih hgroups h).imp_right hothers
    · rcases List.mem_append.mp h with h | h
      · rcases List.mem_append.mp h with h | h
        · exact Or.inl (kind_of_mem_piece h)
        · exact (kind_of_mem_ofGroup hgroup h).imp_right fun h => ⟨group, List.mem_cons_self, h⟩
      · exact (ih hgroups h).imp_right hothers

/-- **Where no group is lexed by itself, the tokens of a match are of the kinds that its action
names.** -/
theorem kind_mem_kinds {action : Action StateId} (htargets : action.targets = []) {m : Match}
    (h : token ∈ tokens sub action m text start) : token.kind ∈ action.kinds := by
  cases action with
  | token kind => exact kind_of_mem_piece h ▸ List.mem_singleton_self _
  | groups actions gap =>
    have hactions : ∀ group ∈ assign actions m, group.1 ∈ actions := by
      intro group hgroup
      obtain ⟨pair, hpair, rfl⟩ := List.mem_map.mp hgroup
      exact (List.mem_zipIdx hpair).2.2 ▸ List.getElem_mem _
    have hgroups : ∀ group ∈ assign actions m, group.1.target? = none := fun group hgroup =>
      List.filterMap_eq_nil_iff.mp htargets _ (hactions group hgroup)
    rcases kind_of_mem_groupTokens hgroups h with hgap | ⟨group, hgroup, hkind⟩
    · exact hgap ▸ List.mem_cons_self
    · exact List.mem_cons_of_mem gap (List.mem_filterMap.mpr ⟨_, hactions group hgroup, hkind⟩)

end

end Emission

end Highlighter
