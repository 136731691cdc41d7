/-
# Rules consume

A rule with an empty match would leave the cursor where it is.  This is looked out for twice: a
grammar is refused if the least length of a pattern is 0, and an empty match does not count when a
text is lexed.

* **Where the least length of a pattern is known, the first is enough**: it is not 0, every match
  takes that many bytes at least, and `matchAt` leaves nothing out of what the pattern matches
  (`rules_consume`).
* It is known unless one of the sets in the pattern has no member
  (`Pattern.exists_isEmpty_of_minLength`).
* A step by a rule moves the cursor on in any case (`lt_of_act_rule`), but where a set has no member
  that is by the second only: the pattern that repeats it may match the empty text
  (`empty_match_compiles`).
-/
import Highlighter.Proofs.Bytewise.Fallbacks
import Highlighter.Proofs.Bytewise.Shadowing

namespace Highlighter

/-! ## 1. Rules of a table -/

namespace Grammar

variable {g : Grammar} {t : Table}

/-- A rule of a table comes from a rule of the grammar. -/
theorem exists_rule_of_mem_rules (h : g.compile = .ok t) {state : TableState}
    (hstate : state ∈ t.states) {c : TableRule} (hc : c ∈ state.rules) :
    ∃ r, g.ValidRule r ∧ g.RuleCompilesTo r c := by
  obtain ⟨hv, -⟩ := valid_and_compilesTo_of_compile h
  obtain ⟨s, hs, -, hrules⟩ :=
    Checks.exists_right_of_mem (forall₂_expand_of_compile h).flip hstate
  obtain ⟨r, hr, hcompiles⟩ := Checks.exists_right_of_mem hrules.flip hc
  obtain ⟨s', hs', hentry⟩ := exists_entry_of_mem_expand hv hs hr
  exact ⟨r, hv.rules s' hs' r hentry, hcompiles⟩

end Grammar

namespace Bytewise

/-! ## 2. Matches -/

/-- What the pattern of a rule matches at a byte offset, be it empty or not. -/
def foundAt (text : List Char) (pos : Nat) (r : TableRule) : Run (Option Hit) :=
  match split? text pos with
  | none => throw (.badSlice pos (byteLength text))
  | some (before, rest) =>
    pure ((r.pattern.match? before.getLast? rest).map (Hit.ofMatch pos rest))

section

variable {text : List Char} {pos n : Nat} {r : TableRule} {hit : Hit}

/-- What a pattern matches takes a byte for each character that it needs. -/
theorem add_le_stop_of_foundAt (hn : r.pattern.minLength = some n)
    (h : foundAt text pos r = pure (some hit)) : pos + n ≤ hit.stop := by
  unfold foundAt at h
  split at h
  · cases h
  · rename_i before rest _
    obtain ⟨m, hm, rfl⟩ := Option.map_eq_some_iff.mp (Run.pure_inj h)
    have hle := Pattern.le_length_of_match? hn hm
    have hrest := Pattern.length_le_of_match? hm
    have hbytes := length_le_byteLength (rest.take m.length)
    rw [List.length_take, Nat.min_eq_left hrest] at hbytes
    exact Nat.add_le_add_left (Nat.le_trans hle hbytes) pos

/-- Where no match is empty, none is left out. -/
theorem matchAt_eq_foundAt (hn : r.pattern.minLength = some n) (hpos : 0 < n) (text : List Char)
    (pos : Nat) : matchAt text pos r = foundAt text pos r := by
  unfold matchAt foundAt
  cases hplace : split? text pos with
  | none => rfl
  | some place =>
    obtain ⟨before, rest⟩ := place
    dsimp only
    cases hm : r.pattern.match? before.getLast? rest with
    | none => rfl
    | some m =>
      have hfound : foundAt text pos r = pure (some (.ofMatch pos rest m)) := by
        rw [foundAt, hplace]
        dsimp only
        rw [hm]
        rfl
      have hstop := add_le_stop_of_foundAt hn hfound
      rw [Option.map_some, Option.filter_some, if_pos (decide_eq_true (by omega))]

end

/-! ## 3. Steps -/

/-- **A step by a rule moves the cursor on**, to where the match ends. -/
theorem lt_of_act_rule {t : Table} {m m' : Machine} {index : Nat} {r : TableRule} {hit : Hit}
    (h : act t m = pure (.rule index r hit, m')) :
    m.context.pos < m'.context.pos ∧ m'.context.pos = hit.stop := by
  obtain ⟨state, -, hacts⟩ := exists_acts h
  cases hacts with
  | rule hfirst _ => exact ⟨lt_stop_of_matchAt (firstPlace_eq_some_iff.mp hfirst).2.1, rfl⟩

/-- **In the table of a grammar, a rule leaves no match out** and consumes what its pattern needs,
which is something, unless a set of the pattern has no member.  A step by a rule always moves the
cursor on. -/
theorem rules_consume {g : Grammar} {t : Table} (h : g.compile = .ok t) :
    (∀ state ∈ t.states, ∀ r ∈ state.rules,
      (∃ s ∈ r.pattern.sets, s.isEmpty = true) ∨ ∃ n, r.pattern.minLength = some n ∧ 0 < n ∧
        (∀ text pos hit, foundAt text pos r = pure (some hit) → pos + n ≤ hit.stop) ∧
        (∀ text pos, matchAt text pos r = foundAt text pos r) ∧
        ∀ before rest, r.match? before rest = r.pattern.match? before rest) ∧
    ∀ m m' index r hit, act t m = pure (.rule index r hit, m') →
      m.context.pos < m'.context.pos ∧ m'.context.pos = hit.stop := by
  refine ⟨fun state hstate r hr => ?_, fun m m' index r hit hact => lt_of_act_rule hact⟩
  obtain ⟨rule, hvalid, hcompiles⟩ := Grammar.exists_rule_of_mem_rules h hstate hr
  cases hn : r.pattern.minLength with
  | none => exact .inl (Pattern.exists_isEmpty_of_minLength hn)
  | some n =>
    have hpos : 0 < n := by
      refine Nat.pos_of_ne_zero ?_
      rintro rfl
      exact hvalid.minLength_ne_zero hcompiles hn
    refine .inr ⟨n, rfl, hpos, fun text pos hit hfound => add_le_stop_of_foundAt hn hfound,
      matchAt_eq_foundAt hn hpos, fun before rest => ?_⟩
    cases hm : r.pattern.match? before rest with
    | none => rw [TableRule.match?, hm, Option.filter_none]
    | some m =>
      have hle := Pattern.le_length_of_match? hn hm
      exact TableRule.match?_of_pos hm (Nat.lt_of_lt_of_le hpos hle)

/-- The pattern of the first rule is known to take two characters. -/
theorem rules_consume_declarations :
    declarations.compile = .ok declarationsTable ∧ ∃ state ∈ declarationsTable.states,
      ∃ r ∈ state.rules, r.source = "(?:if|var)\\b" ∧ r.pattern.minLength = some 2 ∧
        (∀ s ∈ r.pattern.sets, s.isEmpty = false) ∧
        (∀ text pos, matchAt text pos r = foundAt text pos r) ∧
        ∀ text pos hit, foundAt text pos r = pure (some hit) → pos + 2 ≤ hit.stop := by
  have hcompile : declarations.compile = .ok declarationsTable := by decide +kernel
  obtain ⟨hrules, -⟩ := rules_consume hcompile
  have hfirst := hrules _ List.mem_cons_self _ List.mem_cons_self
  refine ⟨hcompile, _, List.mem_cons_self, _, List.mem_cons_self, rfl, ?_, ?_, ?_⟩
  · decide +kernel
  · decide +kernel
  · rcases hfirst with ⟨s, hs, hempty⟩ | ⟨n, hn, -, hstop, hmatch, -⟩
    · exact absurd hempty (by revert s; decide +kernel)
    · obtain rfl : n = 2 := Option.some.inj (hn.symm.trans (by decide +kernel))
      exact ⟨hmatch, hstop⟩

/-- A grammar whose only pattern repeats a set without members. -/
def hollow : Grammar where
  name := "hollow"
  states := [
    { name := "root"
      entries := [.rule { pattern := "[^\\s\\S]*", action := .token .name }] }]

def hollowRule : TableRule := ⟨"[^\\s\\S]*", nothing, .token .name, none⟩

def hollowTable : Table := ⟨"hollow", 0, [⟨"root", [hollowRule], none⟩]⟩

/-- The grammar is not refused, and its pattern matches the empty text before a letter, which then
does not count. -/
theorem empty_match_compiles :
    hollow.compile = .ok hollowTable ∧ hollowRule.pattern.minLength = none ∧
      (∃ hit, foundAt ['a'] 0 hollowRule = pure (some hit) ∧ hit.stop = 0) ∧
      matchAt ['a'] 0 hollowRule = pure none := by
  have hfound : hollowRule.pattern.match? none ['a'] = some ⟨0, []⟩ := by decide +kernel
  have hmatch : hollowRule.match? none ['a'] = none := by
    rw [TableRule.match?, hfound]
    rfl
  refine ⟨by decide +kernel, by decide +kernel, ⟨.ofMatch 0 ['a'] ⟨0, []⟩, ?_, rfl⟩, ?_⟩
  · show pure ((hollowRule.pattern.match? none ['a']).map (Hit.ofMatch 0 ['a'])) = _
    rw [hfound]
    rfl
  · have hplace : matchAt ['a'] 0 hollowRule =
        pure ((hollowRule.match? none ['a']).map (Hit.ofMatch 0 ['a'])) :=
      matchAt_eq byteLength_nil hollowRule
    rw [hplace, hmatch]
    rfl

end Bytewise

end Highlighter
