/-
# Method heads are lexed one level deep

The types in a method head are lexed by the lexer that met the head, from the main state on, so
nothing in the table keeps such lexers from nesting.  What does is the parenthesis at the end of a
head: there is none among the types, so a lexer for types never meets a head (`depth_of_reachable`).

* A lexer is never more than one level deep, and so the limit for nested lexers is never reached.
* **The tokens of a method head are those of its types as a text by itself**, moved to where the
  head is, and the name, the white space and the parenthesis (`method_head_tokens`).
* No rule with groups ever gives a token of its gap kind: its tokens are the same whatever the gap
  kind is.
-/
import Highlighter.Proofs.Bytewise.Steering
import Highlighter.Proofs.Lexer.Relocation
import Highlighter.Proofs.Shadow.Signatures

namespace Highlighter

namespace Bytewise

/-! ## 1. The rule of a step -/

variable {t : Table} {m m' : Machine} {r : TableRule} {hit : Hit}

/-- The rule fires in the step that the machine is about to take, with this hit. -/
def Machine.Applies (t : Table) (m : Machine) (r : TableRule) (hit : Hit) : Prop :=
  ∃ id current, m.context.current = pure id ∧ stateAt t id = pure current ∧
    firstHit m.text m.context.pos current.rules = pure (some (r, hit))

theorem Reaches.depth_eq {mc : Machine} {n : Nat} {returned : List Token}
    (h : Reaches t mc n returned m) : m.depth = mc.depth := by
  induction h with
  | start => rfl
  | step _ _ _ hm ih =>
    obtain ⟨x, tokens, -, rfl⟩ := exists_of_step hm
    exact ih
  | give _ _ ih => exact ih

namespace Machine.Applies

/-- **The hit of a rule that fires is a match of its pattern at the cursor.** -/
theorem exists_match (ht : t.Closed) (hm : Reachable t m) (h : m.Applies t r hit) :
    ∃ id before rest found, r ∈ (t.state id).rules ∧ m.text = before ++ rest ∧
      byteLength before = m.context.pos ∧ r.match? before.getLast? rest = some found ∧
      hit = Hit.ofMatch m.context.pos rest found := by
  obtain ⟨id, current, -, hcurrent, hfirst⟩ := h
  obtain ⟨depth, s, -, -, -, -, hrep, -⟩ := hm.exists_stream ht
  obtain ⟨before, htext, hpos, -⟩ := hrep.context.place
  have hstate : t.state id = current := by
    rw [Table.state, getElem?_of_stateAt hcurrent, Option.getD_some]
  rw [htext, firstHit_eq hpos] at hfirst
  obtain ⟨⟨r', found⟩, hmatch, heq⟩ := Option.map_eq_some_iff.mp (Run.pure_inj hfirst)
  obtain ⟨rfl, rfl⟩ := Prod.mk.inj heq
  obtain ⟨hmem, hmatch⟩ := firstMatch?_eq_some hmatch
  exact ⟨id, before, s.cursor.rest, found, hstate ▸ hmem, htext, hpos, hmatch, rfl⟩

/-- The rest of a step after the tokens of its rule, if the rule leaves the stack as it is. -/
theorem step_eq (h : m.Applies t r hit) (htransition : r.transition = none)
    {tokens : List Token} (htokens : emitMatch t hit m m.context.pos r.action =
      pure (m.add tokens)) :
    step t m = pure { m.add tokens with context := { m.context with pos := hit.stop } } := by
  obtain ⟨id, current, hid, hcurrent, hfirst⟩ := h
  simp only [step, hid, hcurrent, hfirst, pure_bind, htokens, htransition]
  rfl

end Machine.Applies

/-- The tokens of a match, in a machine that is reachable. -/
theorem emitMatch_of_match (ht : t.Closed) (hm : Reachable t m) {before rest : List Char}
    {found : Match} (htext : m.text = before ++ rest) (hpos : byteLength before = m.context.pos)
    (hmatch : r.match? before.getLast? rest = some found) {action : Action StateId}
    (hids : ∀ id ∈ action.targets, id < t.states.length) :
    emitMatch t (Hit.ofMatch m.context.pos rest found) m m.context.pos action =
      pure (m.add (Emission.tokens (t.subLexer (maxSubLexDepth - m.depth)) action found
        (rest.take found.length) (m.base + m.context.pos))) := by
  obtain ⟨depth, s, -, -, -, hdepth, hrep, -⟩ := hm.exists_stream ht
  obtain rfl := hrep.depth_eq
  have htext' : m.text = before ++ rest.take found.length ++ rest.drop found.length := by
    rw [List.append_assoc, List.take_append_drop, htext]
  exact emitMatch_eq (subLexesTo_subLexer ht (Nat.add_sub_cancel' hdepth))
    (Hit.describes_ofMatch (TableRule.pattern_match? hmatch) _) hpos hids rfl htext'

end Bytewise

namespace Shadow

open Bytewise

/-! ## 2. How deep lexers are nested -/

theorem closed_table : Compiled.table.Closed := Grammar.closed_of_compile compile_grammar

section

variable {m : Machine} {r : TableRule} {hit : Hit}

/-- Where the rule for method heads fires there is a signature. -/
theorem exists_signature_of_applies (hm : Reachable Compiled.table m)
    (h : m.Applies Compiled.table Compiled.method hit) :
    ∃ (before after : List Char) (s : Signature), m.text = before ++ s.text ++ after ∧
      byteLength before = m.context.pos ∧ hit.stop = m.context.pos + byteLength s.text ∧
      hit.spans 1 = some (m.context.pos, m.context.pos + byteLength s.types) := by
  obtain ⟨_, before, rest, found, -, htext, hpos, hmatch, rfl⟩ := h.exists_match closed_table hm
  obtain ⟨s, htaken, hspan, -⟩ := exists_signature hmatch
  have hrest : rest = s.text ++ rest.drop found.length := by rw [← htaken, List.take_append_drop]
  refine ⟨before, rest.drop found.length, s, ?_, hpos, ?_, ?_⟩
  · rw [htext, List.append_assoc, ← hrest]
  · rw [← htaken]
    rfl
  · have htypes : rest.take s.types.length = s.types := by
      rw [hrest, Signature.text]
      simp
    simp [Hit.ofMatch, hspan, htypes]

/-- **What is lexed by itself are the types of a method head**, from the main state on. -/
theorem types_of_opens (hm : Reachable Compiled.table m) {state : StateId} {start : Nat}
    {piece : List Char} (h : m.Opens Compiled.table state start piece) :
    '(' ∈ m.text ∧ '(' ∉ piece := by
  obtain ⟨id, current, r, hit, actions, gap, index, stop, hid, hcurrent, hfirst, haction, hgroup,
    hspan, hpiece⟩ := h
  have happlies : m.Applies Compiled.table r hit := ⟨id, current, hid, hcurrent, hfirst⟩
  obtain ⟨_, _, _, _, hmem, -⟩ := happlies.exists_match closed_table hm
  have htarget : state ∈ r.action.targets :=
    haction ▸ List.mem_filterMap.mpr ⟨_, List.mem_of_getElem? hgroup, rfl⟩
  obtain rfl : r = Compiled.method := (Compiled.form_of_mem hmem).resolve_right fun hform => by
    rw [hform.targets_eq_nil] at htarget
    cases htarget
  obtain ⟨before, after, s, htext, hpos, -, hspan'⟩ := exists_signature_of_applies hm happlies
  obtain ⟨rfl, rfl⟩ : _ = actions ∧ _ = gap := Action.groups.inj haction
  -- The first group is the only one that is lexed by itself.
  obtain rfl : index = 0 := by
    rcases index with _ | _ | _ | _ | index
    · rfl
    all_goals cases hgroup
  obtain ⟨rfl, rfl⟩ := Prod.mk.inj (Option.some.inj (hspan'.symm.trans hspan))
  have hsplit : m.text = before ++ s.types ++ (s.name ++ s.blank ++ ['('] ++ after) := by
    simp [htext, Signature.text]
  rw [hsplit, ← hpos, slice_append] at hpiece
  refine ⟨?_, Run.pure_inj hpiece ▸ s.unopened⟩
  rw [hsplit]
  simp

/-- **A lexer is for a whole text or for types**, and then there is no parenthesis in its text. -/
theorem depth_of_reachable (h : Reachable Compiled.table m) :
    m.depth = 0 ∨ m.depth = 1 ∧ '(' ∉ m.text := by
  induction h with
  | whole hs hm => exact .inl hm.depth_eq
  | group ho hd hg hm ih =>
    obtain ⟨hmem, hnot⟩ := types_of_opens ho hg
    have hdepth := ih.resolve_right fun h => h.2 hmem
    exact .inr ⟨by rw [hm.depth_eq, Machine.start, hdepth], hm.text_eq ▸ hnot⟩

theorem depth_le_of_reachable (h : Reachable Compiled.table m) : m.depth ≤ 1 := by
  rcases depth_of_reachable h with h | ⟨h, -⟩ <;> omega

/-- There is always a level left. -/
theorem depth_lt_of_reachable (h : Reachable Compiled.table m) : m.depth < maxSubLexDepth :=
  Nat.lt_of_le_of_lt (depth_le_of_reachable h) (by decide)

/-! ## 3. The tokens of method heads -/

/-- A text without parentheses has no part that is lexed by itself. -/
theorem nestsWithin_of_not_mem {text : List Char} (h : '(' ∉ text) (state : StateId) :
    Compiled.table.NestsWithin 0 state text := by
  intro c hc
  have hnot : '(' ∉ c.rest := fun hmem => h ((Table.suffix_of_mem_walk hc).subset hmem)
  cases hevent : Compiled.table.event c with
  | rule r found =>
    obtain ⟨hr, -⟩ := Table.match?_of_event hevent
    rcases Compiled.form_of_mem hr with rfl | hform
    · exact absurd hevent (ne_method_of_not_mem hnot found)
    · exact Emission.nested_eq_nil hform.targets_eq_nil _ _
  | fallback f => rfl
  | error => rfl

/-- **The types are lexed as a text by itself**, moved to where they are. -/
theorem Signature.tokens_types (s : Signature) (bytes : Nat) :
    (Stream.start 0 s.types bytes).tokens Compiled.table
        (Compiled.table.subLexer (maxSubLexDepth - 1)) =
      (Compiled.table.tokenize s.types).map (Token.shift bytes) := by
  have hshift := Compiled.table.tokens_shift_of_nestsWithin (nestsWithin_of_not_mem s.unopened 0)
    (Nat.zero_le maxSubLexDepth) (Nat.zero_le (maxSubLexDepth - 1)) 0 bytes
  rwa [Nat.zero_add] at hshift

/-- The tokens of a method head that begins at the byte offset `start`. -/
def Signature.tokens (s : Signature) (start : Nat) : List Token :=
  (table.tokenize s.types).map (Token.shift start) ++ s.ownTokens (start + byteLength s.types)

/-- The rule for method heads is the one with their pattern. -/
theorem eq_method_of_source {id : StateId} (hr : r ∈ (Compiled.table.state id).rules)
    (hsource : r.source = signaturePattern) : r = Compiled.method := by
  have hrules : ∀ s ∈ Compiled.table.states, ∀ r ∈ s.rules, r.source = signaturePattern →
      r = Compiled.method := by decide +kernel
  exact hrules _ (Table.state_mem_of_mem_rules hr) r hr hsource

/-- **The step for a method head** gives the tokens of the head and goes on behind it. -/
theorem step_of_method (hm : Reachable Compiled.table m)
    (h : m.Applies Compiled.table Compiled.method hit) :
    m.depth = 0 ∧ ∃ s : Signature, slice m.text m.context.pos hit.stop = pure s.text ∧
      step Compiled.table m = pure { m.add (s.tokens (m.base + m.context.pos)) with
        context := { m.context with pos := hit.stop } } := by
  obtain ⟨_, before, rest, found, -, htext, hpos, hmatch, rfl⟩ := h.exists_match closed_table hm
  obtain ⟨s, htaken, -, htokens⟩ := exists_signature hmatch
  have hrest : rest = s.text ++ rest.drop found.length := by rw [← htaken, List.take_append_drop]
  have hdepth : m.depth = 0 := (depth_of_reachable hm).resolve_right fun hnested => by
    refine hnested.2 ?_
    rw [htext, hrest, Signature.text]
    simp
  refine ⟨hdepth, s, ?_, h.step_eq rfl ?_⟩
  · have hstop : (Hit.ofMatch m.context.pos rest found).stop =
        byteLength before + byteLength s.text := by rw [← htaken, hpos]; rfl
    rw [hstop, ← hpos, htext, hrest, ← List.append_assoc, slice_append]
  · have hids : ∀ id ∈ Compiled.method.action.targets, id < Compiled.table.states.length := by
      decide
    have hlexer : Compiled.table.subLexer (maxSubLexDepth - m.depth) =
        Compiled.table.subLexer maxSubLexDepth := by rw [hdepth, Nat.sub_zero]
    rw [emitMatch_of_match closed_table hm htext hpos hmatch hids, hlexer, Signature.tokens,
      table_eq, ← s.tokens_types]
    exact congrArg (fun tokens => pure (m.add tokens)) (htokens _ .text _)

/-- **The gap kind never shows.**  Whatever kind it is, a rule with groups gives the same tokens. -/
theorem emitMatch_of_groups (hm : Reachable Compiled.table m) (h : m.Applies Compiled.table r hit)
    {actions : List (GroupAction StateId)} {gap : Kind} (haction : r.action = .groups actions gap) :
    ∃ tokens, ∀ gap', emitMatch Compiled.table hit m m.context.pos (.groups actions gap') =
      pure (m.add tokens) := by
  obtain ⟨id, before, rest, found, hr, htext, hpos, hmatch, rfl⟩ := h.exists_match closed_table hm
  obtain ⟨groups, hpattern, hfree, hskip, hlen⟩ :=
    Compiled.exists_row_of_groups (Compiled.form_of_mem hr) haction
  have hpm := TableRule.pattern_match? hmatch
  rw [hpattern] at hpm
  obtain ⟨texts, -, -, -, htokens⟩ := Emission.exists_tokens_of_row hfree hskip hlen hpm
  have hids := closed_table.actions _ (Table.state_mem_of_mem_rules hr) r hr
  rw [haction] at hids
  have hids' : ∀ gap', ∀ id ∈ (Action.groups actions gap').targets,
      id < Compiled.table.states.length := fun _ => hids
  obtain ⟨lex, hlex⟩ : ∃ lex, Compiled.table.subLexer (maxSubLexDepth - m.depth) = some lex := by
    have hlevels : maxSubLexDepth - m.depth = (maxSubLexDepth - m.depth - 1) + 1 := by
      have := depth_lt_of_reachable hm
      omega
    rw [hlevels]
    exact ⟨_, rfl⟩
  refine ⟨Emission.rowTokens (some lex) gap (m.base + m.context.pos) (actions.zip texts),
    fun gap' => ?_⟩
  rw [emitMatch_of_match closed_table hm htext hpos hmatch (hids' gap'), htokens, hlex,
    Emission.rowTokens_gap lex gap' gap hskip]

end

/-- **Method heads are lexed one level deep.**  In any lexer that is at work on any text:

* it is nested one level deep at most, so that there is always a level left;
* where the rule for method heads fires, the lexer is not nested and the match is a signature, whose
  tokens are those of its types as a text by itself, moved to where the head is, and its own;
* a rule with groups gives the same tokens whatever its gap kind is. -/
theorem method_head_tokens {m : Machine} (hm : Reachable table m) :
    m.depth ≤ 1 ∧ m.depth < maxSubLexDepth ∧
      (∀ r hit, m.Applies table r hit → r.source = signaturePattern →
        m.depth = 0 ∧ ∃ s : Signature, slice m.text m.context.pos hit.stop = pure s.text ∧
          step table m = pure { m.add (s.tokens (m.base + m.context.pos)) with
            context := { m.context with pos := hit.stop } }) ∧
      ∀ r hit actions gap, m.Applies table r hit → r.action = .groups actions gap →
        ∃ tokens, ∀ gap', emitMatch table hit m m.context.pos (.groups actions gap') =
          pure (m.add tokens) := by
  rw [table_eq] at hm ⊢
  refine ⟨depth_le_of_reachable hm, depth_lt_of_reachable hm, fun r hit h hsource => ?_,
    fun r hit actions gap h haction => emitMatch_of_groups hm h haction⟩
  obtain ⟨_, _, _, _, hr, -⟩ := h.exists_match closed_table hm
  obtain rfl := eq_method_of_source hr hsource
  exact step_of_method hm h

/-- The head of a method, and the lexer for its type, which is one level deep. -/
theorem method_head_tokens_int :
    Reachable table (.start 0 "int f(".toList) ∧ Reachable table (.start 0 "int ".toList 0 1) ∧
      (Machine.start 0 "int ".toList 0 1).depth ≤ 1 ∧
      ∃ hit, (Machine.start 0 "int f(".toList).Applies table Compiled.method hit ∧
        ∃ s : Signature, slice "int f(".toList 0 hit.stop = pure s.text ∧
          step table (.start 0 "int f(".toList) =
            pure ⟨"int f(".toList, 0, 0, ⟨hit.stop, [0], none⟩, s.tokens 0⟩ := by
  have hmatch : firstMatch? Compiled.rootRules none "int f(".toList =
      some (Compiled.method, ⟨6, [⟨4, 5, 6⟩, ⟨3, 5, 5⟩, ⟨2, 4, 5⟩, ⟨1, 0, 4⟩]⟩) := by
    decide +kernel
  have hfirst : firstHit ([] ++ "int f(".toList) 0 Compiled.rootRules = _ := firstHit_eq rfl _
  rw [List.getLast?_nil, hmatch] at hfirst
  have happlies : (Machine.start 0 "int f(".toList).Applies Compiled.table Compiled.method _ :=
    ⟨0, _, rfl, rfl, hfirst⟩
  have hopens : (Machine.start 0 "int f(".toList).Opens Compiled.table 0 0 "int ".toList :=
    ⟨0, _, Compiled.method, _, _, _, 0, _, rfl, rfl, hfirst, rfl, rfl, rfl, rfl⟩
  have hreach : Reachable Compiled.table (.start 0 "int f(".toList) := .whole (by decide) .start
  have hnested : Reachable Compiled.table (.start 0 "int ".toList 0 1) :=
    .group hreach (by decide) hopens .start
  rw [← table_eq] at happlies hreach hnested
  obtain ⟨-, -, hheads, -⟩ := method_head_tokens hreach
  obtain ⟨-, s, htext, hstep⟩ := hheads _ _ happlies rfl
  exact ⟨hreach, hnested, (method_head_tokens hnested).1, _, happlies, s, htext, hstep⟩

end Shadow

end Highlighter
