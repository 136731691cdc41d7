/-
# Rules whose groups abut

Where a pattern is a row of groups, each beginning where the one before it ends, a match leaves
nothing between its groups.  A rule with such a pattern and one action for each group gives the
tokens of its groups and no others (`exists_tokens_of_row`): its gap kind never shows, whatever the
groups take, as long as there is a lexer for group texts.
-/
import Highlighter.Proofs.Lexer.Lossless
import Highlighter.Proofs.Regex.Completeness

namespace Highlighter

/-! ## 1. Rows of groups -/

namespace Pattern

/-- Whether the pattern has no groups. -/
def groupFree : Pattern → Bool
  | empty => true
  | set _ => true
  | look _ => true
  | seq a b => a.groupFree && b.groupFree
  | alt a b => a.groupFree && b.groupFree
  | repeated a _ _ _ => a.groupFree
  | group _ _ => false

/-- Groups one after the other, numbered from `first` on. -/
def row : (first : Nat) → List Pattern → Pattern
  | _, [] => empty
  | first, [a] => group first a
  | first, a :: as => seq (group first a) (row (first + 1) as)

/-- Patterns that take texts one after the other. -/
inductive TakesRow : List Pattern → Option Char → List (List Char) → List Char → Prop where
  | nil (before : Option Char) (after : List Char) : TakesRow [] before [] after
  | cons {a : Pattern} {as : List Pattern} {before : Option Char} {taken : List Char}
    {others : List (List Char)} {after : List Char} :
    a.Takes before taken (others.flatten ++ after) →
      TakesRow as (lastChar? before taken) others after →
      TakesRow (a :: as) before (taken :: others) after

theorem TakesRow.length_eq {as : List Pattern} {before : Option Char} {taken : List (List Char)}
    {after : List Char} (h : TakesRow as before taken after) : taken.length = as.length := by
  induction h with
  | nil => rfl
  | cons _ _ ih => rw [List.length_cons, List.length_cons, ih]

theorem captures_of_leads {a : Pattern} (hfree : a.groupFree = true) {p q : Progress}
    (h : a.Leads p q) : q.captures = p.captures := by
  induction a generalizing p q with
  | empty => exact congrArg Progress.captures h
  | set s =>
    obtain ⟨c, place, -, -, rfl⟩ := h
    rfl
  | look a => exact h.2 ▸ rfl
  | seq a b iha ihb =>
    obtain ⟨ha, hb⟩ := Bool.and_eq_true_iff.mp hfree
    obtain ⟨r, hpr, hrq⟩ := h
    exact (ihb hb hrq).trans (iha ha hpr)
  | alt a b iha ihb =>
    obtain ⟨ha, hb⟩ := Bool.and_eq_true_iff.mp hfree
    rcases h with h | h
    · exact iha ha h
    · exact ihb hb h
  | repeated a min max greedy ih =>
    obtain ⟨n, -, -, hi⟩ := h
    exact hi.le (S := fun p q => q.captures = p.captures) (fun _ => rfl)
      (fun _ _ _ h h' => h'.trans h) fun _ _ => ih hfree
  | group i a => cases hfree

/-- What the groups of a row took, the last one first. -/
def rowCaptures : (first start : Nat) → List (List Char) → List Capture
  | _, _, [] => []
  | first, start, taken :: others =>
    rowCaptures (first + 1) (start + taken.length) others ++
      [⟨first, start, start + taken.length⟩]

/-- **A row of groups takes a row of texts**, each group its own. -/
theorem exists_takesRow_of_leads {as : List Pattern} (hfree : ∀ a ∈ as, a.groupFree = true)
    {first : Nat} {p q : Progress} (h : (row first as).Leads p q) :
    ∃ taken, p.Took taken.flatten q ∧ TakesRow as p.place.before taken q.place.rest ∧
      q.captures = rowCaptures first p.index taken ++ p.captures := by
  induction as generalizing first p with
  | nil =>
    obtain rfl : q = p := h
    exact ⟨[], .refl q, .nil _ _, rfl⟩
  | cons a as ih =>
    obtain ⟨ha, has⟩ := List.forall_mem_cons.mp hfree
    -- A row of one group is the group alone, with nothing after it.
    have hsplit : ∃ r, a.Leads p r ∧ (row (first + 1) as).Leads (r.close first p.index) q := by
      cases as with
      | nil =>
        obtain ⟨r, hr, rfl⟩ := h
        exact ⟨r, hr, rfl⟩
      | cons b as =>
        obtain ⟨_, ⟨r, hr, rfl⟩, h⟩ := h
        exact ⟨r, hr, h⟩
    obtain ⟨r, hr, h⟩ := hsplit
    obtain ⟨taken, htook, htakes⟩ := exists_takes_of_leads hr
    obtain ⟨others, hothers, hrow, hcaptures⟩ := ih has h
    have hrest : r.place.rest = others.flatten ++ q.place.rest := hothers.rest
    have hbefore : r.place.before = lastChar? p.place.before taken := htook.before
    have hindex : (r.close first p.index).index = p.index + taken.length := htook.index
    have hclosed : p.Took taken (r.close first p.index) :=
      ⟨htook.rest, htook.before, htook.index⟩
    rw [hrest] at htakes
    have hrow : TakesRow as r.place.before others q.place.rest := hrow
    rw [hbefore] at hrow
    refine ⟨taken :: others, hclosed.trans hothers, .cons htakes hrow, ?_⟩
    rw [hcaptures, hindex, Progress.close, captures_of_leads ha hr, rowCaptures]
    have hr : r.index = p.index + taken.length := hindex
    rw [hr, List.append_assoc, List.singleton_append]

end Pattern

/-! ## 2. The tokens of a row -/

namespace Emission

/-- The tokens of groups that lie one after the other, the first one at the byte offset `start`. -/
def rowTokens (sub : Option SubLexer) (gap : Kind) :
    (start : Nat) → List (GroupAction StateId × List Char) → List Token
  | _, [] => []
  | start, (action, text) :: groups =>
    (if text = [] then [] else ofGroup sub gap action text start) ++
      rowTokens sub gap (start + byteLength text) groups

/-- The bounds of texts that lie one after the other. -/
def rowSpans : (start : Nat) → List (List Char) → List (Nat × Nat)
  | _, [] => []
  | start, text :: texts =>
    (start, start + text.length) :: rowSpans (start + text.length) texts

theorem find?_rowCaptures_of_lt {first start group : Nat} {texts : List (List Char)}
    (h : group < first) :
    (Pattern.rowCaptures first start texts).find? (·.group == group) = none := by
  induction texts generalizing first start with
  | nil => rfl
  | cons text texts ih =>
    have hne : first ≠ group := by omega
    rw [Pattern.rowCaptures, List.find?_append, ih (by omega)]
    simp [hne]

/-- Each action of a row gets what its group took. -/
theorem assign_row {actions : List (GroupAction StateId)} {texts : List (List Char)}
    (hlen : actions.length = texts.length) (length first start : Nat) {earlier : List Capture}
    (hearlier : ∀ c ∈ earlier, c.group ≤ first) :
    (actions.zipIdx first).map (fun (action, i) => (action,
        Match.span? ⟨length, Pattern.rowCaptures (first + 1) start texts ++ earlier⟩ (i + 1))) =
      actions.zip ((rowSpans start texts).map some) := by
  induction actions generalizing texts first start earlier with
  | nil => rfl
  | cons action actions ih =>
    obtain ⟨text, texts, rfl⟩ := List.exists_cons_of_length_eq_add_one hlen.symm
    have hspan : Match.span? ⟨length, Pattern.rowCaptures (first + 1) start (text :: texts) ++
        earlier⟩ (first + 1) = some (start, start + text.length) := by
      rw [Match.span?, Pattern.rowCaptures, List.append_assoc, List.find?_append,
        find?_rowCaptures_of_lt (by omega)]
      simp
    rw [List.zipIdx_cons, List.map_cons, rowSpans, List.map_cons, List.zip_cons_cons]
    dsimp only
    rw [hspan, Pattern.rowCaptures, List.append_assoc]
    congr 1
    refine ih (Nat.succ.inj hlen) (first + 1) (start + text.length) ?_
    rw [List.singleton_append]
    exact List.forall_mem_cons.mpr
      ⟨Nat.le_refl _, fun c hc => Nat.le_trans (hearlier c hc) (Nat.le_succ _)⟩

/-- **The tokens of a row are those of its groups.**  Each group begins where the one before it
ends, so there is never anything for the gap kind. -/
theorem groupTokens_row {sub : Option SubLexer} {gap : Kind}
    {actions : List (GroupAction StateId)} (hskip : .skip ∉ actions) {texts : List (List Char)}
    (hlen : actions.length = texts.length) (done start : Nat) :
    groupTokens sub gap done start texts.flatten
        (actions.zip ((rowSpans done texts).map some)) =
      rowTokens sub gap start (actions.zip texts) := by
  induction actions generalizing texts done start with
  | nil =>
    obtain rfl := List.eq_nil_of_length_eq_zero hlen.symm
    rfl
  | cons action actions ih =>
    obtain ⟨text, texts, rfl⟩ := List.exists_cons_of_length_eq_add_one hlen.symm
    have haction : action ≠ .skip := fun h => hskip (h ▸ List.mem_cons_self)
    have hnext := ih (fun h => hskip (List.mem_cons_of_mem _ h)) (Nat.succ.inj hlen)
      (done + text.length) (start + byteLength text)
    rw [rowSpans, List.map_cons, List.zip_cons_cons, groupTokens, handled?_eq_filter done haction,
      List.zip_cons_cons, rowTokens]
    by_cases htext : text = []
    · subst htext
      simpa [Option.filter] using hnext
    · have hpos : done ≤ done ∧ done < done + text.length := by
        have := List.length_pos_iff.mpr htext
        omega
      rw [Option.filter_some, if_pos (decide_eq_true hpos), if_neg htext]
      dsimp only
      rw [Nat.sub_self, Nat.add_sub_cancel_left, List.take_zero, List.drop_zero, List.flatten_cons,
        List.take_left, List.drop_left, byteLength_nil, Nat.add_zero, hnext]
      rfl

theorem piece_of_ne_nil {text : List Char} (h : text ≠ []) (kind : Kind) (start : Nat) :
    piece kind text start = [⟨kind, text, start⟩] := by
  obtain ⟨c, text, rfl⟩ := List.exists_cons_of_ne_nil h
  rfl

/-- A group that is a token by itself, at the beginning of a row. -/
theorem rowTokens_token (sub : Option SubLexer) (gap kind : Kind) (start : Nat) (text : List Char)
    (groups : List (GroupAction StateId × List Char)) :
    rowTokens sub gap start ((.token kind, text) :: groups) =
      piece kind text start ++ rowTokens sub gap (start + byteLength text) groups := by
  rw [rowTokens]
  cases text <;> rfl

/-- **A rule whose groups abut gives the tokens of its groups.**  The actions get what the groups
took. -/
theorem exists_tokens_of_row {as : List Pattern} (hfree : ∀ a ∈ as, a.groupFree = true)
    {actions : List (GroupAction StateId)} (hskip : .skip ∉ actions)
    (hlen : actions.length = as.length) {before : Option Char} {rest : List Char} {m : Match}
    (h : (Pattern.row 1 as).match? before rest = some m) :
    ∃ texts, texts.flatten = rest.take m.length ∧
      Pattern.TakesRow as before texts (rest.drop m.length) ∧
      assign actions m = actions.zip ((rowSpans 0 texts).map some) ∧
      ∀ sub gap start, tokens sub (.groups actions gap) m (rest.take m.length) start =
        rowTokens sub gap start (actions.zip texts) := by
  obtain ⟨q, hq, rfl⟩ := Pattern.leads_of_match? h
  obtain ⟨texts, htook, hrow, hcaptures⟩ := Pattern.exists_takesRow_of_leads hfree hq
  obtain ⟨htake, hdrop⟩ := htook.take_eq
  have hlength : actions.length = texts.length := hlen.trans hrow.length_eq.symm
  have hnone : ∀ c ∈ ([] : List Capture), c.group ≤ 0 := fun c hc => by cases hc
  have hassign : assign actions ⟨q.index, q.captures⟩ =
      actions.zip ((rowSpans 0 texts).map some) := by
    rw [← assign_row hlength q.index 0 0 hnone, hcaptures]
    rfl
  refine ⟨texts, htake.symm, hdrop ▸ hrow, hassign, fun sub gap start => ?_⟩
  rw [tokens, hassign, htake, groupTokens_row hskip hlength 0 start]

/-- As long as there is a lexer for group texts, the gap kind of a row does not matter. -/
theorem rowTokens_gap (lex : SubLexer) (gap gap' : Kind) {actions : List (GroupAction StateId)}
    (hskip : .skip ∉ actions) (start : Nat) (texts : List (List Char)) :
    rowTokens (some lex) gap start (actions.zip texts) =
      rowTokens (some lex) gap' start (actions.zip texts) := by
  induction actions generalizing start texts with
  | nil => rfl
  | cons action actions ih =>
    cases texts with
    | nil => rfl
    | cons text texts =>
      have hown : ofGroup (some lex) gap action text start =
          ofGroup (some lex) gap' action text start := by
        cases action with
        | token kind => rfl
        | «using» state => rfl
        | skip => exact absurd List.mem_cons_self hskip
      rw [List.zip_cons_cons, rowTokens, rowTokens, hown,
        ih fun h => hskip (List.mem_cons_of_mem _ h)]

end Emission

/-! ## 3. Rules of a table -/

/-- A state that has rules is a state of the table. -/
theorem Table.state_mem_of_mem_rules {t : Table} {id : StateId} {r : TableRule}
    (h : r ∈ (t.state id).rules) : t.state id ∈ t.states := by
  unfold state at h ⊢
  cases hs : t.states[id]? with
  | none =>
    rw [hs] at h
    cases h
  | some s => exact List.mem_of_getElem? hs

theorem TableRule.pattern_match? {r : TableRule} {before : Option Char} {rest : List Char}
    {m : Match} (h : r.match? before rest = some m) : r.pattern.match? before rest = some m :=
  (Option.filter_eq_some_iff.mp h).1

/-- A rule that takes no empty text matches just where its pattern can take something. -/
theorem TableRule.match?_eq_none_iff {r : TableRule} (hempty : r.pattern.mayBeEmpty = false)
    {before : Option Char} {rest : List Char} : r.match? before rest = none ↔
      ∀ taken after, rest = taken ++ after → ¬ r.pattern.Takes before taken after := by
  rw [← Pattern.match?_eq_none_iff, TableRule.match?, Option.filter_eq_none_iff]
  refine ⟨fun h => Option.eq_none_iff_forall_ne_some.mpr fun m hm => h m hm ?_, fun h m hm => ?_⟩
  · refine decide_eq_true (Nat.pos_of_ne_zero fun hzero => ?_)
    have htakes := Pattern.takes_of_match? hm
    rw [hzero, List.take_zero] at htakes
    exact Bool.eq_false_iff.mp hempty htakes.mayBeEmpty
  · cases h.symm.trans hm

/-- An event with a rule is the first match of the rules of the state on top. -/
theorem Table.firstMatch?_of_event {t : Table} {c : Cursor} {r : TableRule} {m : Match}
    (h : t.event c = .rule r m) :
    firstMatch? (t.state c.stack.top).rules c.before c.rest = some (r, m) := by
  unfold Table.event at h
  dsimp only at h
  split at h
  · rename_i hm
    cases h
    exact hm
  · split at h
    · split at h <;> cases h
    · cases h

/-- The first rule that matches fires. -/
theorem Table.event_of_firstMatch? {t : Table} {c : Cursor} {r : TableRule} {m : Match}
    (h : firstMatch? (t.state c.stack.top).rules c.before c.rest = some (r, m)) :
    t.event c = .rule r m := by
  unfold Table.event
  dsimp only
  rw [h]

/-- An event with a rule is a match of a rule of the state on top. -/
theorem Table.match?_of_event {t : Table} {c : Cursor} {r : TableRule} {m : Match}
    (h : t.event c = .rule r m) :
    r ∈ (t.state c.stack.top).rules ∧ r.match? c.before c.rest = some m :=
  firstMatch?_eq_some (firstMatch?_of_event h)

/-- No rule that stands before the first match matches. -/
theorem match?_eq_none_of_firstMatch? {earlier others : List TableRule} {before : Option Char}
    {rest : List Char} {r : TableRule} {m : Match}
    (h : firstMatch? (earlier ++ others) before rest = some (r, m)) (hr : r ∉ earlier) :
    ∀ r' ∈ earlier, r'.match? before rest = none := by
  intro r' hr'
  rw [firstMatch?, List.findSome?_append, Option.or_eq_some_iff] at h
  rcases h with hfirst | ⟨hnone, -⟩
  · exact absurd (firstMatch?_eq_some hfirst).1 hr
  · exact Option.map_eq_none_iff.mp (List.findSome?_eq_none_iff.mp hnone r' hr')

end Highlighter
