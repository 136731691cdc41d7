/-
# The lexer over byte offsets never fails and always ends

A machine over byte offsets represents a stream if it is at the same place of its text, with the
same states and the same tokens waiting (`Represents`).  From then on both do the same, as long as
the states on the stack are states of the table:

* one step of a machine succeeds and represents one step of the stream (`step_represents`);
* a call of a machine ends, with what the call of the stream gives (`next_represents`), as the steps
  of the stream are well-founded;
* so all calls do (`collect_eq`), by induction on the lexers that may still be nested.
-/
import Highlighter.Proofs.Bytewise.Text
import Highlighter.Proofs.Grammar.Compile
import Highlighter.Proofs.Lexer.Lossless
import Highlighter.Proofs.Lexer.Stacks
import Highlighter.Proofs.Regex.Paths

namespace Highlighter

namespace Bytewise

/-! ## 1. Transitions -/

theorem Context.current_eq {c : Context} {s : Stack} (h : c.stack = s.bottomUp) :
    c.current = pure s.top := by
  unfold Context.current
  rw [h, s.getLast?_bottomUp]

/-- **A transition never fails on a stack.** -/
theorem Context.apply_eq {c : Context} {s : Stack} (h : c.stack = s.bottomUp)
    (f : Transition StateId) : c.apply f = pure { c with stack := (s.apply f).bottomUp } := by
  cases f with
  | push states => rw [Context.apply, Stack.apply, s.bottomUp_foldl_push, h]
  | pushCurrent =>
    rw [Context.apply, Context.current_eq h, Stack.apply, s.bottomUp_push, h]
    rfl
  | pop count => rw [Context.apply, Stack.apply, s.bottomUp_pop, h, s.length_bottomUp]
  | replace state =>
    rw [Context.apply, Stack.apply, s.bottomUp_replace, h, if_neg s.bottomUp_ne_nil]

theorem Context.applyOptional_eq {c : Context} {s : Stack} (h : c.stack = s.bottomUp)
    (f : Option (Transition StateId)) :
    c.applyOptional f = pure { c with stack := (s.applyOptional f).bottomUp } := by
  cases f with
  | none =>
    rw [Context.applyOptional, Stack.applyOptional, ← h]
  | some f => exact Context.apply_eq h f

/-! ## 2. Matches -/

section Matches

variable {before rest : List Char} {pos : Nat}

/-- **The match of a rule, in bytes.** -/
theorem matchAt_eq (hpos : byteLength before = pos) (r : TableRule) :
    matchAt (before ++ rest) pos r =
      pure ((r.match? before.getLast? rest).map (Hit.ofMatch pos rest)) := by
  subst hpos
  unfold matchAt TableRule.match?
  rw [split?_append]
  dsimp only
  cases hm : r.pattern.match? before.getLast? rest with
  | none => rfl
  | some m =>
    have hlen := Pattern.length_le_of_match? hm
    have hiff : (byteLength before < (Hit.ofMatch (byteLength before) rest m).stop) ↔
        0 < m.length := by
      have h0 : byteLength (rest.take m.length) ≤ byteLength (rest.take 0) ↔ m.length ≤ 0 :=
        byteLength_take_le_iff hlen (Nat.zero_le _)
      simp only [List.take_zero, byteLength_nil] at h0
      simp only [Hit.ofMatch]
      omega
    by_cases h : 0 < m.length
    · simp [Option.filter, hiff.mpr h, h]
    · simp [Option.filter, mt hiff.mp h, h]

theorem firstHit_eq (hpos : byteLength before = pos) (rules : List TableRule) :
    firstHit (before ++ rest) pos rules =
      pure ((firstMatch? rules before.getLast? rest).map fun (r, m) =>
        (r, Hit.ofMatch pos rest m)) := by
  induction rules with
  | nil => rfl
  | cons r rules ih =>
    rw [firstHit, matchAt_eq hpos, pure_bind, firstMatch?, List.findSome?_cons]
    cases hm : r.match? before.getLast? rest with
    | none => exact ih
    | some m => rfl

end Matches

/-! ## 3. Groups -/

/-- A hit is a match of the text `matched`, which begins at a byte offset. -/
structure Hit.Describes (hit : Hit) (pos : Nat) (matched : List Char) (m : Match) : Prop where
  stop : hit.stop = pos + byteLength matched
  spans : ∀ group, hit.spans group = (m.span? group).map fun (first, last) =>
    (pos + byteLength (matched.take first), pos + byteLength (matched.take last))
  bounds : ∀ group first last, m.span? group = some (first, last) →
    first ≤ last ∧ last ≤ matched.length

theorem Hit.describes_ofMatch {p : Pattern} {before : Option Char} {rest : List Char} {m : Match}
    (h : p.match? before rest = some m) (pos : Nat) :
    (Hit.ofMatch pos rest m).Describes pos (rest.take m.length) m := by
  have hlen := Pattern.length_le_of_match? h
  refine ⟨rfl, fun group => ?_, fun group first last hs => ?_⟩
  · refine Option.map_congr fun span hspan => ?_
    obtain ⟨hle, hlast⟩ := Pattern.span?_bounds h hspan
    simp only [List.take_take, Nat.min_eq_left hlast, Nat.min_eq_left (Nat.le_trans hle hlast)]
  · obtain ⟨hle, hlast⟩ := Pattern.span?_bounds h hs
    rw [List.length_take]
    omega

theorem Hit.handled?_eq_filter (hit : Hit) (cursor index : Nat) {action : GroupAction StateId}
    (h : action ≠ .skip) :
    hit.handled? cursor index action =
      (hit.spans (index + 1)).filter fun span =>
        decide (cursor ≤ span.1 ∧ span.1 < span.2) := by
  have hiff : ∀ start stop : Nat,
      (stop ≤ start ∨ start < cursor) ↔ ¬ (cursor ≤ start ∧ start < stop) := by omega
  unfold Hit.handled?
  cases hspan : hit.spans (index + 1) with
  | none => cases action <;> rfl
  | some span =>
    cases action with
    | skip => exact absurd rfl h
    | token kind => simp only [hiff, Option.filter_some, decide_eq_true_eq, ite_not]
    | «using» state => simp only [hiff, Option.filter_some, decide_eq_true_eq, ite_not]

theorem Hit.handled?_eq_some_iff {hit : Hit} {cursor index start stop : Nat}
    {action : GroupAction StateId} :
    hit.handled? cursor index action = some (start, stop) ↔
      action ≠ .skip ∧ hit.spans (index + 1) = some (start, stop) ∧ cursor ≤ start ∧
        start < stop := by
  by_cases hskip : action = .skip
  · subst hskip
    simp [Hit.handled?]
  · rw [Hit.handled?_eq_filter _ _ _ hskip, Option.filter_eq_some_iff, decide_eq_true_eq]
    exact (and_iff_right hskip).symm

/-- **Both lexers handle the same groups**, as byte offsets are ordered like numbers of
characters. -/
theorem Hit.handled?_eq {hit : Hit} {pos : Nat} {matched : List Char} {m : Match}
    (h : hit.Describes pos matched m) {done : Nat} (hdone : done ≤ matched.length) (index : Nat)
    (action : GroupAction StateId) :
    hit.handled? (pos + byteLength (matched.take done)) index action =
      (Emission.handled? done (action, m.span? (index + 1))).map fun (first, last) =>
        (pos + byteLength (matched.take first), pos + byteLength (matched.take last)) := by
  by_cases hskip : action = .skip
  · subst hskip
    rfl
  rw [Hit.handled?_eq_filter _ _ _ hskip, Emission.handled?_eq_filter _ hskip, h.spans]
  cases hspan : m.span? (index + 1) with
  | none => rfl
  | some span =>
    obtain ⟨first, last⟩ := span
    obtain ⟨hle, hlast⟩ := h.bounds _ _ _ hspan
    have hfirst := Nat.le_trans hle hlast
    have hbefore := byteLength_take_le_iff hdone hfirst
    have htook := byteLength_take_le_iff hlast hfirst
    have hiff : (pos + byteLength (matched.take done) ≤ pos + byteLength (matched.take first) ∧
        pos + byteLength (matched.take first) < pos + byteLength (matched.take last)) ↔
        (done ≤ first ∧ first < last) := by omega
    simp only [Option.map_some, Option.filter_some, hiff]
    split <;> rfl

/-- Group texts are lexed by machines, at some depth, as a lexer for group texts does it. -/
def SubLexesTo (t : Table) (depth : Nat) (sub : Option SubLexer) : Prop :=
  ∀ (m : Machine) (gap : Kind) (state : StateId) (before piece after : List Char),
    m.depth = depth → m.text = before ++ piece ++ after → state < t.states.length →
      subLex t gap m state (byteLength before) (byteLength before + byteLength piece) =
        pure (m.add (Emission.ofGroup sub gap (.using state) piece (m.base + byteLength before)))

/-- The characters of a text between two counts, and what is before and after them. -/
theorem append_take_drop (before matched after : List Char) {i j : Nat} (h : i ≤ j) :
    before ++ matched ++ after =
      (before ++ matched.take i) ++ (matched.drop i).take (j - i) ++ (matched.drop j ++ after) := by
  have hi : matched = matched.take i ++ matched.drop i := (List.take_append_drop _ _).symm
  have hj : matched.drop i = (matched.drop i).take (j - i) ++ matched.drop j := by
    rw [← Nat.add_sub_cancel' h, ← List.drop_drop, Nat.add_sub_cancel', List.take_append_drop]
    omega
  calc before ++ matched ++ after
      = before ++ (matched.take i ++ ((matched.drop i).take (j - i) ++ matched.drop j)) ++
          after := by rw [← hj, ← hi]
    _ = _ := by simp only [List.append_assoc]

theorem byteLength_take_of_le (text : List Char) {i j : Nat} (h : i ≤ j) :
    byteLength (text.take j) =
      byteLength (text.take i) + byteLength ((text.drop i).take (j - i)) := by
  rw [← byteLength_append, ← List.take_add, Nat.add_sub_cancel' h]

section Groups

variable {t : Table} {depth : Nat} {sub : Option SubLexer} (hsub : SubLexesTo t depth sub)
variable {before matched after : List Char} {pos : Nat} {hit : Hit} {m : Match} {mc : Machine}

include hsub

theorem emitGroup_eq (hdepth : mc.depth = depth) {piece : List Char}
    (htext : mc.text = before ++ piece ++ after) (gap : Kind) {action : GroupAction StateId}
    (haction : action ≠ .skip) (hid : ∀ id, action.target? = some id → id < t.states.length)
    {start stop : Nat} (hstart : start = byteLength before)
    (hstop : stop = start + byteLength piece) :
    emitGroup t gap mc start stop action =
      pure (mc.add (Emission.ofGroup sub gap action piece (mc.base + start))) := by
  subst hstart hstop
  cases action with
  | token kind =>
    rw [emitGroup]
    exact emit_append htext kind rfl rfl
  | «using» state =>
    rw [emitGroup]
    exact hsub mc gap state before piece after hdepth htext (hid state rfl)
  | skip => exact absurd rfl haction

/-- **The groups of a match give the same tokens.**  The invariant: both lexers have dealt with
the first `done` characters of the match. -/
theorem emitGroups_eq (hhit : hit.Describes pos matched m) (hpos : byteLength before = pos)
    (gap : Kind) (actions : List (GroupAction StateId))
    (hids : ∀ a ∈ actions, ∀ id, a.target? = some id → id < t.states.length)
    (hdepth : mc.depth = depth) (htext : mc.text = before ++ matched ++ after)
    {done : Nat} (hdone : done ≤ matched.length) (index : Nat) :
    emitGroups t gap hit mc (pos + byteLength (matched.take done)) index actions =
      pure (mc.add (Emission.groupTokens sub gap done
        (mc.base + (pos + byteLength (matched.take done))) (matched.drop done)
        ((actions.zipIdx index).map fun (a, i) => (a, m.span? (i + 1))))) := by
  induction actions generalizing mc done index with
  | nil =>
    have hsplit : before ++ matched ++ after =
        (before ++ matched.take done) ++ matched.drop done ++ after := by
      rw [List.append_assoc before (matched.take done), List.take_append_drop]
    rw [emitGroups]
    refine emit_append (htext.trans hsplit) gap (by rw [byteLength_append, hpos]) ?_
    rw [hhit.stop, Nat.add_assoc, byteLength_take_add_drop]
  | cons action actions ih =>
    have hids' := fun a ha => hids a (List.mem_cons_of_mem action ha)
    rw [emitGroups, Hit.handled?_eq hhit hdone, List.zipIdx_cons, List.map_cons,
      Emission.groupTokens]
    cases hh : Emission.handled? done (action, m.span? (index + 1)) with
    | none => exact ih hids' hdepth htext hdone (index + 1)
    | some span =>
      obtain ⟨first, last⟩ := span
      obtain ⟨hskip, hspan, hfirst, hlast⟩ := Emission.handled?_eq_some_iff.mp hh
      obtain ⟨-, hlen⟩ := hhit.bounds _ _ _ hspan
      have hbetween := byteLength_take_of_le matched hfirst
      have hgroup := byteLength_take_of_le matched (Nat.le_of_lt hlast)
      -- The text between the groups, then the group itself, then the groups after it.
      have hgap : mc.emit gap (pos + byteLength (matched.take done))
          (pos + byteLength (matched.take first)) =
          pure (mc.add (Emission.piece gap ((matched.drop done).take (first - done))
            (mc.base + (pos + byteLength (matched.take done))))) :=
        emit_append (htext.trans (append_take_drop before matched after hfirst)) gap
          (by rw [byteLength_append, hpos]) (by rw [hbetween, Nat.add_assoc])
      dsimp only [Option.map_some]
      rw [hgap, pure_bind]
      generalize Emission.piece gap _ _ = gapTokens
      have hdepth' : (mc.add gapTokens).depth = depth := hdepth
      have hown : emitGroup t gap (mc.add gapTokens) (pos + byteLength (matched.take first))
          (pos + byteLength (matched.take last)) action =
          pure ((mc.add gapTokens).add (Emission.ofGroup sub gap action
            ((matched.drop first).take (last - first))
            (mc.base + (pos + byteLength (matched.take first))))) :=
        emitGroup_eq hsub hdepth'
          (htext.trans (append_take_drop before matched after (Nat.le_of_lt hlast))) gap hskip
          (hids action List.mem_cons_self) (by rw [byteLength_append, hpos])
          (by rw [hgroup, Nat.add_assoc])
      rw [hown, pure_bind]
      have hdrop : (matched.drop done).drop (first - done) = matched.drop first := by
        rw [List.drop_drop, Nat.add_sub_cancel' hfirst]
      have hleft : (matched.drop done).drop (last - done) = matched.drop last := by
        rw [List.drop_drop, Nat.add_sub_cancel' (by omega)]
      have hstart : mc.base + (pos + byteLength (matched.take done)) +
          byteLength ((matched.drop done).take (first - done)) =
          mc.base + (pos + byteLength (matched.take first)) := by
        rw [hbetween]
        omega
      have hstop : mc.base + (pos + byteLength (matched.take first)) +
          byteLength ((matched.drop first).take (last - first)) =
          mc.base + (pos + byteLength (matched.take last)) := by
        rw [hgroup]
        omega
      rw [hdrop, hleft, hstart, hstop, List.append_assoc, ← Machine.add_add, ← Machine.add_add]
      refine ih hids' ?_ ?_ hlen (index + 1)
      · exact hdepth
      · exact htext

/-- The tokens of a match. -/
theorem emitMatch_eq {rest : List Char} (hhit : hit.Describes pos matched m)
    (hpos : byteLength before = pos) {action : Action StateId}
    (hids : ∀ id ∈ action.targets, id < t.states.length) (hdepth : mc.depth = depth)
    (htext : mc.text = before ++ matched ++ rest) :
    emitMatch t hit mc pos action =
      pure (mc.add (Emission.tokens sub action m matched (mc.base + pos))) := by
  cases action with
  | token kind =>
    rw [emitMatch]
    exact emit_append htext kind hpos.symm hhit.stop
  | groups actions gap =>
    have h := emitGroups_eq hsub hhit hpos gap actions
      (fun a ha id hid => hids id (List.mem_filterMap.mpr ⟨a, ha, hid⟩)) hdepth htext
      (Nat.zero_le _) 0
    rw [emitMatch]
    simpa [Emission.tokens, Emission.assign] using h

end Groups

/-! ## 4. One step -/

/-- The context of a lexer is where the cursor is, in a table of `bound` states. -/
structure Context.Represents (text : List Char) (base bound : Nat) (x : Context) (c : Cursor) :
    Prop where
  place : ∃ before, text = before ++ c.rest ∧ byteLength before = x.pos ∧
    before.getLast? = c.before
  offset : c.offset = base + x.pos
  stack : x.stack = c.stack.bottomUp
  within : c.stack.Within bound
  spent : c.spent = decide (x.fallbackAt = some x.pos)
  /-- No fallback was applied beyond the cursor. -/
  behind : ∀ p, x.fallbackAt = some p → p ≤ x.pos

/-- A machine at some depth is where the stream is, with the same tokens waiting. -/
structure Represents (t : Table) (depth : Nat) (mc : Machine) (s : Stream) : Prop where
  depth_eq : mc.depth = depth
  context : mc.context.Represents mc.text mc.base t.states.length s.cursor
  pending : mc.pending = s.pending

theorem Context.represents_start (text : List Char) (base : Nat) {state : StateId} {bound : Nat}
    (h : state < bound) :
    (Context.start state).Represents text base bound (.start state text base) :=
  ⟨⟨[], rfl, rfl, rfl⟩, rfl, rfl, Stack.within_single h, rfl, fun _ hp => by cases hp⟩

/-- **Consuming keeps both together.**  What was consumed makes the earlier fallback one that does
not count at the new place. -/
theorem Context.Represents.consume {text : List Char} {base bound : Nat} {x : Context} {c : Cursor}
    (h : x.Represents text base bound c) {count : Nat} (hcount : 0 < count) (hr : c.rest ≠ [])
    {stack : Stack} (hstack : stack.Within bound) :
    Context.Represents text base bound
      { x with stack := stack.bottomUp, pos := x.pos + byteLength (c.rest.take count) }
      { c.consume count with stack } := by
  obtain ⟨before, htext, hpos, hbefore⟩ := h.place
  have hlt : 0 < byteLength (c.rest.take count) := by
    refine Nat.pos_of_ne_zero fun h0 => ?_
    rw [byteLength_eq_zero_iff, List.take_eq_nil_iff] at h0
    rcases h0 with h0 | h0
    · omega
    · exact hr h0
  refine ⟨⟨before ++ c.rest.take count, ?_, ?_, ?_⟩, ?_, rfl, hstack, ?_, fun p hp => ?_⟩
  · rw [List.append_assoc, Cursor.consume, List.take_append_drop, htext]
  · rw [byteLength_append, hpos]
  · rw [List.getLast?_append, hbefore]
    exact Option.or_eq_orElse
  · rw [Cursor.consume, h.offset, Nat.add_assoc]
  · refine (decide_eq_false fun hp => ?_).symm
    have := h.behind _ hp
    dsimp only at this
    omega
  · have := h.behind p hp
    dsimp only
    omega

/-- A fallback that is applied consumes nothing. -/
theorem Context.Represents.fallback {text : List Char} {base bound : Nat} {x : Context} {c : Cursor}
    (h : x.Represents text base bound c) {stack : Stack} (hstack : stack.Within bound) :
    Context.Represents text base bound { x with stack := stack.bottomUp } { c with stack } ∧
      Context.Represents text base bound
        { x with fallbackAt := some x.pos, stack := stack.bottomUp }
        { c with stack, spent := true } := by
  refine ⟨⟨h.place, h.offset, rfl, hstack, h.spent, h.behind⟩,
    ⟨h.place, h.offset, rfl, hstack, (decide_eq_true rfl).symm, fun p hp => ?_⟩⟩
  exact Nat.le_of_eq (Option.some.inj hp).symm

/-- The two ways to say that a fallback takes states from the stack differ just for one that pops
nothing. -/
theorem shrinks_bottomUp (s : Stack) {f : Transition StateId} (hf : f ≠ .pop 0) :
    shrinks s.bottomUp f = s.shrinksBy f := by
  cases f with
  | pop count =>
    have hcount : 0 < count := Nat.pos_of_ne_zero fun h => hf (congrArg _ h)
    simp [shrinks, Stack.shrinksBy, s.length_bottomUp, hcount]
  | push states => rfl
  | pushCurrent => rfl
  | replace state => rfl

theorem stateAt_eq {t : Table} {id : StateId} (h : id < t.states.length) :
    stateAt t id = pure (t.state id) ∧ t.state id ∈ t.states := by
  have hid : t.states[id]? = some t.states[id] := List.getElem?_eq_getElem h
  have hstate : t.state id = t.states[id] := by
    rw [Table.state, hid, Option.getD_some]
  refine ⟨?_, hstate ▸ List.getElem_mem h⟩
  rw [stateAt, hid, hstate]

theorem emitError_eq {mc : Machine} {before rest : List Char} (htext : mc.text = before ++ rest)
    (hpos : byteLength before = mc.context.pos) (hr : rest ≠ []) :
    mc.emitError =
      pure { mc.add (Emission.piece .error (rest.take 1) (mc.base + mc.context.pos)) with
        context := { mc.context with pos := mc.context.pos + byteLength (rest.take 1) } } := by
  obtain ⟨c, rest, rfl⟩ := List.exists_cons_of_ne_nil hr
  have hslice : slice mc.text mc.context.pos (byteLength mc.text) = pure (c :: rest) := by
    rw [htext, ← hpos, slice_to_end]
  have hemit : mc.emit .error mc.context.pos (mc.context.pos + byteLength [c]) =
      pure (mc.add (Emission.piece .error [c] (mc.base + mc.context.pos))) :=
    emit_append (htext.trans (by rw [List.append_assoc, List.singleton_append])) _ hpos.symm rfl
  unfold Machine.emitError
  simp only [hslice, pure_bind, List.head?_cons, Option.map_some, Option.getD_some]
  rw [byteLength_cons, byteLength_nil, Nat.add_zero] at hemit
  rw [hemit]
  rfl

section Step

variable {t : Table} {depth : Nat} {sub : Option SubLexer} {mc : Machine} {s : Stream}

/-- What is done where no rule matches, on both sides. -/
theorem fallBack_represents (h : Represents t depth mc s) (hr : s.cursor.rest ≠ [])
    {f? : Option (Transition StateId)} {e : Event} (he : e = match f? with
      | some f => if s.cursor.stack.shrinksBy f || !s.cursor.spent then .fallback f else .error
      | none => .error)
    (hf : ∀ f, f? = some f → t.ClosedTransition f) :
    ∃ mc', mc.fallBack f? = pure mc' ∧
      Represents t depth mc' ⟨s.cursor.after e, s.pending ++ s.cursor.emitted sub e⟩ := by
  obtain ⟨before, htext, hpos, -⟩ := h.context.place
  have herror : ∃ mc', mc.emitError = pure mc' ∧
      Represents t depth mc' ⟨s.cursor.after .error, s.pending ++ s.cursor.emitted sub .error⟩ := by
    refine ⟨_, emitError_eq htext hpos hr, h.depth_eq, ?_, ?_⟩
    · have := h.context.consume Nat.zero_lt_one hr h.context.within
      rwa [← h.context.stack] at this
    · rw [Cursor.emitted, h.context.offset, ← h.pending]
      rfl
  cases f? with
  | none =>
    subst he
    exact herror
  | some f =>
    have hfc := hf f rfl
    have hshrinks : shrinks mc.context.stack f = s.cursor.stack.shrinksBy f := by
      rw [h.context.stack, shrinks_bottomUp _ hfc.pops]
    obtain ⟨hkeep, hspend⟩ := h.context.fallback (h.context.within.apply hfc.targets)
    have hpending : mc.pending = s.pending ++ [] := by rw [h.pending, List.append_nil]
    unfold Machine.fallBack
    dsimp only at he ⊢
    rw [hshrinks]
    by_cases hsh : s.cursor.stack.shrinksBy f = true
    · rw [hsh, Bool.true_or, if_pos rfl] at he
      subst he
      refine ⟨{ mc with context := { mc.context with
        stack := (s.cursor.stack.apply f).bottomUp } }, ?_, h.depth_eq, ?_, hpending⟩
      · rw [if_pos hsh, Context.apply_eq h.context.stack]
        rfl
      · simpa only [Cursor.after, hsh, Bool.not_true, Bool.or_false] using hkeep
    · rw [Bool.not_eq_true] at hsh
      rw [hsh, Bool.false_or, h.context.spent] at he
      rw [hsh, if_neg Bool.false_ne_true]
      by_cases hat : mc.context.fallbackAt = some mc.context.pos
      · rw [decide_eq_true hat, Bool.not_true, if_neg Bool.false_ne_true] at he
        subst he
        rw [if_neg (fun hne => hne hat)]
        exact herror
      · rw [decide_eq_false hat, Bool.not_false, if_pos rfl] at he
        subst he
        refine ⟨{ mc with context := { mc.context with
          fallbackAt := some mc.context.pos
          stack := (s.cursor.stack.apply f).bottomUp } }, ?_, h.depth_eq, ?_, hpending⟩
        · have hstack : ({ mc.context with fallbackAt := some mc.context.pos } : Context).stack =
              s.cursor.stack.bottomUp := h.context.stack
          rw [if_pos hat, Context.apply_eq hstack]
          rfl
        · simpa only [Cursor.after, hsh, Bool.not_false, Bool.or_true] using hspend

/-- **One step of the machine succeeds, and it is one step of the stream.** -/
theorem step_represents (ht : t.Closed) (hsub : SubLexesTo t depth sub)
    (h : Represents t depth mc s) (hr : s.cursor.rest ≠ []) :
    ∃ mc', step t mc = pure mc' ∧ Represents t depth mc' (s.step t sub) := by
  obtain ⟨before, htext, hpos, hbefore⟩ := h.context.place
  have htop : s.cursor.stack.top < t.states.length := h.context.within _ List.mem_cons_self
  obtain ⟨hstate, hmem⟩ := stateAt_eq htop
  have hfirst : firstHit mc.text mc.context.pos (t.state s.cursor.stack.top).rules =
      pure ((firstMatch? (t.state s.cursor.stack.top).rules s.cursor.before s.cursor.rest).map
        fun (r, m) => (r, Hit.ofMatch mc.context.pos s.cursor.rest m)) := by
    rw [htext, ← hbefore]
    exact firstHit_eq hpos _
  rw [step, Context.current_eq h.context.stack]
  simp only [pure_bind, hstate, hfirst]
  unfold Stream.step Table.event
  dsimp only
  cases hm : firstMatch? (t.state s.cursor.stack.top).rules s.cursor.before s.cursor.rest with
  | none => exact fallBack_represents h hr rfl (ht.fallbacks _ hmem)
  | some found =>
    obtain ⟨r, m⟩ := found
    obtain ⟨hrule, hmatch⟩ := firstMatch?_eq_some hm
    obtain ⟨hp, hlen⟩ := Option.filter_eq_some_iff.mp hmatch
    have hsplit : mc.text =
        before ++ s.cursor.rest.take m.length ++ s.cursor.rest.drop m.length := by
      rw [List.append_assoc, List.take_append_drop, htext]
    have htokens := emitMatch_eq hsub (Hit.describes_ofMatch hp mc.context.pos) hpos
      (ht.actions _ hmem r hrule) h.depth_eq hsplit
    rw [Option.map_some]
    dsimp only
    rw [htokens, pure_bind]
    have hcontext : (mc.add (Emission.tokens sub r.action m (s.cursor.rest.take m.length)
        (mc.base + mc.context.pos))).context.applyOptional r.transition = _ :=
      Context.applyOptional_eq h.context.stack r.transition
    rw [hcontext]
    have hwithin := h.context.within.applyOptional (ht.transitions _ hmem r hrule · · |>.targets)
    refine ⟨_, rfl, h.depth_eq, h.context.consume (of_decide_eq_true hlen) hr hwithin, ?_⟩
    rw [Cursor.emitted, h.context.offset, ← h.pending]
    rfl

/-- The text ends where the rest does. -/
theorem Represents.byteLength_text (h : Represents t depth mc s) :
    byteLength mc.text = mc.context.pos + byteLength s.cursor.rest := by
  obtain ⟨before, htext, hpos, -⟩ := h.context.place
  rw [htext, byteLength_append, hpos]

theorem Represents.end_iff (h : Represents t depth mc s) :
    byteLength mc.text ≤ mc.context.pos ↔ s.cursor.rest = [] := by
  rw [h.byteLength_text, ← byteLength_eq_zero_iff]
  omega

end Step

/-! ## 5. Calls -/

section Calls

variable {t : Table} {depth : Nat} {sub : Option SubLexer}
variable (ht : t.Closed) (hsub : SubLexesTo t depth sub)

include ht hsub

/-- **The loop of a call ends**, as the steps of the stream are well-founded. -/
theorem settle_represents {s : Stream} {mc : Machine} (h : Represents t depth mc s) :
    ∃ steps mc', Reaches t mc steps [] mc' ∧ next t mc = next t mc' ∧
      Represents t depth mc' (s.settle t sub) := by
  fun_induction Stream.settle t sub s generalizing mc with
  | case1 s hs ih =>
    obtain ⟨hp, hr⟩ := hs
    have hpm : mc.pending = [] := h.pending.trans hp
    have hrm : mc.context.pos < byteLength mc.text := Nat.lt_of_not_le (mt h.end_iff.mp hr)
    obtain ⟨m₁, hstep, h₁⟩ := step_represents ht hsub h hr
    obtain ⟨n, m₂, hreach, hnext, h₂⟩ := ih h₁
    refine ⟨1 + n, m₂, (Reaches.step .start hpm hrm hstep).trans hreach, ?_, h₂⟩
    rw [next, hpm]
    dsimp only
    rw [if_neg (Nat.not_le_of_lt hrm), hstep, pure_bind, hnext]
  | case2 s hs => exact ⟨0, mc, .start, rfl, h⟩

/-- **A call returns, with what the call of the stream gives.** -/
theorem next_represents {s : Stream} {mc : Machine} (h : Represents t depth mc s) :
    ∃ steps mc', next t mc = pure ((s.next? t sub).map (·.1), mc') ∧
      Reaches t mc steps ((s.next? t sub).map (·.1)).toList mc' ∧
      ∀ token s', s.next? t sub = some (token, s') → Represents t depth mc' s' := by
  obtain ⟨n, m, hreach, hnext, hm⟩ := settle_represents ht hsub h
  rw [hnext]
  unfold Stream.next?
  dsimp only
  cases hp : (s.settle t sub).pending with
  | nil =>
    have hpm : m.pending = [] := hm.pending.trans hp
    have hend : byteLength m.text ≤ m.context.pos :=
      hm.end_iff.mpr (Stream.rest_settle_eq_nil hp)
    refine ⟨n, m, ?_, hreach, fun _ _ hn => by cases hn⟩
    rw [next, hpm]
    dsimp only
    rw [if_pos hend]
    rfl
  | cons token pending =>
    have hpm : m.pending = token :: pending := hm.pending.trans hp
    refine ⟨n, { m with pending }, ?_, .give hreach hpm, fun token' s' hn => ?_⟩
    · rw [next, hpm]
      rfl
    · obtain ⟨rfl, rfl⟩ := Prod.mk.inj (Option.some.inj hn)
      exact ⟨hm.depth_eq, hm.context, rfl⟩

/-- All calls together give the tokens that are left. -/
theorem collect_eq {s : Stream} {mc : Machine} (h : Represents t depth mc s) :
    collect t mc = pure (s.tokens t sub) := by
  fun_induction Stream.run t sub s generalizing mc with
  | case1 s hn =>
    obtain ⟨-, m, hnext, -, -⟩ := next_represents ht hsub h
    rw [collect, hnext, hn, Stream.tokens_of_next?_eq_none t sub hn]
    rfl
  | case2 s token s' hn ih =>
    obtain ⟨-, m, hnext, -, hm⟩ := next_represents ht hsub h
    rw [collect, hnext, hn, Stream.tokens_of_next?_eq_some t sub hn]
    simp only [Option.map_some, pure_bind, ih (hm _ _ hn)]

end Calls

/-! ## 6. Lexers inside of lexers -/

variable {t : Table} {depth : Nat}

theorem represents_start {state : StateId} (h : state < t.states.length) (text : List Char)
    (base : Nat) :
    Represents t depth (.start state text base depth) (.start state text base) :=
  ⟨rfl, Context.represents_start text base h, rfl⟩

/-- **Group texts are lexed alike at every depth.**  The induction is on the lexers that may still
be nested; the innermost ones lex no group texts on their own. -/
theorem subLexesTo_subLexer (ht : t.Closed) {levels : Nat} (h : depth + levels = maxSubLexDepth) :
    SubLexesTo t depth (t.subLexer levels) := by
  induction levels generalizing depth with
  | zero =>
    intro m gap state before piece after hdepth htext _
    rw [subLex, if_pos (by omega)]
    exact emit_append htext gap rfl rfl
  | succ levels ih =>
    intro m gap state before piece after hdepth htext hstate
    have hlevels : m.depth + 1 + levels = maxSubLexDepth := by omega
    have hinner := collect_eq ht (ih hlevels)
      (represents_start hstate piece (m.base + byteLength before))
    rw [subLex, if_neg (by omega), htext, slice_append, pure_bind, hinner, pure_bind]
    rfl

end Bytewise

end Highlighter
