/-
# Lexing the same text somewhere else

The text of a group is lexed at its own offset, by a lexer that may nest fewer lexers than one for a
whole input.  `Table.NestsWithin` says that lexing a text nests no deeper than so many levels.  If so
many levels are left, **the text gives the same tokens anywhere, each moved by the offset**
(`tokens_shift_of_nestsWithin`).

The offset is only written down: no event depends on it (`Cursor.after_shift`), so two streams that
differ in it and in how they lex groups go the same way, as long as both lex the groups that they
meet alike (`Stream.tokens_shift`).  That they do is an induction on the levels.
-/
import Highlighter.Lexer.Stream

namespace Highlighter

/-! ## 1. Moving tokens and streams -/

/-- The token, so many bytes further on. -/
def Token.shift (bytes : Nat) (token : Token) : Token := { token with start := token.start + bytes }

/-- The same place in a text that lies further on. -/
def Cursor.shift (bytes : Nat) (c : Cursor) : Cursor := { c with offset := c.offset + bytes }

/-- The stream with its text further on. -/
def Stream.shift (bytes : Nat) (s : Stream) : Stream :=
  ⟨s.cursor.shift bytes, s.pending.map (Token.shift bytes)⟩

/-! ## 2. What is lexed on its own -/

namespace Emission

/-- The texts among groups that are handed to lexers of their own, each with the state that its
lexer begins in. -/
def nestedIn : (done : Nat) → (left : List Char) →
    List (GroupAction StateId × Option (Nat × Nat)) → List (StateId × List Char)
  | _, _, [] => []
  | done, left, group :: groups =>
    match handled? done group with
    | none => nestedIn done left groups
    | some (first, last) =>
      let text := (left.drop (first - done)).take (last - first)
      let others := nestedIn last (left.drop (last - done)) groups
      match group.1 with
      | .using state => (state, text) :: others
      | _ => others

/-- The texts of a match that are handed to lexers of their own. -/
def nested (action : Action StateId) (m : Match) (matched : List Char) :
    List (StateId × List Char) :=
  match action with
  | .token _ => []
  | .groups actions _ => nestedIn 0 matched (assign actions m)

theorem nestedIn_eq_nil {groups : List (GroupAction StateId × Option (Nat × Nat))}
    (h : ∀ group ∈ groups, group.1.target? = none) (done : Nat) (left : List Char) :
    nestedIn done left groups = [] := by
  induction groups generalizing done left with
  | nil => rfl
  | cons group groups ih =>
    obtain ⟨hgroup, hgroups⟩ := List.forall_mem_cons.mp h
    unfold nestedIn
    split
    · exact ih hgroups _ _
    · dsimp only
      split
      · rename_i hstate
        rw [hstate] at hgroup
        cases hgroup
      · exact ih hgroups _ _

/-- An action that names no state hands nothing to lexers of their own. -/
theorem nested_eq_nil {action : Action StateId} (h : action.targets = []) (m : Match)
    (matched : List Char) : nested action m matched = [] := by
  cases action with
  | token kind => rfl
  | groups actions gap =>
    refine nestedIn_eq_nil (fun group hgroup => ?_) 0 matched
    obtain ⟨⟨action, i⟩, haction, rfl⟩ := List.mem_map.mp hgroup
    exact List.filterMap_eq_nil_iff.mp h action (List.fst_mem_of_mem_zipIdx haction)

end Emission

/-- The texts that a step hands to lexers of their own. -/
def Cursor.nested (c : Cursor) : Event → List (StateId × List Char)
  | .rule r m => Emission.nested r.action m (c.rest.take m.length)
  | .fallback _ => []
  | .error => []

namespace Table

/-- The places of the steps through a text, from a place on. -/
def walk (t : Table) (c : Cursor) : List Cursor :=
  if _h : c.rest = [] then [] else c :: t.walk (c.after (t.event c))
termination_by c.measure
decreasing_by exact Cursor.after_event_lt t _h

/-- Lexing the text on its own, beginning in the state, nests lexers no deeper than so many
levels. -/
def NestsWithin (t : Table) : (levels : Nat) → StateId → List Char → Prop
  | 0, state, text => ∀ c ∈ t.walk (.start state text), c.nested (t.event c) = []
  | levels + 1, state, text => ∀ c ∈ t.walk (.start state text), ∀ group ∈ c.nested (t.event c),
    t.NestsWithin levels group.1 group.2

/-- A text that one step consumes. -/
theorem walk_eq_singleton {t : Table} {c : Cursor} (hr : c.rest ≠ [])
    (hend : (c.after (t.event c)).rest = []) : t.walk c = [c] := by
  rw [walk, dif_neg hr, walk, dif_pos hend]

/-- The steps through a text go through its ends. -/
theorem suffix_of_mem_walk {t : Table} {c c' : Cursor} (h : c' ∈ t.walk c) :
    c'.rest <:+ c.rest := by
  fun_induction walk t c with
  | case1 c hr => cases h
  | case2 c hr ih =>
    rcases List.mem_cons.mp h with rfl | h
    · exact List.suffix_rfl
    · refine (ih h).trans ?_
      cases t.event c with
      | rule r m => exact List.drop_suffix _ _
      | fallback f => exact List.suffix_rfl
      | error => exact List.drop_suffix _ _

/-- What nests no deeper than so many levels nests no deeper than more. -/
theorem NestsWithin.mono {t : Table} {few many : Nat} {state : StateId} {text : List Char}
    (h : t.NestsWithin few state text) (hle : few ≤ many) : t.NestsWithin many state text := by
  induction few generalizing many state text with
  | zero =>
    cases many with
    | zero => exact h
    | succ many =>
      intro c hc group hgroup
      rw [h c hc] at hgroup
      cases hgroup
  | succ few ih =>
    obtain ⟨many, rfl⟩ := Nat.exists_eq_add_of_lt (Nat.lt_of_succ_le hle)
    exact fun c hc group hgroup => ih (h c hc group hgroup) (Nat.le_add_right _ _)

end Table

/-! ## 3. Group texts that are lexed alike -/

/-- The second lexer for group texts does with the text what the first does, so many bytes further
on. -/
def LexesAlike (sub sub' : Option SubLexer) (bytes : Nat) (group : StateId × List Char) : Prop :=
  ∀ gap start, Emission.ofGroup sub' gap (.using group.1) group.2 (start + bytes) =
    (Emission.ofGroup sub gap (.using group.1) group.2 start).map (Token.shift bytes)

section Alike

variable {sub sub' : Option SubLexer} {bytes : Nat}

namespace Emission

theorem piece_shift (kind : Kind) (text : List Char) (start bytes : Nat) :
    piece kind text (start + bytes) = (piece kind text start).map (Token.shift bytes) := by
  unfold piece
  split <;> rfl

theorem ofGroup_shift {gap : Kind} {action : GroupAction StateId} {text : List Char}
    (h : ∀ state, action = .using state → LexesAlike sub sub' bytes (state, text)) (start : Nat) :
    ofGroup sub' gap action text (start + bytes) =
      (ofGroup sub gap action text start).map (Token.shift bytes) := by
  cases action with
  | token kind => exact piece_shift kind text start bytes
  | «using» state => exact h state rfl gap start
  | skip => exact piece_shift gap text start bytes

/-- **The tokens of a match move with it**, if its group texts are lexed alike. -/
theorem groupTokens_shift (gap : Kind)
    {groups : List (GroupAction StateId × Option (Nat × Nat))} {done : Nat} {left : List Char}
    (h : ∀ group ∈ nestedIn done left groups, LexesAlike sub sub' bytes group) (start : Nat) :
    groupTokens sub' gap done (start + bytes) left groups =
      (groupTokens sub gap done start left groups).map (Token.shift bytes) := by
  induction groups generalizing done start left with
  | nil => exact piece_shift gap left start bytes
  | cons group groups ih =>
    unfold nestedIn at h
    unfold groupTokens
    cases hhandled : handled? done group with
    | none =>
      rw [hhandled] at h
      exact ih h start
    | some span =>
      obtain ⟨first, last⟩ := span
      rw [hhandled] at h
      dsimp only at h ⊢
      have hown : ∀ state, group.1 = .using state → LexesAlike sub sub' bytes
          (state, (left.drop (first - done)).take (last - first)) := by
        intro state hstate
        rw [hstate] at h
        exact h _ List.mem_cons_self
      have hothers : ∀ other ∈ nestedIn last (left.drop (last - done)) groups,
          LexesAlike sub sub' bytes other := by
        split at h
        · exact fun other hother => h other (List.mem_cons_of_mem _ hother)
        · exact h
      rw [Nat.add_right_comm start bytes, Nat.add_right_comm _ bytes, piece_shift,
        ofGroup_shift hown, ih hothers, List.map_append, List.map_append]

theorem tokens_shift {action : Action StateId} {m : Match} {matched : List Char}
    (h : ∀ group ∈ nested action m matched, LexesAlike sub sub' bytes group) (start : Nat) :
    tokens sub' action m matched (start + bytes) =
      (tokens sub action m matched start).map (Token.shift bytes) := by
  cases action with
  | token kind => exact piece_shift kind matched start bytes
  | groups actions gap => exact groupTokens_shift gap h start

end Emission

/-! ## 4. Streams that go the same way -/

theorem Cursor.after_shift (c : Cursor) (e : Event) (bytes : Nat) :
    (c.shift bytes).after e = (c.after e).shift bytes := by
  cases e with
  | rule r m => simp [after, consume, shift, Nat.add_right_comm]
  | fallback f => rfl
  | error => simp [after, consume, shift, Nat.add_right_comm]

theorem Cursor.emitted_shift {c : Cursor} {e : Event}
    (h : ∀ group ∈ c.nested e, LexesAlike sub sub' bytes group) :
    (c.shift bytes).emitted sub' e = (c.emitted sub e).map (Token.shift bytes) := by
  cases e with
  | rule r m => exact Emission.tokens_shift h c.offset
  | fallback f => rfl
  | error => exact Emission.piece_shift .error _ c.offset bytes

namespace Stream

variable {t : Table} {s s' : Stream}

/-- All group texts that the stream meets from now on are lexed alike. -/
def Alike (t : Table) (sub sub' : Option SubLexer) (bytes : Nat) (s : Stream) : Prop :=
  ∀ c ∈ t.walk s.cursor, ∀ group ∈ c.nested (t.event c), LexesAlike sub sub' bytes group

theorem step_shift (h : s.Alike t sub sub' bytes) (hr : s.cursor.rest ≠ []) :
    (s.shift bytes).step t sub' = (s.step t sub).shift bytes ∧
      (s.step t sub).Alike t sub sub' bytes := by
  unfold Alike at h
  rw [Table.walk, dif_neg hr] at h
  obtain ⟨hnow, hlater⟩ := List.forall_mem_cons.mp h
  refine ⟨?_, hlater⟩
  have hevent : t.event (s.cursor.shift bytes) = t.event s.cursor := rfl
  simp only [step, shift, hevent, Cursor.after_shift, Cursor.emitted_shift hnow, List.map_append]

theorem settle_shift (h : s.Alike t sub sub' bytes) :
    (s.shift bytes).settle t sub' = (s.settle t sub).shift bytes ∧
      (s.settle t sub).Alike t sub sub' bytes := by
  fun_induction Stream.settle t sub s with
  | case1 s hs ih =>
    obtain ⟨hp, hr⟩ := hs
    obtain ⟨hstep, hlater⟩ := step_shift h hr
    have hps : (s.shift bytes).pending = [] := List.map_eq_nil_iff.mpr hp
    have hrs : (s.shift bytes).cursor.rest ≠ [] := hr
    rw [settle_of_step t sub' hps hrs, hstep]
    exact ih hlater
  | case2 s hs =>
    have hss : ¬((s.shift bytes).pending = [] ∧ (s.shift bytes).cursor.rest ≠ []) :=
      fun h0 => hs ⟨List.map_eq_nil_iff.mp h0.1, h0.2⟩
    rw [settle, dif_neg hss]
    exact ⟨rfl, h⟩

theorem next?_shift (h : s.Alike t sub sub' bytes) :
    (s.shift bytes).next? t sub' =
        (s.next? t sub).map (fun (token, s') => (token.shift bytes, s'.shift bytes)) ∧
      ∀ token s', s.next? t sub = some (token, s') → s'.Alike t sub sub' bytes := by
  obtain ⟨hsettle, hlater⟩ := settle_shift h
  unfold next?
  rw [hsettle]
  dsimp only [shift]
  cases (s.settle t sub).pending with
  | nil => exact ⟨rfl, fun _ _ hn => by cases hn⟩
  | cons token pending =>
    refine ⟨rfl, fun token' s' hn => ?_⟩
    obtain ⟨rfl, rfl⟩ := Prod.mk.inj (Option.some.inj hn)
    exact hlater

/-- **Two streams that lex groups alike give the same tokens**, each so many bytes further on. -/
theorem tokens_shift (h : s.Alike t sub sub' bytes) :
    (s.shift bytes).tokens t sub' = (s.tokens t sub).map (Token.shift bytes) := by
  fun_induction Stream.run t sub s with
  | case1 s hn =>
    have hns := (next?_shift h).1
    rw [hn] at hns
    rw [tokens_of_next?_eq_none t sub hn, tokens_of_next?_eq_none t sub' hns, List.map_nil]
  | case2 s token s' hn ih =>
    obtain ⟨hns, hlater⟩ := next?_shift h
    rw [hn] at hns
    rw [tokens_of_next?_eq_some t sub hn, tokens_of_next?_eq_some t sub' hns,
      ih (hlater token s' hn), List.map_cons]

end Stream

end Alike

/-! ## 5. The same tokens anywhere -/

namespace Table

variable (t : Table)

theorem walk_shift (c : Cursor) (bytes : Nat) :
    t.walk (c.shift bytes) = (t.walk c).map (Cursor.shift bytes) := by
  fun_induction walk t c with
  | case1 c hr =>
    have hrs : (c.shift bytes).rest = [] := hr
    rw [walk, dif_pos hrs, List.map_nil]
  | case2 c hr ih =>
    have hrs : (c.shift bytes).rest ≠ [] := hr
    have hevent : t.event (c.shift bytes) = t.event c := rfl
    rw [walk, dif_neg hrs, hevent, Cursor.after_shift, ih, List.map_cons]

/-- What a text hands to lexers of its own is the same at every offset. -/
theorem exists_nested_of_walk {state : StateId} {text : List Char} {offset : Nat} {c : Cursor}
    (hc : c ∈ t.walk (.start state text offset)) {group : StateId × List Char}
    (hgroup : group ∈ c.nested (t.event c)) :
    ∃ c' ∈ t.walk (.start state text), group ∈ c'.nested (t.event c') := by
  have hmoved : Cursor.start state text offset = (Cursor.start state text).shift offset := by
    simp [Cursor.start, Cursor.shift]
  rw [hmoved, walk_shift] at hc
  obtain ⟨c', hc', rfl⟩ := List.mem_map.mp hc
  exact ⟨c', hc', hgroup⟩

/-- **A text that nests no deeper than the levels that are left gives the same tokens anywhere.**
The induction is on the depth to which it nests: lexers for the groups of the text have one level
less, and the groups nest one level less deep. -/
theorem tokens_shift_of_nestsWithin {deepest : Nat} {state : StateId} {text : List Char}
    (h : t.NestsWithin deepest state text) {levels levels' : Nat} (hl : deepest ≤ levels)
    (hl' : deepest ≤ levels') (offset bytes : Nat) :
    (Stream.start state text (offset + bytes)).tokens t (t.subLexer levels') =
      ((Stream.start state text offset).tokens t (t.subLexer levels)).map (Token.shift bytes) := by
  induction deepest generalizing state text levels levels' offset with
  | zero =>
    refine Stream.tokens_shift (s := .start state text offset) fun c hc group hgroup => ?_
    obtain ⟨c', hc', hgroup'⟩ := t.exists_nested_of_walk hc hgroup
    rw [h c' hc'] at hgroup'
    cases hgroup'
  | succ deepest ih =>
    obtain ⟨levels, rfl⟩ := Nat.exists_eq_add_of_lt (Nat.lt_of_succ_le hl)
    obtain ⟨levels', rfl⟩ := Nat.exists_eq_add_of_lt (Nat.lt_of_succ_le hl')
    refine Stream.tokens_shift (s := .start state text offset) fun c hc group hgroup gap start => ?_
    obtain ⟨c', hc', hgroup'⟩ := t.exists_nested_of_walk hc hgroup
    exact ih (h c' hc' group hgroup') (Nat.le_add_right _ _) (Nat.le_add_right _ _) start

end Table

end Highlighter
