/-
# Which includes can be written out

Writing the includes of a state out follows them one after the other.  The states on the way are a
trail (`Grammar.Trail`): all are declared, none comes twice, and each includes the next.

* **The fuel never runs out**: a trail of declared and distinct names is no longer than the list of
  states (`Trail.length_le`).
* Where `expand?` fails, its error names an undeclared state or a cycle that includes lead to
  (`includeFault_of_expand?`).  So it fails just if there is one (`exists_expand?_eq_error_iff`) and
  succeeds just if there is none (`exists_expand?_eq_ok_iff`).
* Where `expand?` succeeds, `expand` gives the same rules (`expand_eq_of_expand?`).
* Both are what a loop over mutable state computes, without fuel: one that marks the states being
  written out and takes the marks away again (`splice_eq`), and one that keeps them in order and
  stops at the first fault (`spliceStrictly_eq`).
-/
import Highlighter.Proofs.Grammar.Includes
import Mathlib.Data.Finset.Basic

namespace Highlighter

/-- The rules that an entry stands for, given those that an include stands for. -/
def Entry.rules (included : String → List Rule) : Entry → List Rule
  | .rule r => [r]
  | .include state => included state

namespace Grammar

open Relation

/-! ## 1. Trails -/

/-- Includes lead from the state `root` to the state `name` through the states of a path, the latest
first. -/
inductive Trail (g : Grammar) (root : String) : (path : List String) → (name : String) → Prop where
  | start : Trail g root [] root
  | step {path : List String} {name other : String} (h : Trail g root path name)
      (hname : name ∉ path) (hi : g.Includes name other) : Trail g root (name :: path) other

variable {g : Grammar} {root name : String} {path : List String} {fuel : Nat}

theorem declares_of_includes {other : String} (h : g.Includes name other) : g.Declares name := by
  obtain ⟨s, hs, -⟩ := h
  exact declares_of_state? hs

theorem Trail.nodup (h : g.Trail root path name) : path.Nodup := by
  induction h with
  | start => exact List.nodup_nil
  | step _ hname _ ih => exact List.nodup_cons.mpr ⟨hname, ih⟩

theorem Trail.declared (h : g.Trail root path name) : ∀ p ∈ path, g.Declares p := by
  induction h with
  | start => exact fun _ hp => by cases hp
  | step _ _ hi ih => exact List.forall_mem_cons.mpr ⟨declares_of_includes hi, ih⟩

theorem Trail.reach (h : g.Trail root path name) : ReflTransGen g.Includes root name := by
  induction h with
  | start => exact .refl
  | step _ _ hi ih => exact ih.tail hi

/-- Every state of a trail leads to its end. -/
theorem Trail.leads (h : g.Trail root path name) : ∀ p ∈ path, TransGen g.Includes p name := by
  induction h with
  | start => exact fun _ hp => by cases hp
  | step _ _ hi ih =>
    exact List.forall_mem_cons.mpr ⟨.single hi, fun p hp => (ih p hp).tail hi⟩

/-- The names of a trail are distinct and declared, so there are no more than there are states. -/
theorem Trail.length_le (h : g.Trail root path name) : path.length ≤ g.states.length := by
  have hsub : path ⊆ g.states.map (·.name) := by
    intro p hp
    obtain ⟨s, hs, hname⟩ := h.declared p hp
    exact List.mem_map.mpr ⟨s, hs, hname⟩
  simpa using h.nodup.length_le_of_subset hsub

/-! ## 2. Faults -/

/-- What may be wrong with the includes that begin at a state. -/
inductive IncludeFault (g : Grammar) (root : String) : GrammarError → Prop where
  /-- The state includes itself, if only through others. -/
  | cycle {state : String} (hreach : ReflTransGen g.Includes root state)
      (hcycle : TransGen g.Includes state state) : IncludeFault g root (.includeCycle state)
  /-- The state `source` has an include of a state that is not declared. -/
  | undefined {source target : String} (hreach : ReflTransGen g.Includes root source)
      (hi : g.Includes source target) (htarget : ¬ g.Declares target) :
      IncludeFault g root (.undefinedState source target)

theorem state?_eq_none_iff : g.state? name = none ↔ ¬ g.Declares name := by
  rw [Option.eq_none_iff_forall_not_mem]
  constructor
  · intro h hd
    obtain ⟨s, hs⟩ := exists_state?_of_declares hd
    exact h s hs
  · exact fun h s hs => h (declares_of_state? hs)

/-- **An error of the strict expansion names a fault.**  The induction is on the fuel, along the
trail to the state at hand. -/
theorem includeFault_of_expandFrom? (hroot : g.Declares root) (h : g.Trail root path name)
    (hfuel : path.length + fuel = g.states.length + 1) {e : GrammarError}
    (he : g.expandFrom? fuel path name = .error e) : g.IncludeFault root e := by
  induction fuel generalizing path name with
  | zero =>
    have := h.length_le
    omega
  | succ fuel ih =>
    unfold expandFrom? at he
    cases hs : g.state? name with
    | none =>
      rw [hs] at he
      obtain rfl := Except.error.inj he
      have hname := state?_eq_none_iff.mp hs
      cases h with
      | start => exact absurd hroot hname
      | step h _ hi => exact .undefined h.reach hi hname
    | some s =>
      rw [hs] at he
      dsimp only at he
      by_cases hp : name ∈ path
      · rw [if_pos (by simpa using hp)] at he
        obtain rfl := Except.error.inj he
        exact .cycle h.reach (h.leads name hp)
      · rw [if_neg (by simpa using hp)] at he
        obtain ⟨entry, hentry, he⟩ := Checks.exists_error_of_mapM (Checks.map_eq_error he)
        cases entry with
        | rule r => cases he
        | «include» other =>
          refine ih (h.step hp ⟨s, hs, hentry⟩) ?_ he
          rw [List.length_cons]
          omega

theorem includeFault_of_expand? (hroot : g.Declares root) {e : GrammarError}
    (he : g.expand? root = .error e) : g.IncludeFault root e :=
  includeFault_of_expandFrom? hroot .start (Nat.zero_add _) he

/-- **The includes of a state can be written out just if they lead neither to an undeclared state
nor to a cycle.** -/
theorem exists_expand?_eq_ok_iff :
    (∃ rules, g.expand? name = .ok rules) ↔ g.Includable name := by
  constructor
  · rintro ⟨rules, h⟩
    exact includable_of_expandFrom? h
  · intro h
    cases he : g.expand? name with
    | ok rules => exact ⟨rules, rfl⟩
    | error e =>
      cases includeFault_of_expand? (h name .refl).1 he with
      | cycle hreach hcycle => exact absurd hcycle (h _ hreach).2
      | undefined hreach hi htarget => exact absurd (h _ (hreach.tail hi)).1 htarget

/-- **They cannot be written out just if they lead to one of these.** -/
theorem exists_expand?_eq_error_iff :
    (∃ e, g.expand? name = .error e) ↔ ∃ other, ReflTransGen g.Includes name other ∧
      (¬ g.Declares other ∨ TransGen g.Includes other other) := by
  have hnot : (∃ e, g.expand? name = .error e) ↔ ¬ g.Includable name := by
    rw [← exists_expand?_eq_ok_iff]
    cases g.expand? name <;> simp
  rw [hnot]
  simp only [Includable, not_forall, Classical.not_and_iff_not_or_not, Classical.not_not,
    exists_prop]

/-! ## 3. Passing over faults -/

theorem expandFrom_of_state? {s : State} (hs : g.state? name = some s) (hp : name ∉ path) :
    g.expandFrom (fuel + 1) path name =
      s.entries.flatMap (Entry.rules (g.expandFrom fuel (name :: path))) := by
  unfold expandFrom
  rw [hs]
  dsimp only
  rw [if_neg (by simpa using hp)]
  refine congrArg (List.flatMap · s.entries) (funext fun entry => ?_)
  cases entry <;> rfl

/-- Without faults the lenient expansion gives the same rules. -/
theorem expandFrom_eq_of_expandFrom? {rules : List Rule}
    (h : g.expandFrom? fuel path name = .ok rules) : g.expandFrom fuel path name = rules := by
  induction fuel generalizing path name rules with
  | zero => cases h
  | succ fuel ih =>
    obtain ⟨s, parts, hs, hp, hparts, rfl⟩ := expandFrom?_succ_eq_ok_iff.mp h
    rw [expandFrom_of_state? hs hp, List.flatMap_def]
    refine congrArg List.flatten ?_
    refine List.forall₂_eq_eq_eq ▸ List.forall₂_map_left_iff.mpr (hparts.imp fun entry part he => ?_)
    cases entry with
    | rule r => exact Except.ok.inj he
    | «include» other => exact ih he

theorem expand_eq_of_expand? {rules : List Rule} (h : g.expand? name = .ok rules) :
    g.expand name = rules :=
  expandFrom_eq_of_expandFrom? h

/-! ## 4. Loops over mutable state -/

mutual

/-- Append the rules of a state to `out`.  The states that are being written out are marked; one
that is marked already, or not declared, is passed over.  Calls that never end have no result. -/
def splice (g : Grammar) (name : String) (marked : Finset String) (out : List Rule) :
    Option (Finset String × List Rule) :=
  match g.state? name with
  | none => some (marked, out)
  | some s =>
    if name ∈ marked then some (marked, out)
    else do
      let (marked, out) ← g |>.spliceEntries s.entries (insert name marked) out
      return (marked.erase name, out)
partial_fixpoint

/-- Append the rules of entries. -/
def spliceEntries (g : Grammar) (entries : List Entry) (marked : Finset String)
    (out : List Rule) : Option (Finset String × List Rule) :=
  match entries with
  | [] => some (marked, out)
  | .rule r :: entries => g |>.spliceEntries entries marked (out ++ [r])
  | .include name :: entries => do
    let (marked, out) ← g |>.splice name marked out
    g |>.spliceEntries entries marked out
partial_fixpoint

end

mutual

/-- Append the rules of a state to `out`, and stop at the first fault.  The path has the states that
are being written out, the latest last. -/
def spliceStrictly (g : Grammar) (name : String) (path : List String) (out : List Rule) :
    ExceptT GrammarError Option (List String × List Rule) :=
  match g.state? name with
  | none => throw (.undefinedState (path.getLast?.getD "") name)
  | some s =>
    if name ∈ path then throw (.includeCycle name)
    else do
      let (path, out) ← g |>.spliceEntriesStrictly s.entries (path ++ [name]) out
      return (path.dropLast, out)
partial_fixpoint

/-- Append the rules of entries, and stop at the first fault. -/
def spliceEntriesStrictly (g : Grammar) (entries : List Entry) (path : List String)
    (out : List Rule) : ExceptT GrammarError Option (List String × List Rule) :=
  match entries with
  | [] => pure (path, out)
  | .rule r :: entries => g |>.spliceEntriesStrictly entries path (out ++ [r])
  | .include name :: entries => do
    let (path, out) ← g |>.spliceStrictly name path out
    g |>.spliceEntriesStrictly entries path out
partial_fixpoint

end

theorem spliceEntries_eq (included : String → List Rule) {marked : Finset String}
    {entries : List Entry}
    (hinclude : ∀ other, .include other ∈ entries → ∀ out,
      g.splice other marked out = some (marked, out ++ included other)) (out : List Rule) :
    g.spliceEntries entries marked out =
      some (marked, out ++ entries.flatMap (Entry.rules included)) := by
  induction entries generalizing out with
  | nil => simp [spliceEntries]
  | cons entry entries ih =>
    have ih := ih fun other ho => hinclude other (List.mem_cons_of_mem _ ho)
    cases entry with
    | rule r => rw [spliceEntries, ih, List.flatMap_cons, Entry.rules, List.append_assoc]
    | «include» other =>
      rw [spliceEntries, hinclude other List.mem_cons_self, Option.bind_eq_bind, Option.bind_some]
      dsimp only
      rw [ih, List.flatMap_cons, Entry.rules, List.append_assoc]

/-- **Marking the states that are being written out is as good as keeping them in order.** -/
theorem splice_eq_expandFrom (h : g.Trail root path name)
    (hfuel : path.length + fuel = g.states.length + 1) (out : List Rule) :
    g.splice name path.toFinset out =
      some (path.toFinset, out ++ g.expandFrom fuel path name) := by
  induction fuel generalizing path name out with
  | zero =>
    have := h.length_le
    omega
  | succ fuel ih =>
    rw [splice]
    cases hs : g.state? name with
    | none => simp [expandFrom, hs]
    | some s =>
      dsimp only
      by_cases hp : name ∈ path
      · simp [expandFrom, hs, hp]
      · have hlength : (name :: path).length + fuel = g.states.length + 1 := by
          rw [List.length_cons]
          omega
        have hentries := spliceEntries_eq (g.expandFrom fuel (name :: path))
          (fun other ho out => ih (h.step hp ⟨s, hs, ho⟩) hlength out) out
        rw [expandFrom_of_state? hs hp, if_neg (by simpa using hp), ← List.toFinset_cons, hentries,
          Option.bind_eq_bind, Option.bind_some]
        dsimp only
        rw [List.toFinset_cons, Finset.erase_insert (by simpa using hp)]
        rfl

theorem splice_eq (g : Grammar) (name : String) :
    g.splice name ∅ [] = some (∅, g.expand name) :=
  splice_eq_expandFrom .start (Nat.zero_add _) []

/-- Going on after a computation that has ended. -/
theorem bind_ended {ε α β : Type} (x : Except ε α) (f : α → ExceptT ε Option β) :
    ((show ExceptT ε Option α from some x) >>= f) =
      match x with
      | .error e => some (.error e)
      | .ok a => f a := by
  cases x <;> rfl

theorem spliceEntriesStrictly_eq (included : String → Except GrammarError (List Rule))
    {entries : List Entry}
    (hinclude : ∀ other, .include other ∈ entries → ∀ out,
      g.spliceStrictly other path out = some ((included other).map fun part => (path, out ++ part)))
    (out : List Rule) :
    g.spliceEntriesStrictly entries path out =
      some ((entries.mapM (Entry.rules? included)).map fun parts => (path, out ++ parts.flatten)) := by
  induction entries generalizing out with
  | nil =>
    rw [spliceEntriesStrictly, List.mapM_nil]
    exact congrArg (fun o => some (Except.ok (path, o))) (List.append_nil out).symm
  | cons entry entries ih =>
    have ih := ih fun other ho => hinclude other (List.mem_cons_of_mem _ ho)
    rw [List.mapM_cons]
    cases entry with
    | rule r =>
      rw [spliceEntriesStrictly, ih]
      cases hrest : entries.mapM (Entry.rules? included) with
      | error e => rfl
      | ok parts =>
        exact congrArg (fun o => some (Except.ok (path, o))) (List.append_assoc out [r] _)
    | «include» other =>
      rw [spliceEntriesStrictly, hinclude other List.mem_cons_self, bind_ended, Entry.rules?]
      cases included other with
      | error e => rfl
      | ok part =>
        dsimp only [Except.map]
        rw [ih]
        cases hrest : entries.mapM (Entry.rules? included) with
        | error e => rfl
        | ok parts =>
          exact congrArg (fun o => some (Except.ok (path, o))) (List.append_assoc out part _)

/-- **Keeping the states in order is what `expandFrom?` does**, its path being the other way
round. -/
theorem spliceStrictly_eq_expandFrom? (h : g.Trail root path name)
    (hfuel : path.length + fuel = g.states.length + 1) (out : List Rule) :
    g.spliceStrictly name path.reverse out =
      some ((g.expandFrom? fuel path name).map fun rules => (path.reverse, out ++ rules)) := by
  induction fuel generalizing path name out with
  | zero =>
    have := h.length_le
    omega
  | succ fuel ih =>
    rw [spliceStrictly, expandFrom?]
    cases hs : g.state? name with
    | none =>
      rw [List.getLast?_reverse]
      cases path <;> rfl
    | some s =>
      dsimp only
      by_cases hp : name ∈ path
      · rw [if_pos (List.mem_reverse.mpr hp), if_pos (by simpa using hp)]
        rfl
      · rw [if_neg (mt List.mem_reverse.mp hp), if_neg (by simpa using hp), ← List.reverse_cons,
          spliceEntriesStrictly_eq (g.expandFrom? fuel (name :: path)) fun other ho out => ?_,
          bind_ended]
        · cases hparts : s.entries.mapM (Entry.rules? (g.expandFrom? fuel (name :: path))) with
          | error e => rfl
          | ok parts =>
            dsimp only [Except.map]
            rw [List.reverse_cons, List.dropLast_concat]
            rfl
        · refine ih (h.step hp ⟨s, hs, ho⟩) ?_ out
          rw [List.length_cons]
          omega

theorem spliceStrictly_eq (g : Grammar) (name : String) :
    g.spliceStrictly name [] [] = some ((g.expand? name).map fun rules => ([], rules)) :=
  spliceStrictly_eq_expandFrom? .start (Nat.zero_add _) []

end Grammar

end Highlighter
