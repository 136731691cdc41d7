/-
# What includes stand for

`Grammar.expand?` writes the includes of a state out along a path of names and with fuel.  Here is
what it computes, without either:

* `Grammar.Expansion` is the literal expansion: an include stands for the expanded entries of the
  state it names.  It gives at most one list of rules (`Expansion.unique`).
* Where `expand?` succeeds, it gives the expansion (`expansion_of_expand?`), and no undeclared state
  and no cycle can be come to by following includes (`includable_of_expandFrom?`).
-/
import Highlighter.Grammar.Include
import Highlighter.Proofs.Checks
import Mathlib.Logic.Relation

namespace Highlighter

namespace Grammar

open Relation

/-! ## 1. Following includes -/

/-- A state with the name is declared. -/
def Declares (g : Grammar) (name : String) : Prop := ∃ s ∈ g.states, s.name = name

/-- The state `a` has an include of `b`. -/
def Includes (g : Grammar) (a b : String) : Prop :=
  ∃ s, g.state? a = some s ∧ Entry.include b ∈ s.entries

/-- From the state `name`, includes lead neither to an undeclared state nor to a cycle. -/
def Includable (g : Grammar) (name : String) : Prop :=
  ∀ other, ReflTransGen g.Includes name other →
    g.Declares other ∧ ¬ TransGen g.Includes other other

variable {g : Grammar}

theorem declares_of_state? {name : String} {s : State} (h : g.state? name = some s) :
    g.Declares name :=
  ⟨s, List.mem_of_find?_eq_some h, by simpa using List.find?_some h⟩

theorem exists_state?_of_declares {name : String} (h : g.Declares name) :
    ∃ s, g.state? name = some s := by
  obtain ⟨s, hs, rfl⟩ := h
  exact Option.isSome_iff_exists.mp (List.find?_isSome.mpr ⟨s, hs, by simp⟩)

/-! ## 2. The literal expansion -/

/-- Entries with every include written out. -/
inductive Expansion (g : Grammar) : List Entry → List Rule → Prop where
  | nil : Expansion g [] []
  | rule {entries : List Entry} {rules : List Rule} (r : Rule) :
    Expansion g entries rules → Expansion g (.rule r :: entries) (r :: rules)
  | include {name : String} {s : State} {entries : List Entry} {part rules : List Rule} :
    g.state? name = some s → Expansion g s.entries part → Expansion g entries rules →
      Expansion g (.include name :: entries) (part ++ rules)

theorem Expansion.unique {entries : List Entry} {a b : List Rule} (ha : g.Expansion entries a)
    (hb : g.Expansion entries b) : a = b := by
  induction ha generalizing b with
  | nil => cases hb; rfl
  | rule r _ ih =>
    cases hb with
    | rule _ hb => rw [ih hb]
  | «include» hs _ _ ihp ih =>
    cases hb with
    | «include» hs' hp' hb =>
      obtain rfl := Option.some.inj (hs.symm.trans hs')
      rw [ihp hp', ih hb]

/-- Rules listed by a state itself are in its expansion. -/
theorem Expansion.mem_of_mem {entries : List Entry} {rules : List Rule}
    (h : g.Expansion entries rules) {r : Rule} (hr : .rule r ∈ entries) : r ∈ rules := by
  induction h with
  | nil => cases hr
  | rule r' _ ih =>
    rcases List.mem_cons.mp hr with heq | hr
    · cases heq
      exact List.mem_cons_self
    · exact List.mem_cons_of_mem _ (ih hr)
  | «include» _ _ _ _ ih =>
    rcases List.mem_cons.mp hr with heq | hr
    · cases heq
    · exact List.mem_append_right _ (ih hr)

/-- A rule of an expansion is listed by the entries or by a declared state. -/
theorem Expansion.mem_entries {entries : List Entry} {rules : List Rule}
    (h : g.Expansion entries rules) {r : Rule} (hr : r ∈ rules) :
    .rule r ∈ entries ∨ ∃ s ∈ g.states, .rule r ∈ s.entries := by
  induction h with
  | nil => cases hr
  | rule r' _ ih =>
    rcases List.mem_cons.mp hr with rfl | hr
    · exact Or.inl List.mem_cons_self
    · rcases ih hr with h | h
      · exact Or.inl (List.mem_cons_of_mem _ h)
      · exact Or.inr h
  | «include» hs _ _ ihp ih =>
    rcases List.mem_append.mp hr with hr | hr
    · rcases ihp hr with h | h
      · exact Or.inr ⟨_, List.mem_of_find?_eq_some hs, h⟩
      · exact Or.inr h
    · rcases ih hr with h | h
      · exact Or.inl (List.mem_cons_of_mem _ h)
      · exact Or.inr h

/-! ## 3. What a successful expansion went through -/

variable {fuel : Nat} {path : List String} {name : String} {rules : List Rule}

/-- Succeeding means to succeed at each entry, with a longer path. -/
theorem expandFrom?_succ_eq_ok_iff :
    g.expandFrom? (fuel + 1) path name = .ok rules ↔
      ∃ s parts, g.state? name = some s ∧ name ∉ path ∧
        List.Forall₂ (fun e part => e.rules? (g.expandFrom? fuel (name :: path)) = .ok part)
          s.entries parts ∧
        rules = parts.flatten := by
  unfold expandFrom?
  cases hs : g.state? name with
  | none => simp
  | some s =>
    by_cases hp : name ∈ path
    · simp [hp]
    · simp only [List.contains_eq_mem, hp, decide_false, Bool.false_eq_true, if_false,
        Checks.bind_eq_ok_iff, Checks.mapM_eq_ok_iff]
      constructor
      · rintro ⟨parts, hparts, h⟩
        exact ⟨s, parts, rfl, not_false, hparts, (Except.ok.inj h).symm⟩
      · rintro ⟨_, parts, h, -, hparts, rfl⟩
        obtain rfl := Option.some.inj h
        exact ⟨parts, hparts, rfl⟩

/-- The parts of entries that an expansion function gives make up an expansion. -/
theorem expansion_flatten {included : String → Except GrammarError (List Rule)}
    (hinc : ∀ other part, included other = .ok part →
      ∃ s, g.state? other = some s ∧ g.Expansion s.entries part)
    {entries : List Entry} {parts : List (List Rule)}
    (h : List.Forall₂ (fun e part => Entry.rules? included e = .ok part) entries parts) :
    g.Expansion entries parts.flatten := by
  induction h with
  | nil => exact .nil
  | @cons e part entries parts he _ ih =>
    cases e with
    | rule r =>
      obtain rfl := Except.ok.inj he
      exact .rule r ih
    | «include» other =>
      obtain ⟨s, hs, hpart⟩ := hinc other part he
      exact .include hs hpart ih

/-- **What is written out is the expansion.** -/
theorem expansion_of_expandFrom? (h : g.expandFrom? fuel path name = .ok rules) :
    ∃ s, g.state? name = some s ∧ g.Expansion s.entries rules := by
  induction fuel generalizing path name rules with
  | zero => cases h
  | succ fuel ih =>
    obtain ⟨s, parts, hs, -, hparts, rfl⟩ := expandFrom?_succ_eq_ok_iff.mp h
    exact ⟨s, hs, expansion_flatten (fun _ _ hother => ih hother) hparts⟩

/-- An include of a state that was written out was written out itself, after that state. -/
theorem exists_expandFrom?_of_includes (h : g.expandFrom? fuel path name = .ok rules)
    {other : String} (hi : g.Includes name other) :
    ∃ fuel' rules', g.expandFrom? fuel' (name :: path) other = .ok rules' := by
  cases fuel with
  | zero => cases h
  | succ fuel =>
    obtain ⟨s, parts, hs, -, hparts, -⟩ := expandFrom?_succ_eq_ok_iff.mp h
    obtain ⟨s', hs', hmem⟩ := hi
    obtain rfl := Option.some.inj (hs.symm.trans hs')
    obtain ⟨part, -, hpart⟩ := Checks.exists_right_of_mem hparts hmem
    exact ⟨fuel, part, hpart⟩

/-- The same through any number of includes; the path keeps the names passed. -/
theorem exists_expandFrom?_of_transGen (h : g.expandFrom? fuel path name = .ok rules)
    {other : String} (hi : TransGen g.Includes name other) :
    ∃ fuel' path' rules', name ∈ path' ∧ g.expandFrom? fuel' path' other = .ok rules' := by
  induction hi with
  | single hi =>
    obtain ⟨fuel', rules', h⟩ := exists_expandFrom?_of_includes h hi
    exact ⟨fuel', _, rules', List.mem_cons_self, h⟩
  | tail _ hi ih =>
    obtain ⟨fuel', path', rules', hmem, h⟩ := ih
    obtain ⟨fuel'', rules'', h⟩ := exists_expandFrom?_of_includes h hi
    exact ⟨fuel'', _, rules'', List.mem_cons_of_mem _ hmem, h⟩

/-- A name on the path is not written out again. -/
theorem not_mem_of_expandFrom? (h : g.expandFrom? fuel path name = .ok rules) : name ∉ path := by
  cases fuel with
  | zero => cases h
  | succ fuel =>
    obtain ⟨-, -, -, hp, -⟩ := expandFrom?_succ_eq_ok_iff.mp h
    exact hp

/-- **What was written out has neither an undeclared name nor a cycle below it.** -/
theorem includable_of_expandFrom? (h : g.expandFrom? fuel path name = .ok rules) :
    g.Includable name := by
  intro other hreach
  obtain ⟨fuel', path', rules', h'⟩ :
      ∃ fuel' path' rules', g.expandFrom? fuel' path' other = .ok rules' := by
    rcases reflTransGen_iff_eq_or_transGen.mp hreach with rfl | hreach
    · exact ⟨fuel, path, rules, h⟩
    · obtain ⟨fuel', path', rules', -, h'⟩ := exists_expandFrom?_of_transGen h hreach
      exact ⟨fuel', path', rules', h'⟩
  refine ⟨?_, fun hcycle => ?_⟩
  · obtain ⟨s, hs, -⟩ := expansion_of_expandFrom? h'
    exact declares_of_state? hs
  · -- Around the cycle the state is come to a second time, with itself on the path.
    obtain ⟨_, _, _, hmem, h''⟩ := exists_expandFrom?_of_transGen h' hcycle
    exact not_mem_of_expandFrom? h'' hmem

theorem expansion_of_expand? (h : g.expand? name = .ok rules) :
    ∃ s, g.state? name = some s ∧ g.Expansion s.entries rules :=
  expansion_of_expandFrom? h

end Grammar

end Highlighter
