/-
# Includes stand for the rules of other states

`Grammar.flatten` is the grammar with every include written out, as `Grammar.expand` does it.

* A compiled state has the rules of its expansion, in order (`forall₂_expand_of_compile`).
* **A grammar that compiles and the same grammar without includes have one table**
  (`flatten_compile`), and where includes cannot be written out, the error says why
  (`includes_stand_for_rules`).
-/
import Highlighter.Proofs.Grammar.Compile

namespace Highlighter

namespace Grammar

open Relation

/-! ## 1. Writing includes out -/

/-- The state with its includes written out. -/
def flattenState (g : Grammar) (s : State) : State :=
  { s with entries := (g.expand s.name).map .rule }

/-- The grammar with all includes written out. -/
def flatten (g : Grammar) : Grammar := { g with states := g.states.map g.flattenState }

variable {g : Grammar}

theorem map_name_flatten (g : Grammar) :
    g.flatten.states.map (·.name) = g.states.map (·.name) := by
  rw [flatten, List.map_map]
  rfl

theorem Expansion.of_rules (rules : List Rule) : g.Expansion (rules.map .rule) rules := by
  induction rules with
  | nil => exact .nil
  | cons r rules ih => exact .rule r ih

/-- A valid grammar declares each state with its expansion. -/
theorem Valid.expansion_expand (hv : g.Valid) {s : State} (hs : s ∈ g.states) :
    g.Expansion s.entries (g.expand s.name) := by
  obtain ⟨rules, h⟩ := exists_expand?_eq_ok_iff.mpr (hv.includes s hs)
  obtain ⟨s', hs', hexp⟩ := expansion_of_expand? h
  obtain rfl := Option.some.inj ((state?_name hv.distinct hs).symm.trans hs')
  rwa [expand_eq_of_expand? h]

/-- **The rules of a compiled state are those of its expansion, in order.** -/
theorem forall₂_expand_of_compile {t : Table} (h : g.compile = .ok t) :
    List.Forall₂ (fun s c => c.name = s.name ∧
      List.Forall₂ g.RuleCompilesTo (g.expand s.name) c.rules) g.states t.states := by
  obtain ⟨hv, hto⟩ := valid_and_compilesTo_of_compile h
  refine List.forall₂_iff_zip.mpr ⟨hto.states.length_eq, fun {s c} hsc => ?_⟩
  have hc := List.forall₂_zip hto.states hsc
  obtain ⟨rules, hexp, hrules⟩ := hc.rules
  obtain rfl := hexp.unique (hv.expansion_expand (List.of_mem_zip hsc).1)
  exact ⟨hc.name, hrules⟩

/-- Without includes there is nothing to be followed. -/
theorem not_includes_flatten {a b : String} : ¬ g.flatten.Includes a b := by
  rintro ⟨s, hs, hb⟩
  obtain ⟨s', -, rfl⟩ := List.mem_map.mp (List.mem_of_find?_eq_some hs)
  obtain ⟨r, -, hr⟩ := List.mem_map.mp hb
  cases hr

theorem includable_flatten {name : String} (h : g.flatten.Declares name) :
    g.flatten.Includable name := by
  intro other hreach
  cases hreach.cases_head with
  | inl heq =>
    subst heq
    refine ⟨h, fun hcycle => ?_⟩
    obtain ⟨_, hi, -⟩ := TransGen.head'_iff.mp hcycle
    exact not_includes_flatten hi
  | inr hstep =>
    obtain ⟨_, hi, -⟩ := hstep
    exact absurd hi not_includes_flatten

theorem Valid.flatten (hv : g.Valid) : g.flatten.Valid := by
  have hnames := g.map_name_flatten
  refine ⟨hnames ▸ hv.distinct, (declares_of_names hnames _).mpr hv.initial, fun s hs => ?_,
    fun s hs r hr => ?_, fun s hs f hf => ?_⟩
  · exact includable_flatten ⟨s, hs, rfl⟩
  · obtain ⟨s', hs', rfl⟩ := List.mem_map.mp hs
    obtain ⟨r', hr', heq⟩ := List.mem_map.mp hr
    cases heq
    -- The rule is listed by the state itself or by one that it includes.
    have hrule : g.ValidRule r := by
      rcases (hv.expansion_expand hs').mem_entries hr' with h | ⟨s'', hs'', h⟩
      · exact hv.rules s' hs' r h
      · exact hv.rules s'' hs'' r h
    exact hrule.of_names hnames rfl
  · obtain ⟨s', hs', rfl⟩ := List.mem_map.mp hs
    exact (hv.fallbacks s' hs' f hf).of_names hnames

/-- **Writing includes out leaves the table as it is.** -/
theorem flatten_compile {t : Table} (h : g.compile = .ok t) : g.flatten.compile = .ok t := by
  obtain ⟨hv, hto⟩ := valid_and_compilesTo_of_compile h
  have hnames := g.map_name_flatten
  have hpos := position_of_names hnames
  refine compile_eq_ok_of_valid hv.flatten ⟨hto.name, ?_, ?_, fun i s hs => ?_⟩
  · rw [hpos]
    exact hto.initial
  · refine List.forall₂_map_left_iff.mpr ?_
    refine List.forall₂_iff_zip.mpr ⟨hto.states.length_eq, fun {s c} hsc => ?_⟩
    obtain ⟨hname, hrules⟩ := List.forall₂_zip (forall₂_expand_of_compile h) hsc
    refine ⟨hname, ⟨g.expand s.name, .of_rules _, ?_⟩, ?_⟩
    · exact hrules.imp fun r c hrc => hrc.of_names hnames rfl
    · rw [hpos]
      exact (List.forall₂_zip hto.states hsc).fallback
  · obtain ⟨s', hs', rfl⟩ := Option.map_eq_some_iff.mp (List.getElem?_map .. ▸ hs)
    rw [hpos]
    exact hto.ids i s' hs'

/-- **An include stands for the rules of another state.**  The rules of a compiled state are those
of its expansion, and the grammar with its includes written out has the same table, so that it lexes
every text alike.  Both expansions are what loops over mutable state compute.  For any grammar at
all, the strict expansion of a declared state fails just if includes lead from it to an undeclared
state or to a cycle, and the error names a state on such a cycle, or one that has an include of the
undeclared state. -/
theorem includes_stand_for_rules (g : Grammar) :
    (∀ t, g.compile = .ok t →
      List.Forall₂ (fun s c => c.name = s.name ∧
        List.Forall₂ g.RuleCompilesTo (g.expand s.name) c.rules) g.states t.states ∧
      g.flatten.compile = .ok t) ∧
    ∀ name,
      (g.splice name ∅ [] = some (∅, g.expand name) ∧
        g.spliceStrictly name [] [] = some ((g.expand? name).map fun rules => ([], rules))) ∧
      ((∃ e, g.expand? name = .error e) ↔ ∃ other, ReflTransGen g.Includes name other ∧
        (¬ g.Declares other ∨ TransGen g.Includes other other)) ∧
      (g.Declares name → ∀ e, g.expand? name = .error e → g.IncludeFault name e) := by
  refine ⟨fun t h => ⟨forall₂_expand_of_compile h, flatten_compile h⟩, fun name => ⟨?_, ?_, ?_⟩⟩
  · exact ⟨g.splice_eq name, g.spliceStrictly_eq name⟩
  · exact exists_expand?_eq_error_iff
  · exact fun hname e he => includeFault_of_expand? hname he

/-- The rule of the state `shared` comes to the initial state in two ways. -/
def diamond : Grammar where
  name := "diamond"
  states := [
    { name := "root", entries := [.include "left", .include "right"] },
    { name := "left", entries := [.include "shared"] },
    { name := "right"
      entries := [.rule { pattern := "b", action := .token .name }, .include "shared"] },
    { name := "shared"
      entries := [.rule { pattern := "a", action := .token .text, transition := some (.pop 1) }] }]

def diamondTable : Table :=
  let a : TableRule := ⟨"a", .char 'a', .token .text, some (.pop 1)⟩
  let b : TableRule := ⟨"b", .char 'b', .token .name, none⟩
  ⟨"diamond", 0, [⟨"root", [a, b, a], none⟩, ⟨"left", [a], none⟩, ⟨"right", [b, a], none⟩,
    ⟨"shared", [a], none⟩]⟩

/-- Expansion comes to a cycle that the initial state is not on. -/
def looping : Grammar where
  name := "looping"
  states := [
    { name := "root", entries := [.include "there"] },
    { name := "there", entries := [.include "back"] },
    { name := "back", entries := [.include "there"] }]

theorem includes_stand_for_rules_diamond :
    diamond.compile = .ok diamondTable ∧ diamond.flatten.compile = .ok diamondTable ∧
      looping.Declares "root" ∧ looping.expand? "root" = .error (.includeCycle "there") ∧
      looping.IncludeFault "root" (.includeCycle "there") := by
  have hcompile : diamond.compile = .ok diamondTable := by decide +kernel
  have hroot : looping.Declares "root" := ⟨_, List.mem_cons_self, rfl⟩
  have herror : looping.expand? "root" = .error (.includeCycle "there") := by decide +kernel
  exact ⟨hcompile, ((includes_stand_for_rules diamond).1 _ hcompile).2, hroot, herror,
    ((includes_stand_for_rules looping).2 "root").2.2 hroot _ herror⟩

end Grammar

end Highlighter
