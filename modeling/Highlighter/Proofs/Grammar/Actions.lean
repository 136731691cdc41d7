/-
# Grammars that differ in their actions

What a rule makes of the text that it matches has no part in whether it matches and where lexing
goes on.  `Grammar.forgetActions` makes a single token of every match, so two grammars that differ
in their actions only are one grammar without them (`forgetActions`), and if both compile, their
tables are one table without actions (`forgetActions_eq_of_compile`).
-/
import Highlighter.Proofs.Grammar.Compile

namespace Highlighter

/-! ## 1. Without actions -/

def Rule.forgetAction (r : Rule) : Rule := { r with action := .token .text }

def Entry.forgetAction : Entry → Entry
  | .rule r => .rule r.forgetAction
  | .include state => .include state

def State.forgetActions (s : State) : State :=
  { s with entries := s.entries.map Entry.forgetAction }

/-- The grammar whose rules make a single token of what they match. -/
def Grammar.forgetActions (g : Grammar) : Grammar :=
  { g with states := g.states.map State.forgetActions }

def TableRule.forgetAction (r : TableRule) : TableRule := { r with action := .token .text }

def TableState.forgetActions (s : TableState) : TableState :=
  { s with rules := s.rules.map TableRule.forgetAction }

/-- The table whose rules make a single token of what they match. -/
def Table.forgetActions (t : Table) : Table :=
  { t with states := t.states.map TableState.forgetActions }

/-! ## 2. Compiling without actions -/

namespace Grammar

variable {g : Grammar}

theorem map_name_forgetActions (g : Grammar) :
    g.forgetActions.states.map (·.name) = g.states.map (·.name) := by
  rw [forgetActions, List.map_map]
  rfl

theorem state?_forgetActions (name : String) :
    g.forgetActions.state? name = (g.state? name).map State.forgetActions := by
  rw [state?, forgetActions, List.find?_map]
  rfl

theorem Expansion.forgetActions {entries : List Entry} {rules : List Rule}
    (h : g.Expansion entries rules) :
    g.forgetActions.Expansion (entries.map Entry.forgetAction)
      (rules.map Rule.forgetAction) := by
  induction h with
  | nil => exact .nil
  | rule r _ ih => exact .rule r.forgetAction ih
  | @«include» name s _ _ _ hs _ _ ihpart ih =>
    have hs' : g.forgetActions.state? name = some s.forgetActions := by
      rw [state?_forgetActions, hs, Option.map_some]
    rw [List.map_append]
    exact .include hs' ihpart ih

theorem RuleCompilesTo.forgetAction {r : Rule} {c : TableRule} (h : g.RuleCompilesTo r c) :
    g.forgetActions.RuleCompilesTo r.forgetAction c.forgetAction := by
  refine ⟨h.source, h.pattern, rfl, ?_⟩
  rw [position_of_names g.map_name_forgetActions]
  exact h.transition

theorem StateCompilesTo.forgetActions {s : State} {c : TableState} (h : g.StateCompilesTo s c) :
    g.forgetActions.StateCompilesTo s.forgetActions c.forgetActions := by
  obtain ⟨rules, hexp, hrules⟩ := h.rules
  refine ⟨h.name, ⟨_, hexp.forgetActions, ?_⟩, ?_⟩
  · exact List.forall₂_map_left_iff.mpr (List.forall₂_map_right_iff.mpr
      (hrules.imp fun _ _ hr => hr.forgetAction))
  · rw [position_of_names g.map_name_forgetActions]
    exact h.fallback

theorem CompilesTo.forgetActions {t : Table} (h : g.CompilesTo t) :
    g.forgetActions.CompilesTo t.forgetActions := by
  have hpos := position_of_names g.map_name_forgetActions
  have hstates : List.Forall₂ g.forgetActions.StateCompilesTo g.forgetActions.states
      t.forgetActions.states :=
    List.forall₂_map_left_iff.mpr (List.forall₂_map_right_iff.mpr
      (h.states.imp fun _ _ hs => hs.forgetActions))
  refine ⟨h.name, ?_, hstates, fun i s hs => ?_⟩
  · rw [hpos]
    exact h.initial
  · have hnames := map_name_of_forall₂ hstates
    obtain ⟨s', hs', rfl⟩ := Option.map_eq_some_iff.mp (List.getElem?_map .. ▸ hs)
    obtain ⟨hid, -, -⟩ := h.ids i s' hs'
    rw [hpos]
    refine ⟨hid, ?_, stateName_eq hnames hs⟩
    rw [stateId?_eq hnames, findIdx?_eq_some_iff, hpos]
    exact ⟨⟨_, List.mem_of_getElem? hs, rfl⟩, hid.symm⟩

/-- **Grammars that differ in their actions only have tables that do.** -/
theorem forgetActions_eq_of_compile {g' : Grammar} {t t' : Table} (h : g.compile = .ok t)
    (h' : g'.compile = .ok t') (hsame : g.forgetActions = g'.forgetActions) :
    t.forgetActions = t'.forgetActions := by
  have hto := (valid_and_compilesTo_of_compile h).2.forgetActions
  have hto' := (valid_and_compilesTo_of_compile h').2.forgetActions
  rw [← hsame] at hto'
  exact hto.unique hto'

end Grammar

end Highlighter
