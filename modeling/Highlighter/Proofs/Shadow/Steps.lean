/-
# Steps of the main state

What a step does where the main state is on top of the stack, with whatever is under it.  Most rules
are out of the question at a glance, as none of their matches begins with the character ahead
(`forall_refuses`); of the others it has to be said what their patterns make of the text.
-/
import Highlighter.Proofs.Lexer.Firing
import Highlighter.Proofs.Shadow.Rules

namespace Highlighter

namespace Shadow

/-- Rules that match no text that begins with the character refuse all of them. -/
theorem forall_refuses {rules : List TableRule} {c : Char}
    (h : ∀ r ∈ rules, r.pattern.mayBeEmpty = false ∧ r.pattern.mayBegin c = false)
    (rest : List Char) : ∀ r ∈ rules, r.pattern.Refuses (c :: rest) := by
  intro r hr
  obtain ⟨hempty, hbegin⟩ := h r hr
  exact Pattern.refuses_of_mayBegin hempty (forall_head?_cons hbegin)

section

variable {s : Stream}

theorem state_top (htop : s.cursor.stack.top = table.initial) :
    table.state s.cursor.stack.top = ⟨"root", Compiled.rootRules, none⟩ := by
  rw [htop, table_eq]
  rfl

/-- **The first rule of the main state that does not refuse fires.** -/
theorem step_eq_give (htop : s.cursor.stack.top = table.initial) (count : Nat) {r : TableRule}
    {kind : Kind} {text after : List Char} (hr : Compiled.rootRules[count]? = some r)
    (haction : r.action = .token kind) (htransition : r.transition = none)
    (hrest : s.cursor.rest = text ++ after)
    (hearlier : ∀ e ∈ Compiled.rootRules.take count, e.pattern.Refuses (text ++ after))
    (hprefers : r.pattern.Prefers text after) (hne : text ≠ []) (sub : Option SubLexer) :
    s.step table sub = s.give kind text := by
  have hstate := state_top htop
  refine Stream.step_eq_give (by rw [hstate]; exact hr) haction htransition ?_ hrest hprefers hne
  rw [hstate, hrest]
  exact hearlier

/-- **Where all rules of the main state refuse, the next character is an error.** -/
theorem step_eq_give_error (htop : s.cursor.stack.top = table.initial) {c : Char}
    {after : List Char} (hrest : s.cursor.rest = c :: after)
    (hrules : ∀ r ∈ Compiled.rootRules, r.pattern.Refuses (c :: after)) (sub : Option SubLexer) :
    s.step table sub = s.give .error [c] := by
  refine Stream.step_eq_give_error ?_ ?_ hrest
  · rw [state_top htop, hrest]
    exact hrules
  · rw [state_top htop]

end

end Shadow

end Highlighter
