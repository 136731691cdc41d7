/-
# What a terminal shows

The actions that show tokens on a terminal, seen in two ways.

* With all setting of styles left out, they write the texts of the tokens and nothing else
  (`written_actions`).  A text in a style is cut at its line feeds, and the line feeds are put back
  between the parts (`written_styled`).  An output without colours is what is left (`write_plain`).
* A line feed is written only where no style is active (`PlainLineFeeds`).  This is kept by what
  comes one after the other (`plainLineFeeds_append`): each token begins and ends without a style
  (`activeAfter_token`), whatever its text is.
-/
import Highlighter.Output.Terminal

namespace Highlighter

/-! ## 1. What actions do -/

namespace TerminalAction

/-- What is written, without a style. -/
def written : TerminalAction → List Char
  | set _ => []
  | reset => []
  | write text => text

/-- The style that is active after an action. -/
def activates (active : Option TerminalStyle) : TerminalAction → Option TerminalStyle
  | set style => some style
  | reset => none
  | write _ => active

end TerminalAction

namespace Terminal

/-- What actions write, without styles. -/
def written (as : List TerminalAction) : List Char := as.flatMap TerminalAction.written

/-- The style that is active after actions. -/
def activeAfter (active : Option TerminalStyle) (as : List TerminalAction) :
    Option TerminalStyle :=
  as.foldl TerminalAction.activates active

/-- Every line feed is written while no style is active. -/
def PlainLineFeeds (active : Option TerminalStyle) (as : List TerminalAction) : Prop :=
  ∀ before text after, as = before ++ .write text :: after → '\n' ∈ text →
    activeAfter active before = none

@[simp] theorem written_nil : written [] = [] := rfl

@[simp] theorem written_cons (a : TerminalAction) (as : List TerminalAction) :
    written (a :: as) = a.written ++ written as := rfl

@[simp] theorem written_append (as bs : List TerminalAction) :
    written (as ++ bs) = written as ++ written bs :=
  List.flatMap_append

@[simp] theorem activeAfter_nil (active : Option TerminalStyle) : activeAfter active [] = active :=
  rfl

@[simp] theorem activeAfter_cons (active : Option TerminalStyle) (a : TerminalAction)
    (as : List TerminalAction) :
    activeAfter active (a :: as) = activeAfter (a.activates active) as := rfl

@[simp] theorem activeAfter_append (active : Option TerminalStyle) (as bs : List TerminalAction) :
    activeAfter active (as ++ bs) = activeAfter (activeAfter active as) bs :=
  List.foldl_append

theorem plainLineFeeds_nil (active : Option TerminalStyle) : PlainLineFeeds active [] := by
  intro before text after h
  simp at h

/-- The first action counts if it writes a line feed. -/
theorem plainLineFeeds_cons {active : Option TerminalStyle} {a : TerminalAction}
    {as : List TerminalAction} :
    PlainLineFeeds active (a :: as) ↔
      ('\n' ∈ a.written → active = none) ∧ PlainLineFeeds (a.activates active) as := by
  constructor
  · intro h
    constructor
    · intro hmem
      cases a with
      | set style => cases hmem
      | reset => cases hmem
      | write text => exact h [] text as rfl hmem
    · rintro before text after rfl hmem
      exact h (a :: before) text after rfl hmem
  · rintro ⟨hfirst, hrest⟩ before text after heq hmem
    rcases List.cons_eq_append_iff.mp heq with ⟨rfl, hcons⟩ | ⟨before, rfl, has⟩
    · obtain ⟨rfl, -⟩ := List.cons.inj hcons
      exact hfirst hmem
    · exact hrest before text after has hmem

theorem plainLineFeeds_append {active : Option TerminalStyle} {as bs : List TerminalAction} :
    PlainLineFeeds active (as ++ bs) ↔
      PlainLineFeeds active as ∧ PlainLineFeeds (activeAfter active as) bs := by
  induction as generalizing active with
  | nil => simp [plainLineFeeds_nil]
  | cons a as ih =>
    rw [List.cons_append, plainLineFeeds_cons, plainLineFeeds_cons, ih, and_assoc]
    rfl

/-! ## 2. Tokens -/

/-- The parts of a text are written with the line feeds between them. -/
theorem written_styled (style : TerminalStyle) (text : List Char) :
    written (styled style text) = text := by
  have hlater (line : List Char) (lines : List (List Char)) :
      line ++ written (laterLines style lines) = ['\n'].intercalate (line :: lines) := by
    induction lines generalizing line with
    | nil => simp [laterLines]
    | cons next lines ih =>
      rw [List.intercalate_cons_cons, ← ih next]
      simp [laterLines, TerminalAction.written]
  unfold styled
  cases hsplit : Text.splitAt '\n' text with
  | nil => exact absurd hsplit (Text.splitWhere_ne_nil _ text)
  | cons line lines =>
    have htext := Text.intercalate_splitAt '\n' text
    rw [hsplit, ← hlater] at htext
    simpa [TerminalAction.written] using htext

/-- Later lines are written in the style, and the line feeds before them without one. -/
theorem plainLineFeeds_laterLines (style : TerminalStyle) {lines : List (List Char)}
    (h : ∀ line ∈ lines, '\n' ∉ line) :
    PlainLineFeeds (some style) (laterLines style lines) ∧
      activeAfter (some style) (laterLines style lines) = some style := by
  induction lines with
  | nil => exact ⟨plainLineFeeds_nil _, rfl⟩
  | cons line lines ih =>
    have hline : '\n' ∉ line := h line List.mem_cons_self
    obtain ⟨hplain, hactive⟩ := ih fun other hmem => h other (List.mem_cons_of_mem line hmem)
    have hlater : laterLines style (line :: lines) =
        [.reset, .write ['\n'], .set style, .write line] ++ laterLines style lines := rfl
    rw [hlater, plainLineFeeds_append, activeAfter_append]
    refine ⟨⟨?_, hplain⟩, hactive⟩
    simp [plainLineFeeds_cons, plainLineFeeds_nil, TerminalAction.written,
      TerminalAction.activates, hline]

theorem plainLineFeeds_styled (style : TerminalStyle) (text : List Char) :
    PlainLineFeeds none (styled style text) := by
  unfold styled
  cases hsplit : Text.splitAt '\n' text with
  | nil => exact plainLineFeeds_nil none
  | cons line lines =>
    have hlines : ∀ part ∈ line :: lines, '\n' ∉ part := by
      intro part hpart hmem
      rw [← hsplit] at hpart
      have hsep := Text.not_mem_of_mem_splitWhere hpart hmem
      simp at hsep
    obtain ⟨hline, hlater⟩ := List.forall_mem_cons.mp hlines
    obtain ⟨hplain, hactive⟩ := plainLineFeeds_laterLines style hlater
    rw [plainLineFeeds_append, plainLineFeeds_append]
    refine ⟨⟨?_, hplain⟩, ?_⟩
    · simp [plainLineFeeds_cons, plainLineFeeds_nil, TerminalAction.written, hline]
    · simp [plainLineFeeds_cons, plainLineFeeds_nil, TerminalAction.written]

theorem activeAfter_styled (style : TerminalStyle) (text : List Char) :
    activeAfter none (styled style text) = none := by
  unfold styled
  cases Text.splitAt '\n' text with
  | nil => rfl
  | cons line lines => simp [TerminalAction.activates]

theorem written_token (theme : Theme) (t : Token) : written (token theme t) = t.text := by
  unfold token
  cases theme.styleFor t.kind with
  | none => simp [TerminalAction.written]
  | some style => exact written_styled style.onTerminal t.text

theorem plainLineFeeds_token (theme : Theme) (t : Token) :
    PlainLineFeeds none (token theme t) := by
  unfold token
  cases theme.styleFor t.kind with
  | none => simp [plainLineFeeds_cons, plainLineFeeds_nil]
  | some style => exact plainLineFeeds_styled style.onTerminal t.text

/-- A token leaves no style behind. -/
theorem activeAfter_token (theme : Theme) (t : Token) :
    activeAfter none (token theme t) = none := by
  unfold token
  cases theme.styleFor t.kind with
  | none => rfl
  | some style => exact activeAfter_styled style.onTerminal t.text

/-! ## 3. Outputs -/

/-- **Without styles, a terminal shows the texts of the tokens and nothing else.** -/
theorem written_actions (theme : Theme) (tokens : List Token) :
    written (actions theme tokens) = texts tokens := by
  induction tokens with
  | nil => rfl
  | cons t tokens ih =>
    rw [actions, List.flatMap_cons, written_append, written_token, ← actions, ih, texts_cons]

/-- **A line feed is never written in a style, and no style is left at the end.** -/
theorem plainLineFeeds_actions (theme : Theme) (tokens : List Token) :
    PlainLineFeeds none (actions theme tokens) ∧
      activeAfter none (actions theme tokens) = none := by
  induction tokens with
  | nil => exact ⟨plainLineFeeds_nil none, rfl⟩
  | cons t tokens ih =>
    have hcons : actions theme (t :: tokens) = token theme t ++ actions theme tokens := rfl
    rw [hcons, plainLineFeeds_append, activeAfter_append, activeAfter_token]
    exact ⟨⟨plainLineFeeds_token theme t, ih.1⟩, ih.2⟩

theorem render_plain (as : List TerminalAction) : render false as = written as := by
  have haction : renderAction false = TerminalAction.written := by
    funext a
    cases a <;> rfl
  rw [render, written, haction]

/-- Tokens without colours. -/
theorem write_plain (theme : Theme) (tokens : List Token) :
    write false theme tokens = texts tokens := by
  rw [write, render_plain, written_actions]

end Terminal

end Highlighter
