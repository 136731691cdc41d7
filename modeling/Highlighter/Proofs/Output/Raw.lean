/-
# Raw output can be decoded

The lines of a document are what stands before its line feeds (`Raw.lines?`), and a line shows a kind
before its first tab and a quoted text behind it (`Raw.entry?`).  Neither knows how a document is
written.  A token takes one line, since no line feed gets through the quoting of its text, and its
kind ends at the first tab, since no kind has a tab in its name; so all kinds and texts can be read
back (`Raw.read?_write`), and with them the text that the tokens were made from.
-/
import Highlighter.Output.Raw
import Highlighter.Proofs.Lexer.Lossless
import Highlighter.Proofs.Text.Quoted
import Highlighter.Text.Trim

namespace Highlighter

namespace Raw

/-! ## 1. Reading a document -/

/-- The lines of a document, if each is ended by a line feed. -/
def lines? (document : List Char) : Option (List (List Char)) :=
  let parts := Text.splitAt '\n' document
  if parts.getLast? = some [] then some parts.dropLast else none

/-- The kind and the text that a line shows. -/
def entry? (shown : List Char) : Option (Kind × List Char) := do
  let (kind, text) ← Text.splitOnce? '\t' shown
  return (← Kind.ofName? (String.ofList kind), ← Quoted.decode? text)

/-- The kinds and the texts that a document shows. -/
def read? (document : List Char) : Option (List (Kind × List Char)) := do
  (← lines? document).mapM entry?

/-! ## 2. The line of a token -/

/-- What the line of a token shows. -/
def shown (t : Token) : List Char := t.kind.dotted.toList ++ '\t' :: Quoted.encode t.text

theorem line_eq (t : Token) : line t = shown t ++ ['\n'] := by
  simp only [line, shown, List.append_assoc, List.cons_append, List.nil_append]

theorem not_mem_dotted (k : Kind) : '\t' ∉ k.dotted.toList ∧ '\n' ∉ k.dotted.toList := by
  cases k <;> decide

/-- **A token takes one line.** -/
theorem not_mem_shown (t : Token) : '\n' ∉ shown t := by
  unfold shown
  rw [List.mem_append, List.mem_cons]
  rintro (h | h | h)
  · exact (not_mem_dotted t.kind).2 h
  · exact absurd h (by decide)
  · exact Quoted.not_mem_encode t.text h

/-- **The line of a token shows its kind and its text.** -/
theorem entry?_shown (t : Token) : entry? (shown t) = some (t.kind, t.text) := by
  unfold entry? shown
  rw [Text.splitOnce?_append_cons (not_mem_dotted t.kind).1]
  simp [Quoted.decode?_encode]

/-! ## 3. The lines of tokens -/

theorem splitAt_write (tokens : List Token) :
    Text.splitAt '\n' (write tokens) = tokens.map shown ++ [[]] := by
  induction tokens with
  | nil => rfl
  | cons t tokens ih =>
    have hwrite : write (t :: tokens) = shown t ++ '\n' :: write tokens := by
      rw [write, List.flatMap_cons, line_eq, List.append_assoc, List.singleton_append, write]
    rw [hwrite, Text.splitAt_append_cons (not_mem_shown t), ih, List.map_cons, List.cons_append]

theorem lines?_write (tokens : List Token) : lines? (write tokens) = some (tokens.map shown) := by
  unfold lines?
  rw [splitAt_write]
  simp

theorem count_write (tokens : List Token) : (write tokens).count '\n' = tokens.length := by
  induction tokens with
  | nil => rfl
  | cons t tokens ih =>
    rw [write, List.flatMap_cons, List.count_append, ← write, ih, line_eq, List.count_append,
      List.count_eq_zero_of_not_mem (not_mem_shown t), List.length_cons]
    exact Nat.add_comm 1 _

theorem mapM_entry?_map_shown (tokens : List Token) :
    (tokens.map shown).mapM entry? = some (tokens.map fun t => (t.kind, t.text)) := by
  induction tokens with
  | nil => rfl
  | cons t tokens ih =>
    rw [List.map_cons, List.mapM_cons, entry?_shown, ih]
    rfl

/-- **The kinds and the texts of tokens are read back.** -/
theorem read?_write (tokens : List Token) :
    read? (write tokens) = some (tokens.map fun t => (t.kind, t.text)) := by
  unfold read?
  rw [lines?_write]
  exact mapM_entry?_map_shown tokens

/-- **Raw output can be decoded.**  There is one line feed for each token, at the end of the line of
that token; cut at the line feeds, and each line at its first tab, with the quoting undone, the
document gives back the kinds and the texts of the tokens in order.  So a text can be put together
again from the document of its tokens, whatever the table. -/
theorem write_decodes :
    (∀ tokens : List Token,
      (write tokens).count '\n' = tokens.length ∧
      write tokens = tokens.flatMap (fun t => shown t ++ ['\n']) ∧ (∀ t, '\n' ∉ shown t) ∧
      lines? (write tokens) = some (tokens.map shown) ∧
      read? (write tokens) = some (tokens.map fun t => (t.kind, t.text))) ∧
    ∀ (t : Table) (state : StateId) (text : List Char),
      (read? (write (t.tokenizeFrom state text))).map (fun entries => entries.flatMap (·.2)) =
        some text := by
  constructor
  · intro tokens
    have hlines : write tokens = tokens.flatMap fun t => shown t ++ ['\n'] :=
      congrArg tokens.flatMap (funext line_eq)
    exact ⟨count_write tokens, hlines, not_mem_shown, lines?_write tokens, read?_write tokens⟩
  · intro t state text
    rw [read?_write, Option.map_some, List.flatMap_map]
    exact congrArg some (t.texts_tokenizeFrom state text)

/-- A quote, a backslash and a line feed in the text of a token. -/
example : write [⟨.keywordType, ['"', '\\', '\n'], 7⟩] =
    "Keyword.Type\t\"\\\"\\\\\\n\"\n".toList := by decide +kernel

end Raw

end Highlighter
