/-
# JSON output is a document

What is written for tokens is one JSON document: an array with one object for each token, in order
(`JsonOutput.write_is_document`).  The brackets, commas and line breaks of the array are written
around the objects, and it takes a reader of documents of any form (`Json.documentValue`) to say
that they are in the right places.
-/
import Highlighter.Output.Json
import Highlighter.Proofs.Json.Value

namespace Highlighter

namespace JsonOutput

open Json

/-- What the object of a token holds. -/
def fields (t : Token) : List (List Char × JsonValue) := [
  ("kind".toList, .string t.kind.dotted.toList),
  ("text".toList, .string t.text),
  ("start".toList, .number (.natural t.start)),
  ("end".toList, .number (.natural (t.start + byteLength t.text)))]

/-- What stands before each object. -/
def indent : List Char := "\n  ".toList

/-- What stands behind the last object. -/
def finish : List Char := "\n]\n".toList

theorem write_eq (tokens : List Token) :
    write tokens = '[' :: ([','].intercalate ((tokens.map entry).map (indent ++ ·)) ++ finish) := by
  rw [List.map_map]
  rfl

/-- **The object of a token is read as its fields.** -/
theorem readsAs_entry (depth : Nat) {t : Token} (h : t.stop ≤ maxOffset) :
    ReadsAs (value (depth + 1)) (entry t) (.object (fields t)) := by
  have hstart : t.start ≤ JsonNumber.maxNatural := le_trans (Nat.le_add_right _ _) h
  refine readsAs_object (.cons ⟨rfl, ?_⟩ (.cons ⟨rfl, ?_⟩ (.cons ⟨rfl, ?_⟩ (.cons ⟨rfl, ?_⟩ .nil))))
  · exact readsAs_string depth _
  · exact readsAs_string depth _
  · exact readsAs_natural depth hstart
  · exact readsAs_natural depth h

theorem begins_entry (t : Token) : Begins (entry t) :=
  ⟨'\x7b', _, rfl, by decide⟩

theorem forall₂_entries (depth : Nat) {tokens : List Token}
    (h : ∀ t ∈ tokens, t.stop ≤ maxOffset) :
    List.Forall₂ (fun w v => Begins w ∧ ReadsAs (value (depth + 1)) w v) (tokens.map entry)
      (tokens.map fun t => .object (fields t)) := by
  rw [List.forall₂_map_left_iff, List.forall₂_map_right_iff, List.forall₂_same]
  exact fun t ht => ⟨begins_entry t, readsAs_entry depth (h t ht)⟩

/-- **JSON output is one document, and a faithful one.**  If all offsets can be written, what is
written for tokens is an array with an object for each token, in order.  The object has the name of
the token's kind, which can be read back, its text, and where it starts and ends, and nothing
else. -/
theorem write_is_document {tokens : List Token} (h : ∀ t ∈ tokens, t.stop ≤ maxOffset) :
    documentValue (String.ofList (write tokens)) =
        .ok (.array (tokens.map fun t => .object [
          ("kind".toList, .string t.kind.dotted.toList),
          ("text".toList, .string t.text),
          ("start".toList, .number (.natural t.start)),
          ("end".toList, .number (.natural (t.start + byteLength t.text)))])) ∧
      ∀ t ∈ tokens, Kind.ofName? t.kind.dotted = some t.kind := by
  refine ⟨?_, fun t _ => Kind.ofName?_dotted t.kind⟩
  have hvalue : value maxDepth (write tokens) =
      .ok (.array (tokens.map fun t => .object (fields t)), ['\n']) := by
    rw [write_eq]
    -- The array is the outermost level and the objects are the next one, which leaves 125.
    exact value_array (List.all_eq_true.mp (by decide)) (forall₂_entries 125 h) rfl
  unfold documentValue document
  rw [String.toList_ofList, hvalue]
  rfl

/-- No token, one with characters that have to be escaped, and one that ends at the last offset. -/
theorem write_is_document_extremes :
    let quoted : Token := ⟨.string, ['"', '\x01', 'é'], 0⟩
    let last : Token := ⟨.name, ['x'], 18446744073709551614⟩
    (∀ t ∈ [quoted, last], t.stop ≤ maxOffset) ∧
      documentValue "[\n]\n" = .ok (.array []) ∧
      documentValue (String.ofList (write [quoted, last])) =
        .ok (.array [
          .object [
            ("kind".toList, .string "String".toList), ("text".toList, .string ['"', '\x01', 'é']),
            ("start".toList, .number (.natural 0)), ("end".toList, .number (.natural 4))],
          .object [
            ("kind".toList, .string "Name".toList), ("text".toList, .string ['x']),
            ("start".toList, .number (.natural 18446744073709551614)),
            ("end".toList, .number (.natural 18446744073709551615))]]) := by
  intro quoted last
  have hstop : ∀ t ∈ [quoted, last], t.stop ≤ maxOffset := by decide
  exact ⟨hstop, (write_is_document (List.forall_mem_nil _)).1, (write_is_document hstop).1⟩

end JsonOutput

end Highlighter
