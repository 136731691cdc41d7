/-
# Reading HTML output back

A document is read as anyone would read it, with no knowledge of how it was written: the frame is
taken off (`Html.body?`), what stands between angle brackets is a tag (`Html.pieces`), and five
entities stand for the characters that they name (`Html.decode`).

* **No text is taken for markup.**  What is written for a token is read as its tags and, between
  them, the characters of its text one by one (`pieces_span`): an escaped text has no angle bracket
  in it, and a class name cannot end a tag early.
* **Decoding undoes escaping** (`decode_escape`), also where the text has entities in it already,
  since the ampersand of an entity in the text is itself escaped.

Hence the texts of the tokens can be read back from the document, and its tags are those around the
tokens that are not plain text (`write_read_back`).
-/
import Highlighter.Output.Html
import Highlighter.Proofs.Lexer.Lossless
import Mathlib.Data.List.Basic

namespace Highlighter

namespace Html

/-! ## 1. Reading a document -/

/-- What is between the two parts of the frame. -/
def body? (document : List Char) : Option (List Char) :=
  (document.dropPrefix? header).bind (·.dropSuffix? footer)

/-- A tag, by what stands between its brackets, or a character outside of all tags. -/
inductive Piece where
  | tag (content : List Char)
  | char (c : Char)
  deriving DecidableEq

/-- The pieces from a place on; `opened` is what was read of the tag that the place is in.  A
bracket that is never closed opens no tag. -/
def piecesFrom : (opened : Option (List Char)) → List Char → List Piece
  | none, [] => []
  | some content, [] => ('<' :: content).map .char
  | none, c :: cs => if c = '<' then piecesFrom (some []) cs else .char c :: piecesFrom none cs
  | some content, c :: cs =>
    if c = '>' then .tag content :: piecesFrom none cs else piecesFrom (some (content ++ [c])) cs

/-- The tags of a document and the characters outside of them. -/
def pieces (document : List Char) : List Piece := piecesFrom none document

def Piece.tag? : Piece → Option (List Char)
  | tag content => some content
  | char _ => none

def Piece.char? : Piece → Option Char
  | tag _ => none
  | char c => some c

/-- The tags of a document. -/
def tags (document : List Char) : List (List Char) := (pieces document).filterMap Piece.tag?

/-- A document without its tags. -/
def withoutTags (document : List Char) : List Char := (pieces document).filterMap Piece.char?

/-- A text with the characters that entities stand for. -/
def decode : List Char → List Char
  | [] => []
  | '&' :: 'a' :: 'm' :: 'p' :: ';' :: cs => '&' :: decode cs
  | '&' :: 'l' :: 't' :: ';' :: cs => '<' :: decode cs
  | '&' :: 'g' :: 't' :: ';' :: cs => '>' :: decode cs
  | '&' :: 'q' :: 'u' :: 'o' :: 't' :: ';' :: cs => '"' :: decode cs
  | '&' :: '#' :: '3' :: '9' :: ';' :: cs => '\'' :: decode cs
  | c :: cs => c :: decode cs

/-- The text of a document. -/
def source? (document : List Char) : Option (List Char) :=
  (body? document).map fun body => decode (withoutTags body)

/-- The name of the element that a tag opens. -/
def elementName (tag : List Char) : List Char := tag.takeWhile (· != ' ')

/-- The elements from a place on, each with its opening tag and the text in it; `opened` is the
element that the place is in.  There are none if a tag closes what is not open, or opens an element
inside of another one, or opens one that is not closed. -/
def elementsFrom : (opened : Option (List Char × List Char)) → List Piece →
    Option (List (List Char × List Char))
  | none, [] => some []
  | some _, [] => none
  | none, .char _ :: ps => elementsFrom none ps
  | none, .tag tag :: ps =>
    if tag.head? = some '/' then none else elementsFrom (some (tag, [])) ps
  | some (tag, text), .char c :: ps => elementsFrom (some (tag, text ++ [c])) ps
  | some (tag, text), .tag other :: ps =>
    if other = '/' :: elementName tag then
      (elementsFrom none ps).map fun others => (tag, decode text) :: others
    else none

/-- The elements of a document, if all are closed and none is inside of another one. -/
def elements? (document : List Char) : Option (List (List Char × List Char)) :=
  elementsFrom none (pieces document)

/-! ## 2. Escaped text -/

theorem decode_cons {c : Char} (h : c ≠ '&') (cs : List Char) :
    decode (c :: cs) = c :: decode cs := by
  rw [decode]
  all_goals
    intros
    subst_vars
    exact h rfl

/-- An entity is read as the character that it was written for. -/
theorem decode_escapeChar (c : Char) (cs : List Char) :
    decode (escapeChar c ++ cs) = c :: decode cs := by
  by_cases hamp : c = '&'
  · subst hamp
    simp [escapeChar, decode]
  by_cases hlt : c = '<'
  · subst hlt
    simp [escapeChar, decode]
  by_cases hgt : c = '>'
  · subst hgt
    simp [escapeChar, decode]
  by_cases hquot : c = '"'
  · subst hquot
    simp [escapeChar, decode]
  by_cases hapos : c = '\''
  · subst hapos
    simp [escapeChar, decode]
  have hself : escapeChar c = [c] := by simp [escapeChar, hamp, hlt, hgt, hquot, hapos]
  rw [hself]
  exact decode_cons hamp cs

/-- **Decoding undoes escaping**, whatever the text is. -/
theorem decode_escape (text : List Char) : decode (escape text) = text := by
  induction text with
  | nil => rfl
  | cons c cs ih =>
    rw [escape, List.flatMap_cons, decode_escapeChar]
    exact congrArg (c :: ·) ih

example : decode (escape "&lt; &".toList) = "&lt; &".toList ∧
    decode "&amp;lt; &#39".toList = "&lt; &#39".toList := by decide

@[simp] theorem escape_append (a b : List Char) : escape (a ++ b) = escape a ++ escape b :=
  List.flatMap_append

theorem not_mem_escapeChar (c : Char) : '<' ∉ escapeChar c := by
  unfold escapeChar
  split_ifs with hamp hlt hgt hquot hapos
  · decide
  · decide
  · decide
  · decide
  · decide
  · simp only [List.mem_singleton]
    rintro rfl
    exact hlt rfl

theorem not_mem_escape (text : List Char) : '<' ∉ escape text := by
  intro h
  obtain ⟨c, -, hc⟩ := List.mem_flatMap.mp h
  exact not_mem_escapeChar c hc

/-! ## 3. Pieces -/

theorem pieces_text {text : List Char} (h : '<' ∉ text) (rest : List Char) :
    pieces (text ++ rest) = text.map .char ++ pieces rest := by
  induction text with
  | nil => rfl
  | cons c cs ih =>
    have hc : c ≠ '<' := fun hc => h (hc ▸ List.mem_cons_self)
    have hcs : '<' ∉ cs := fun hcs => h (List.mem_cons_of_mem c hcs)
    simp only [pieces, List.cons_append, piecesFrom, if_neg hc, List.map_cons] at ih ⊢
    rw [ih hcs]

theorem piecesFrom_tag {content : List Char} (h : '>' ∉ content) (read rest : List Char) :
    piecesFrom (some read) (content ++ '>' :: rest) = .tag (read ++ content) :: pieces rest := by
  induction content generalizing read with
  | nil => simp [piecesFrom, pieces]
  | cons c cs ih =>
    have hc : c ≠ '>' := fun hc => h (hc ▸ List.mem_cons_self)
    have hcs : '>' ∉ cs := fun hcs => h (List.mem_cons_of_mem c hcs)
    rw [List.cons_append, piecesFrom, if_neg hc, ih hcs, List.append_assoc, List.singleton_append]

theorem pieces_tag {content : List Char} (h : '>' ∉ content) (rest : List Char) :
    pieces ('<' :: (content ++ '>' :: rest)) = .tag content :: pieces rest := by
  rw [pieces, piecesFrom, if_pos rfl, piecesFrom_tag h, List.nil_append]

/-! ## 4. What is written for a token -/

/-- What stands before the class name in a tag. -/
def beforeClass : List Char := "span class=\"".toList

/-- What stands between the brackets of the tag before a token. -/
def opening (t : Token) : List Char := beforeClass ++ t.kind.cssClass.toList ++ ['"']

/-- What stands between the brackets of the tag after a token. -/
def closing : List Char := "/span".toList

/-- The tokens that stand in an element. -/
def marked (tokens : List Token) : List Token := tokens.filter (·.kind ≠ .text)

/-- What a token is read as. -/
def spanPieces (t : Token) : List Piece :=
  if t.kind = .text then (escape t.text).map .char
  else .tag (opening t) :: ((escape t.text).map .char ++ [.tag closing])

/-- The tag before a token opens a `span`. -/
theorem exists_opening_eq (t : Token) :
    ∃ attributes, opening t = "span".toList ++ ' ' :: attributes := by
  have hname : ∃ more, beforeClass = "span".toList ++ ' ' :: more := ⟨"class=\"".toList, by decide⟩
  obtain ⟨more, hmore⟩ := hname
  refine ⟨more ++ (t.kind.cssClass.toList ++ ['"']), ?_⟩
  rw [opening, hmore, List.append_assoc, List.append_assoc, List.cons_append]

theorem openTag_eq (t : Token) : openTag t.kind.cssClass = '<' :: (opening t ++ ['>']) := by
  have hfirst : "<span class=\"".toList = '<' :: beforeClass := by decide
  have hlast : "\">".toList = ['"', '>'] := by decide
  calc openTag t.kind.cssClass
      = '<' :: beforeClass ++ t.kind.cssClass.toList ++ ['"', '>'] :=
        congrArg₂ (fun first last => first ++ t.kind.cssClass.toList ++ last) hfirst hlast
    _ = _ := by simp [opening]

theorem closeTag_eq : closeTag = '<' :: (closing ++ ['>']) := by decide

theorem isEmpty_cssClass (k : Kind) : k.cssClass.isEmpty = decide (k = .text) := by
  cases k <;> decide

/-- A class name cannot end the tag that it stands in. -/
theorem not_mem_opening (t : Token) : '>' ∉ opening t := by
  unfold opening
  cases t.kind <;> decide

/-- **A token is read as its tags with the characters of its text between them**, whatever comes
after it. -/
theorem pieces_span (t : Token) (rest : List Char) :
    pieces (span t ++ rest) = spanPieces t ++ pieces rest := by
  have htext := pieces_text (not_mem_escape t.text)
  unfold span spanPieces
  rw [isEmpty_cssClass]
  by_cases hkind : t.kind = .text
  · simp only [hkind, decide_true, if_true]
    exact htext rest
  · simp only [hkind, decide_false, if_false, Bool.false_eq_true]
    have hslash : '>' ∉ closing := by decide
    calc pieces (openTag t.kind.cssClass ++ escape t.text ++ closeTag ++ rest)
        = pieces ('<' :: (opening t ++ '>' :: (escape t.text ++
            '<' :: (closing ++ '>' :: rest)))) := by
          simp only [openTag_eq, closeTag_eq, List.append_assoc, List.cons_append, List.nil_append]
      _ = .tag (opening t) :: ((escape t.text).map .char ++ .tag closing :: pieces rest) := by
          rw [pieces_tag (not_mem_opening t), htext, pieces_tag hslash]
      _ = _ := by
          simp only [List.append_assoc, List.cons_append, List.nil_append]

theorem pieces_flatMap_span (tokens : List Token) :
    pieces (tokens.flatMap span) = tokens.flatMap spanPieces := by
  induction tokens with
  | nil => rfl
  | cons t tokens ih => rw [List.flatMap_cons, List.flatMap_cons, pieces_span, ih]

/-! ## 5. What is written for tokens -/

@[simp] theorem filterMap_char?_map (text : List Char) :
    (text.map Piece.char).filterMap Piece.char? = text := by
  rw [List.filterMap_map]
  exact List.filterMap_some

@[simp] theorem filterMap_tag?_map (text : List Char) :
    (text.map Piece.char).filterMap Piece.tag? = [] := by
  rw [List.filterMap_map]
  exact List.filterMap_none text

/-- What is left without the tags is the escaped text. -/
theorem withoutTags_flatMap_span (tokens : List Token) :
    withoutTags (tokens.flatMap span) = escape (texts tokens) := by
  rw [withoutTags, pieces_flatMap_span]
  induction tokens with
  | nil => rfl
  | cons t tokens ih =>
    rw [List.flatMap_cons, List.filterMap_append, ih, texts_cons, escape_append]
    unfold spanPieces
    split
    · rw [filterMap_char?_map]
    · simp only [List.filterMap_cons, Piece.char?, List.filterMap_append, filterMap_char?_map,
        List.filterMap_nil, List.append_nil]

theorem tags_flatMap_span (tokens : List Token) :
    tags (tokens.flatMap span) = (marked tokens).flatMap fun t => [opening t, closing] := by
  rw [tags, pieces_flatMap_span]
  induction tokens with
  | nil => rfl
  | cons t tokens ih =>
    rw [List.flatMap_cons, List.filterMap_append, ih]
    unfold spanPieces marked
    by_cases hkind : t.kind = .text
    · simp only [hkind, if_true, filterMap_tag?_map]
      simp [hkind]
    · simp only [hkind, if_false, List.filterMap_cons, Piece.tag?, List.filterMap_append,
        filterMap_tag?_map]
      simp [hkind]

/-- A text stays in the element that is open. -/
theorem elementsFrom_text (tag read text : List Char) (ps : List Piece) :
    elementsFrom (some (tag, read)) (text.map .char ++ ps) =
      elementsFrom (some (tag, read ++ text)) ps := by
  induction text generalizing read with
  | nil => simp
  | cons c cs ih =>
    rw [List.map_cons, List.cons_append, elementsFrom, ih, List.append_assoc,
      List.singleton_append]

theorem elementsFrom_outside (text : List Char) (ps : List Piece) :
    elementsFrom none (text.map .char ++ ps) = elementsFrom none ps := by
  induction text with
  | nil => rfl
  | cons c cs ih => rw [List.map_cons, List.cons_append, elementsFrom, ih]

/-- The element of a token is closed by its own tag and holds the token's text. -/
theorem elementsFrom_spanPieces (t : Token) (ps : List Piece) :
    elementsFrom none (spanPieces t ++ ps) =
      if t.kind = .text then elementsFrom none ps
      else (elementsFrom none ps).map fun others => (opening t, t.text) :: others := by
  unfold spanPieces
  split
  · exact elementsFrom_outside _ ps
  · obtain ⟨attributes, hopening⟩ := exists_opening_eq t
    have hname : closing = '/' :: elementName (opening t) := by
      rw [hopening]
      rfl
    have hhead : (opening t).head? ≠ some '/' := by
      rw [hopening]
      exact fun h => absurd (Option.some.inj h) (by decide)
    rw [List.cons_append, elementsFrom, if_neg hhead, List.append_assoc, elementsFrom_text,
      List.singleton_append, elementsFrom, if_pos hname, List.nil_append, decode_escape]

theorem elements?_flatMap_span (tokens : List Token) :
    elements? (tokens.flatMap span) = some ((marked tokens).map fun t => (opening t, t.text)) := by
  rw [elements?, pieces_flatMap_span]
  induction tokens with
  | nil => rfl
  | cons t tokens ih =>
    rw [List.flatMap_cons, elementsFrom_spanPieces, ih]
    by_cases hkind : t.kind = .text
    · simp [marked, hkind]
    · simp [marked, hkind]

theorem body?_write (tokens : List Token) : body? (write tokens) = some (tokens.flatMap span) := by
  have hprefix : (write tokens).dropPrefix? header = some (tokens.flatMap span ++ footer) :=
    List.dropPrefix?_eq_some_iff.mpr ⟨header, by simp [write], beq_self_eq_true _⟩
  rw [body?, hprefix]
  exact List.dropSuffix?_eq_some_iff.mpr ⟨footer, rfl, beq_self_eq_true _⟩

theorem source?_write (tokens : List Token) : source? (write tokens) = some (texts tokens) := by
  rw [source?, body?_write, Option.map_some, withoutTags_flatMap_span, decode_escape]

/-- **HTML output is faithful, and no text becomes markup.**  Without the frame and the tags, and
with the entities decoded, a document is the text of the tokens.  Its only tags are an opening and a
closing one for each token that is not plain text; each of these elements is closed before the next
one begins, and holds the text of its token.  So a text can be read back from the document of its
tokens, whatever the table. -/
theorem write_read_back :
    (∀ tokens : List Token, ∃ body, body? (write tokens) = some body ∧
      decode (withoutTags body) = texts tokens ∧
      tags body = (marked tokens).flatMap (fun t => [opening t, closing]) ∧
      elements? body = some ((marked tokens).map fun t => (opening t, t.text))) ∧
    ∀ (t : Table) (state : StateId) (text : List Char),
      source? (write (t.tokenizeFrom state text)) = some text := by
  constructor
  · intro tokens
    refine ⟨_, body?_write tokens, ?_, tags_flatMap_span tokens, elements?_flatMap_span tokens⟩
    rw [withoutTags_flatMap_span, decode_escape]
  · intro t state text
    rw [source?_write, t.texts_tokenizeFrom]

end Html

end Highlighter
