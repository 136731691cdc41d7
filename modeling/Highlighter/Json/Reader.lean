/-
# Reading JSON as values of a type

A document is read from left to right by a reader that knows what it wants (`JsonReader`), so the
first thing that is wrong is the error, be it a malformed document or a value of the wrong form.
What comes after it is not looked at.

There are readers for booleans, sizes, strings and missing values, and two for compound values:
`Json.members` goes through the members of a map, `Json.element` asks a sequence for its next
element.
-/
import Highlighter.Json.Number
import Highlighter.Json.Text

namespace Highlighter

/-- Reads a value at the beginning of a text. -/
abbrev JsonReader (α : Type) := List Char → Except JsonError (α × List Char)

namespace Json

/-! ## 1. Blanks, words and anything at all -/

/-- Whether a character may stand between the parts of a document. -/
def isBlank (c : Char) : Bool := c == ' ' || c == '\n' || c == '\t' || c == '\r'

/-- Skip blanks. -/
def blank (cs : List Char) : List Char := cs.dropWhile isBlank

/-- What follows a word, if it is there. -/
def word? (w : List Char) (cs : List Char) : Option (List Char) :=
  if w.isPrefixOf cs then some (cs.drop w.length) else none

/-- A result that is missing only if the document is malformed. -/
def orMalformed {α : Type} : Option α → Except JsonError α
  | some a => .ok a
  | none => .error .malformed

/-- What stands at the beginning of a text.  Of a sequence or a map only the bracket is looked
at. -/
def found (cs : List Char) : Except JsonError JsonFound :=
  match blank cs with
  | 'n' :: cs => (orMalformed (word? ['u', 'l', 'l'] cs)).map fun _ => .null
  | 't' :: cs => (orMalformed (word? ['r', 'u', 'e'] cs)).map fun _ => .boolean true
  | 'f' :: cs => (orMalformed (word? ['a', 'l', 's', 'e'] cs)).map fun _ => .boolean false
  | '"' :: cs => (orMalformed (readString cs)).map fun (text, _) => .string text
  | '[' :: _ => .ok .sequence
  | '\x7b' :: _ => .ok .map
  | cs => (orMalformed (JsonNumber.read cs)).map fun (n, _) => n.found

/-- Refuse what stands at the beginning of a text. -/
def mismatch {α : Type} (expected : String) : JsonReader α := fun cs => do
  throw (.data (.invalidType (← found cs) expected))

/-! ## 2. Single values -/

/-- A boolean. -/
def boolean : JsonReader Bool := fun cs =>
  match blank cs with
  | 't' :: cs => (orMalformed (word? ['r', 'u', 'e'] cs)).map fun rest => (true, rest)
  | 'f' :: cs => (orMalformed (word? ['a', 'l', 's', 'e'] cs)).map fun rest => (false, rest)
  | cs => mismatch "a boolean" cs

/-- A string. -/
def string : JsonReader (List Char) := fun cs =>
  match blank cs with
  | '"' :: cs => orMalformed (readString cs)
  | cs => mismatch "a string" cs

/-- A string, or `null` for none. -/
def optionalString : JsonReader (Option (List Char)) := fun cs =>
  match blank cs with
  | 'n' :: cs => (orMalformed (word? ['u', 'l', 'l'] cs)).map fun rest => (none, rest)
  | cs => (string cs).map fun (text, rest) => (some text, rest)

/-- Whether a character begins a number. -/
def beginsNumber (c : Char) : Bool := c == '-' || CharClass.isAsciiDigit c

/-- A whole number from zero up. -/
def size : JsonReader Nat := fun cs =>
  let cs := blank cs
  if cs.head?.any beginsNumber then do
    match ← orMalformed (JsonNumber.read cs) with
    | (.natural n, rest) => return (n, rest)
    | (n@(.negative _), _) => throw (.data (.invalidValue n.found "usize"))
    | (n@(.float _ _), _) => throw (.data (.invalidType n.found "usize"))
  else mismatch "usize" cs

/-! ## 3. Compound values -/

/-- Go to the next element of a sequence: where it begins, or nothing at the closing bracket. -/
def element (isFirst : Bool) (cs : List Char) : Except JsonError (Option (List Char)) :=
  match blank cs with
  | ']' :: _ => .ok none
  | ',' :: rest =>
    if isFirst then .ok (some (',' :: rest))
    else
      match blank rest with
      | [] => .error .malformed
      | ']' :: _ => .error .malformed
      | cs => .ok (some cs)
  | [] => .error .malformed
  | cs => if isFirst then .ok (some cs) else .error .malformed

/-- The end of a sequence. -/
def sequenceEnd (cs : List Char) : Except JsonError (List Char) :=
  match blank cs with
  | ']' :: rest => .ok rest
  | _ => .error .malformed

/-- Go to the next member of a map: its key and where its colon should be, or nothing and what
follows the closing brace. -/
def key (isFirst : Bool) (cs : List Char) :
    Except JsonError (Option (List Char) × List Char) :=
  let named (cs : List Char) : Except JsonError (Option (List Char) × List Char) :=
    match cs with
    | '"' :: cs => (orMalformed (readString cs)).map fun (text, rest) => (some text, rest)
    | _ => .error .malformed
  match blank cs with
  | '\x7d' :: rest => .ok (none, rest)
  | ',' :: rest => if isFirst then .error .malformed else named (blank rest)
  | cs => if isFirst then named cs else .error .malformed

/-- What follows the colon between a key and its value. -/
def colon (cs : List Char) : Except JsonError (List Char) :=
  match blank cs with
  | ':' :: rest => .ok rest
  | _ => .error .malformed

/-- Go through the members of a map after its opening brace.  `member` looks at a key and says how
its value is read into the result so far. -/
def membersFrom {σ : Type} (member : σ → List Char → Except JsonError (JsonReader σ)) :
    (fuel : Nat) → (isFirst : Bool) → σ → JsonReader σ
  | 0, _, _, _ => .error .malformed
  | fuel + 1, isFirst, state, cs => do
    match ← key isFirst cs with
    | (none, rest) => return (state, rest)
    | (some name, rest) =>
      let reader ← member state name
      let (state, rest) ← reader (← colon rest)
      membersFrom member fuel false state rest

/-- Go through the members of a map after its opening brace. -/
def members {σ : Type} (member : σ → List Char → Except JsonError (JsonReader σ)) (start : σ) :
    JsonReader σ :=
  fun cs => membersFrom member (cs.length + 1) true start cs

/-- A value with named parts, given as a map or as a sequence of the parts in their order. -/
def record {α : Type} (expected : String) (fromMap fromSequence : JsonReader α) : JsonReader α :=
  fun cs =>
    match blank cs with
    | '\x7b' :: cs => fromMap cs
    | '[' :: cs => do
      let (value, rest) ← fromSequence cs
      return (value, ← sequenceEnd rest)
    | cs => mismatch expected cs

/-- The next element of a sequence read by `reader`, or `missing` if the sequence is over. -/
def elementOr {α : Type} (isFirst : Bool) (reader : JsonReader α) (missing : α) : JsonReader α :=
  fun cs => do
    match ← element isFirst cs with
    | none => return (missing, cs)
    | some cs => reader cs

/-- The next element of a sequence that has to be long enough. -/
def elementOf {α : Type} (index : Nat) (reader : JsonReader α) (expected : String) :
    JsonReader α :=
  fun cs => do
    match ← element (index == 0) cs with
    | none => throw (.data (.invalidLength index expected))
    | some cs => reader cs

/-- A part that may be given once. -/
def once {α σ : Type} (name : String) (current : Option α) (reader : JsonReader α)
    (put : α → σ) : Except JsonError (JsonReader σ) :=
  match current with
  | some _ => .error (.data (.duplicateField name))
  | none => .ok fun cs => (reader cs).map fun (value, rest) => (put value, rest)

/-! ## 4. Anything -/

/-- Pass over a value that holds no other. -/
def skipSingle : List Char → Option (List Char)
  | '"' :: cs => skipString cs
  | 'n' :: cs => word? ['u', 'l', 'l'] cs
  | 't' :: cs => word? ['r', 'u', 'e'] cs
  | 'f' :: cs => word? ['a', 'l', 's', 'e'] cs
  | cs => JsonNumber.skip cs

/-- Pass over the comma before a part of a compound value, unless the part is the first one. -/
def skipComma (isFirst : Bool) (cs : List Char) : Option (List Char) :=
  if isFirst then some cs
  else
    match cs with
    | ',' :: rest => some (blank rest)
    | _ => none

/-- Pass over a key and its colon. -/
def skipKey : List Char → Option (List Char)
  | '"' :: cs =>
    match (skipString cs).map blank with
    | some (':' :: cs) => some cs
    | _ => none
  | _ => none

/-- The bracket that closes what another one opened. -/
def closing (bracket : Char) : Char := if bracket == '[' then ']' else '\x7d'

/-- Go to the next value inside a bracket. -/
def skipToValue (bracket : Char) (isFirst : Bool) (cs : List Char) : Option (List Char) :=
  ((skipComma isFirst cs).bind fun cs => if bracket == '[' then some cs else skipKey cs).map blank

/-- Pass over the rest of a value; `enclosing` holds the brackets that are open, innermost first,
and `isFirst` says that the innermost was just opened. -/
def skipRest : (fuel : Nat) → (enclosing : List Char) → (isFirst : Bool) →
    List Char → Option (List Char)
  | 0, _, _, _ => none
  | fuel + 1, enclosing, isFirst, cs =>
    match enclosing with
    | [] => some cs
    | bracket :: outer =>
      match blank cs with
      | [] => none
      | c :: rest =>
        if c == closing bracket then skipRest fuel outer false rest
        else
          match skipToValue bracket isFirst (c :: rest) with
          | none => none
          | some ('[' :: cs) => skipRest fuel ('[' :: enclosing) true cs
          | some ('\x7b' :: cs) => skipRest fuel ('\x7b' :: enclosing) true cs
          | some cs =>
            match skipSingle cs with
            | some rest => skipRest fuel enclosing false rest
            | none => none

/-- Pass over a value, whatever it is. -/
def ignore : JsonReader Unit := fun cs =>
  let skipped :=
    match blank cs with
    | '[' :: cs => skipRest (cs.length + 1) ['['] true cs
    | '\x7b' :: cs => skipRest (cs.length + 1) ['\x7b'] true cs
    | cs => skipSingle cs
  (orMalformed skipped).map fun rest => ((), rest)

/-! ## 5. Documents -/

/-- Read a whole document. -/
def document {α : Type} (reader : JsonReader α) (text : String) : Except JsonError α := do
  let (value, rest) ← reader text.toList
  if (blank rest).isEmpty then return value else throw .malformed

end Json

end Highlighter
