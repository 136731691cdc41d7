/-
# JSON documents as values

Any document can be read as a value (`JsonValue`), whatever its form is (`Json.value`): the elements
of an array and the members of an object are read one after the other and kept in their order, also
those that have the same name.

What is written as an object is read as one (`Json.readsAs_object`), and so is an array that has
blanks between its elements or not (`Json.value_array`), if what is in them is read back.
-/
import Highlighter.Proofs.Json.ReadBack
import Mathlib.Data.List.Forall2

namespace Highlighter

/-- A JSON value. -/
inductive JsonValue where
  | null
  | boolean (value : Bool)
  | number (n : JsonNumber)
  | string (text : List Char)
  | array (elements : List JsonValue)
  | object (members : List (List Char × JsonValue))

namespace Json

/-! ## 1. Reading any value -/

/-- A value that holds no other. -/
def single : JsonReader JsonValue := fun cs =>
  match blank cs with
  | 'n' :: cs => (orMalformed (word? ['u', 'l', 'l'] cs)).map fun rest => (.null, rest)
  | 't' :: cs => (orMalformed (word? ['r', 'u', 'e'] cs)).map fun rest => (.boolean true, rest)
  | 'f' :: cs =>
    (orMalformed (word? ['a', 'l', 's', 'e'] cs)).map fun rest => (.boolean false, rest)
  | '"' :: cs => (orMalformed (readString cs)).map fun (text, rest) => (.string text, rest)
  | cs => (orMalformed (JsonNumber.read cs)).map fun (n, rest) => (.number n, rest)

/-- The elements of a sequence from a place on, and what follows the bracket that closes it. -/
def elementsFrom {α : Type} (reader : JsonReader α) :
    (fuel : Nat) → (isFirst : Bool) → JsonReader (List α)
  | 0, _, _ => .error .malformed
  | fuel + 1, isFirst, cs => do
    match ← element isFirst cs with
    | none => return ([], ← sequenceEnd cs)
    | some cs =>
      let (a, rest) ← reader cs
      let (as, rest) ← elementsFrom reader fuel false rest
      return (a :: as, rest)

/-- The elements of a sequence after its opening bracket.  Each takes one character at least. -/
def elements {α : Type} (reader : JsonReader α) : JsonReader (List α) := fun cs =>
  elementsFrom reader (cs.length + 1) true cs

/-- The members of an object read so far, with one more that is called `name`. -/
def namedValue (reader : JsonReader JsonValue) (before : List (List Char × JsonValue))
    (name : List Char) : Except JsonError (JsonReader (List (List Char × JsonValue))) :=
  .ok fun cs => (reader cs).map fun (v, rest) => (before ++ [(name, v)], rest)

/-- A value, with arrays and objects in each other no more than `depth` deep. -/
def value : (depth : Nat) → JsonReader JsonValue
  | 0, cs => single cs
  | depth + 1, cs =>
    match blank cs with
    | '[' :: cs => (elements (value depth) cs).map fun (vs, rest) => (.array vs, rest)
    | '\x7b' :: cs =>
      (members (namedValue (value depth)) [] cs).map fun (ms, rest) => (.object ms, rest)
    | cs => single cs

/-- How deep arrays and objects can stand in each other. -/
def maxDepth : Nat := 127

/-- The value that a document holds. -/
def documentValue (text : String) : Except JsonError JsonValue := document (value maxDepth) text

/-! ## 2. Single values -/

theorem isBlank_of_not_mem {c : Char} (h : c ∉ closers) : isBlank c = false := by
  simp only [closers, List.mem_cons, List.not_mem_nil, or_false, not_or] at h
  obtain ⟨-, -, -, hspace, hfeed, htab, hreturn⟩ := h
  simp [isBlank, hspace, hfeed, htab, hreturn]

theorem value_of_single {c : Char} (hblank : isBlank c = false) (hsequence : c ≠ '[')
    (hmap : c ≠ '\x7b') (depth : Nat) (cs : List Char) :
    value depth (c :: cs) = single (c :: cs) := by
  cases depth with
  | zero => rfl
  | succ depth =>
    unfold value
    rw [blank_cons hblank]
    split
    · rename_i heq
      exact absurd (List.cons.inj heq).1 hsequence
    · rename_i heq
      exact absurd (List.cons.inj heq).1 hmap
    · rfl

theorem readsAs_string (depth : Nat) (text : List Char) :
    ReadsAs (value depth) (quote text) (.string text) := by
  intro rest _
  rw [quote_append, value_of_single (by decide) (by decide) (by decide), single,
    blank_cons (by decide)]
  simp [readString_quote, orMalformed, Except.map]

/-- A string, or `null` for none. -/
def ofOptional : Option (List Char) → JsonValue
  | some text => .string text
  | none => .null

theorem ofOptional_injective : Function.Injective ofOptional := by
  intro text? other? h
  cases text? <;> cases other? <;> simp_all [ofOptional]

theorem readsAs_optionalString (depth : Nat) (text? : Option (List Char)) :
    ReadsAs (value depth) (writeOptionalString text?) (ofOptional text?) := by
  cases text? with
  | some text => exact readsAs_string depth text
  | none =>
    intro rest _
    rw [writeOptionalString, List.cons_append,
      value_of_single (by decide) (by decide) (by decide), single, blank_cons (by decide)]
    rfl

theorem readsAs_boolean (depth : Nat) (b : Bool) :
    ReadsAs (value depth) (writeBoolean b) (.boolean b) := by
  intro rest _
  cases b <;>
    rw [writeBoolean, List.cons_append, value_of_single (by decide) (by decide) (by decide), single,
      blank_cons (by decide)] <;>
    rfl

theorem ne_of_isAsciiDigit {c d : Char} (hc : CharClass.isAsciiDigit c = true)
    (hd : CharClass.isAsciiDigit d = false) : c ≠ d := by
  rintro rfl
  rw [hc] at hd
  cases hd

theorem isBlank_of_isAsciiDigit {c : Char} (h : CharClass.isAsciiDigit c = true) :
    isBlank c = false :=
  isBlank_of_not_mem fun hmem => ne_of_isAsciiDigit h (isAsciiDigit_of_mem_closers hmem) rfl

/-- A digit begins a number and nothing else. -/
theorem single_of_isAsciiDigit {c : Char} (h : CharClass.isAsciiDigit c = true) (cs : List Char) :
    single (c :: cs) =
      (orMalformed (JsonNumber.read (c :: cs))).map fun (n, rest) => (.number n, rest) := by
  unfold single
  rw [blank_cons (isBlank_of_isAsciiDigit h)]
  split
  case h_5 => rfl
  all_goals
    rename_i heq
    exact absurd (List.cons.inj heq).1 (ne_of_isAsciiDigit h (by decide))

theorem readsAs_natural (depth : Nat) {n : Nat} (h : n ≤ JsonNumber.maxNatural) :
    ReadsAs (value depth) (writeNatural n) (.number (.natural n)) := by
  intro rest hrest
  have hread := JsonNumber.read_writeNatural h hrest
  obtain ⟨d, ds, hds, hd⟩ := Digits.exists_toDigits_eq_cons n
  have hwritten : writeNatural n ++ rest = d :: (ds ++ rest) := congrArg (· ++ rest) hds
  rw [hwritten] at hread ⊢
  rw [value_of_single (isBlank_of_isAsciiDigit hd) (ne_of_isAsciiDigit hd (by decide))
    (ne_of_isAsciiDigit hd (by decide)), single_of_isAsciiDigit hd, hread]
  rfl

/-! ## 3. Objects -/

section

variable {reader : JsonReader JsonValue} {ms : List (List Char × List Char)}
  {fields : List (List Char × JsonValue)}

/-- What is written for members is read as fields with the same names. -/
def ReadsFields (reader : JsonReader JsonValue) (ms : List (List Char × List Char))
    (fields : List (List Char × JsonValue)) : Prop :=
  List.Forall₂ (fun m f => m.1 = f.1 ∧ ReadsAs reader m.2 f.2) ms fields

theorem leads_namedValue (h : ReadsFields reader ms fields)
    (before : List (List Char × JsonValue)) :
    Leads (namedValue reader) before ms (before ++ fields) := by
  induction h generalizing before with
  | nil => rw [List.append_nil]; exact .nil before
  | @cons m f ms fields hm _ ih =>
    obtain ⟨hname, hvalue⟩ := hm
    have hhere : ReadsAs
        (fun cs => (reader cs).map fun (v, rest) => (before ++ [(m.1, v)], rest)) m.2
        (before ++ [f]) := by
      intro rest hrest
      dsimp only
      rw [hvalue rest hrest, hname]
      rfl
    have hlater := ih (before ++ [f])
    rw [List.append_assoc, List.singleton_append] at hlater
    exact .cons rfl hhere hlater

/-- **What is written as an object is read as an object**, with its members in order. -/
theorem readsAs_object {depth : Nat} (h : ReadsFields (value depth) ms fields) :
    ReadsAs (value (depth + 1)) (writeMembers ms) (.object fields) := by
  intro rest _
  have hmembers := members_writeMembers (leads_namedValue h []) rest
  rw [writeMembers_append, value, blank_cons (by decide)]
  simp only [hmembers]
  rfl

end

/-! ## 4. Arrays -/

section

variable {α : Type} {reader : JsonReader α} {ws : List (List Char)} {as : List α}
  {indent finish rest : List Char}

theorem blank_append (h : ∀ c ∈ indent, isBlank c = true) (cs : List Char) :
    blank (indent ++ cs) = blank cs :=
  List.dropWhile_append_of_pos h

/-- What is written begins with something that cannot stand behind a value. -/
def Begins (written : List Char) : Prop := ∃ c more, written = c :: more ∧ c ∉ closers

theorem Begins.blank {w : List Char} (h : Begins w) (rest : List Char) :
    blank (w ++ rest) = w ++ rest := by
  obtain ⟨c, more, rfl, hc⟩ := h
  exact blank_cons (isBlank_of_not_mem hc) _

theorem closes_of_blank (h : blank finish = ']' :: rest) : Closes finish := by
  intro c hc
  cases finish with
  | nil => cases hc
  | cons d ds =>
    cases hc
    by_contra hmem
    rw [blank_cons (isBlank_of_not_mem hmem)] at h
    rw [(List.cons.inj h).1] at hmem
    exact hmem (by decide)

theorem element_first {w : List Char} (hindent : ∀ c ∈ indent, isBlank c = true) (hw : Begins w)
    (rest : List Char) : element true (indent ++ (w ++ rest)) = .ok (some (w ++ rest)) := by
  unfold element
  rw [blank_append hindent, hw.blank]
  obtain ⟨c, more, rfl, hc⟩ := hw
  have hne {d : Char} (hd : d ∈ closers) : c ≠ d := fun heq => hc (heq ▸ hd)
  rw [List.cons_append]
  split
  · rename_i heq
    exact absurd (List.cons.inj heq).1 (hne (by decide))
  · rename_i heq
    exact absurd (List.cons.inj heq).1 (hne (by decide))
  · rename_i heq
    cases heq
  · rfl

theorem element_later {w : List Char} (hindent : ∀ c ∈ indent, isBlank c = true) (hw : Begins w)
    (rest : List Char) : element false (',' :: (indent ++ (w ++ rest))) = .ok (some (w ++ rest)) := by
  unfold element
  rw [blank_cons (by decide)]
  simp only [Bool.false_eq_true, if_false, blank_append hindent, hw.blank]
  obtain ⟨c, more, rfl, hc⟩ := hw
  rw [List.cons_append]
  split
  · rename_i heq
    cases heq
  · rename_i heq
    exact absurd (by decide) ((List.cons.inj heq).1 ▸ hc)
  · rfl

theorem element_end (h : blank finish = ']' :: rest) (isFirst : Bool) :
    element isFirst finish = .ok none := by
  rw [element, h]
  rfl

theorem elementsFrom_end (h : blank finish = ']' :: rest) (isFirst : Bool) (fuel : Nat) :
    elementsFrom reader (fuel + 1) isFirst finish = .ok ([], rest) := by
  rw [elementsFrom, element_end h]
  simp [sequenceEnd, h, bind, Except.bind, pure, Except.pure]

/-- One element is read. -/
theorem elementsFrom_succ {isFirst : Bool} {cs w : List Char} {a : α} {rest : List Char}
    (hnext : element isFirst cs = .ok (some (w ++ rest))) (here : ReadsAs reader w a)
    (hrest : Closes rest) (fuel : Nat) :
    elementsFrom reader (fuel + 1) isFirst cs =
      (elementsFrom reader fuel false rest).map fun (as, rest) => (a :: as, rest) := by
  conv_lhs => unfold elementsFrom
  rw [hnext]
  simp only [bind, Except.bind, here rest hrest]
  cases elementsFrom reader fuel false rest <;> rfl

theorem elementsFrom_later (hindent : ∀ c ∈ indent, isBlank c = true)
    (h : List.Forall₂ (fun w a => Begins w ∧ ReadsAs reader w a) ws as)
    (hfinish : blank finish = ']' :: rest) {fuel : Nat} (hfuel : ws.length < fuel) :
    elementsFrom reader fuel false
      ((ws.map (indent ++ ·)).flatMap (',' :: ·) ++ finish) = .ok (as, rest) := by
  induction h generalizing fuel with
  | nil =>
    obtain ⟨fuel, rfl⟩ := Nat.exists_eq_succ_of_ne_zero (Nat.ne_of_gt hfuel)
    exact elementsFrom_end hfinish false fuel
  | @cons w a ws as hw _ ih =>
    obtain ⟨fuel, rfl⟩ := Nat.exists_eq_succ_of_ne_zero (Nat.ne_zero_of_lt hfuel)
    rw [List.map_cons, List.flatMap_cons, List.append_assoc, List.cons_append, List.append_assoc,
      elementsFrom_succ (element_later hindent hw.1 _) hw.2
        (closes_flatMap _ (closes_of_blank hfinish)), ih (Nat.lt_of_succ_lt_succ hfuel)]
    rfl

/-- **The elements of an array are read back**, with blanks before each of them and before the
bracket that closes it. -/
theorem elements_intercalate (hindent : ∀ c ∈ indent, isBlank c = true)
    (h : List.Forall₂ (fun w a => Begins w ∧ ReadsAs reader w a) ws as)
    (hfinish : blank finish = ']' :: rest) :
    elements reader ([','].intercalate (ws.map (indent ++ ·)) ++ finish) = .ok (as, rest) := by
  unfold elements
  cases h with
  | nil => exact elementsFrom_end hfinish true _
  | @cons w a ws as hw hws =>
    rw [List.map_cons, intercalate_cons, List.append_assoc, List.append_assoc,
      elementsFrom_succ (element_first hindent hw.1 _) hw.2
        (closes_flatMap _ (closes_of_blank hfinish)), elementsFrom_later hindent hws hfinish]
    · rfl
    -- There are enough characters for all elements, so that the fuel does not run out.
    · have hlength :=
        length_le_length_flatMap (f := (',' :: ·)) (List.cons_ne_nil ',') (ws.map (indent ++ ·))
      rw [List.length_map] at hlength
      obtain ⟨c, more, rfl, -⟩ := hw.1
      simp only [List.length_append, List.length_cons]
      omega

/-- **What is written as an array is read as an array**, with its elements in order. -/
theorem value_array {depth : Nat} {vs : List JsonValue}
    (hindent : ∀ c ∈ indent, isBlank c = true)
    (h : List.Forall₂ (fun w v => Begins w ∧ ReadsAs (value depth) w v) ws vs)
    (hfinish : blank finish = ']' :: rest) :
    value (depth + 1) ('[' :: ([','].intercalate (ws.map (indent ++ ·)) ++ finish)) =
      .ok (.array vs, rest) := by
  have helements := elements_intercalate hindent h hfinish
  rw [value, blank_cons (by decide)]
  simp only [helements]
  rfl

end

end Json

end Highlighter
