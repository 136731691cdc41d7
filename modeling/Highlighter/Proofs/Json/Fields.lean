/-
# Reading what an object holds

The reader of a type goes through a document itself, it is not handed a value that was read before.
It comes to the same: `Json.ReadsValue` says that wherever a document has a certain value, the
reader reads the right thing there and goes just as far.

* The readers for single values do (`readsValue_boolean`, `readsValue_optionalString`,
  `readsValue_size`).
* **A reader of members reads an object** if it can take its members one after the other
  (`LeadsTo.readsValue_record`), by induction on the steps through the members.
* The order of members makes no difference to a reader that only keeps which of them it has seen
  (`leadsTo_of_forall₂`).  Nor do members make one that say what is taken for granted without them:
  **a record is read from every object that holds its fields** (`Holds.readsValue_record`).
-/
import Highlighter.Proofs.Checks
import Highlighter.Proofs.Json.Value
import Mathlib.Data.List.DropRight

namespace Highlighter

namespace Json

/-! ## 1. Values and readers -/

/-- Wherever there is the value `v`, the reader reads `a`. -/
def ReadsValue {α : Type} (reader : JsonReader α) (v : JsonValue) (a : α) : Prop :=
  ∀ depth cs rest, value depth cs = .ok (v, rest) → reader cs = .ok (a, rest)

section

variable {α β : Type} {reader : JsonReader α} {v : JsonValue} {a : α}

theorem ReadsValue.map (h : ReadsValue reader v a) (put : α → β) :
    ReadsValue (fun cs => (reader cs).map fun (value, rest) => (put value, rest)) v (put a) := by
  intro depth cs rest hv
  dsimp only
  rw [h depth cs rest hv]
  rfl

/-- A document is what is read from its beginning, if only blanks follow. -/
theorem document_eq_ok_iff {text : String} : document reader text = .ok a ↔
    ∃ rest, reader text.toList = .ok (a, rest) ∧ (blank rest).isEmpty = true := by
  rw [document, Checks.bind_eq_ok_iff]
  constructor
  · rintro ⟨⟨a', rest⟩, hread, h⟩
    dsimp only at h
    split at h
    · rename_i hend
      obtain rfl := Except.ok.inj h
      exact ⟨rest, hread, hend⟩
    · cases h
  · rintro ⟨rest, hread, hend⟩
    exact ⟨_, hread, if_pos hend⟩

/-- **A document is read as its value is.** -/
theorem ReadsValue.document {text : String} (h : ReadsValue reader v a)
    (hv : documentValue text = .ok v) : document reader text = .ok a := by
  obtain ⟨rest, hread, hend⟩ := document_eq_ok_iff.mp hv
  exact document_eq_ok_iff.mpr ⟨rest, h maxDepth _ _ hread, hend⟩

end

/-- What is written for a value is a document with that value. -/
theorem ReadsAs.documentValue {written : List Char} {v : JsonValue}
    (h : ReadsAs (value maxDepth) written v) :
    documentValue (String.ofList written) = .ok v := by
  have hread := h [] fun c hc => by cases hc
  rw [List.append_nil] at hread
  refine document_eq_ok_iff.mpr ⟨[], ?_, rfl⟩
  rw [String.toList_ofList, hread]

/-! ## 2. Single values -/

theorem orMalformed_eq_ok {α : Type} {o : Option α} {a : α} (h : orMalformed o = .ok a) :
    o = some a := by
  cases o with
  | none => cases h
  | some a => exact congrArg some (Except.ok.inj h)

theorem blank_blank (cs : List Char) : blank (blank cs) = blank cs :=
  List.dropWhile_idempotent isBlank cs

/-- How a value that holds no other stands at the beginning of a text. -/
inductive Single (rest : List Char) : List Char → JsonValue → Prop
  | null {cs : List Char} (h : word? ['u', 'l', 'l'] cs = some rest) : Single rest ('n' :: cs) .null
  | yes {cs : List Char} (h : word? ['r', 'u', 'e'] cs = some rest) :
    Single rest ('t' :: cs) (.boolean true)
  | no {cs : List Char} (h : word? ['a', 'l', 's', 'e'] cs = some rest) :
    Single rest ('f' :: cs) (.boolean false)
  | string {cs text : List Char} (h : readString cs = some (text, rest)) :
    Single rest ('"' :: cs) (.string text)
  | number {cs : List Char} {n : JsonNumber} (h : JsonNumber.read cs = some (n, rest)) :
    Single rest cs (.number n)

theorem single_eq_ok {cs rest : List Char} {v : JsonValue} (h : single cs = .ok (v, rest)) :
    Single rest (blank cs) v := by
  unfold single at h
  generalize blank cs = text at h ⊢
  split at h
  all_goals
    obtain ⟨_, hread, heq⟩ := Checks.map_eq_ok_iff.mp h
    obtain ⟨rfl, rfl⟩ := Prod.mk.inj heq
  · exact .null (orMalformed_eq_ok hread)
  · exact .yes (orMalformed_eq_ok hread)
  · exact .no (orMalformed_eq_ok hread)
  · exact .string (orMalformed_eq_ok hread)
  · exact .number (orMalformed_eq_ok hread)

/-- How any value stands at the beginning of a text. -/
theorem value_eq_ok {depth : Nat} {cs rest : List Char} {v : JsonValue}
    (h : value depth cs = .ok (v, rest)) :
    (∃ vs, v = .array vs) ∨
    (∃ inside ms inner, blank cs = '\x7b' :: inside ∧ v = .object ms ∧
      members (namedValue (value inner)) [] inside = .ok (ms, rest)) ∨
    Single rest (blank cs) v := by
  cases depth with
  | zero => exact .inr (.inr (single_eq_ok h))
  | succ depth =>
    unfold value at h
    split at h
    · obtain ⟨_, _, heq⟩ := Checks.map_eq_ok_iff.mp h
      exact .inl ⟨_, (Prod.mk.inj heq).1.symm⟩
    · rename_i inside hblank
      obtain ⟨⟨ms, _⟩, hread, heq⟩ := Checks.map_eq_ok_iff.mp h
      obtain ⟨rfl, rfl⟩ := Prod.mk.inj heq
      exact .inr (.inl ⟨inside, ms, depth, hblank, rfl, hread⟩)
    · have hsingle := single_eq_ok h
      rw [blank_blank] at hsingle
      exact .inr (.inr hsingle)

/-- A value that is no array and no object holds no other, and is read where it stands. -/
theorem readsValue_of_single {α : Type} {reader : JsonReader α} {v : JsonValue} {a : α}
    (harray : ∀ vs, v ≠ .array vs) (hobject : ∀ ms, v ≠ .object ms)
    (h : ∀ cs text rest, blank cs = text → Single rest text v → reader cs = .ok (a, rest)) :
    ReadsValue reader v a := by
  intro depth cs rest hv
  rcases value_eq_ok hv with ⟨vs, rfl⟩ | ⟨_, ms, _, -, rfl, -⟩ | hsingle
  · exact absurd rfl (harray vs)
  · exact absurd rfl (hobject ms)
  · exact h cs _ rest rfl hsingle

theorem readsValue_boolean (b : Bool) : ReadsValue boolean (.boolean b) b := by
  refine readsValue_of_single (fun _ h => by cases h) (fun _ h => by cases h) ?_
  intro cs text rest hblank hsingle
  unfold boolean
  rw [hblank]
  cases hsingle with
  | yes hword => simp [hword, orMalformed, Except.map]
  | no hword => simp [hword, orMalformed, Except.map]

theorem readsValue_optionalString (text? : Option (List Char)) :
    ReadsValue optionalString (ofOptional text?) text? := by
  cases text? with
  | none =>
    refine readsValue_of_single (fun _ h => by cases h) (fun _ h => by cases h) ?_
    intro cs written rest hblank hsingle
    unfold optionalString
    rw [hblank]
    cases hsingle with
    | null hword => simp [hword, orMalformed, Except.map]
  | some text =>
    refine readsValue_of_single (fun _ h => by cases h) (fun _ h => by cases h) ?_
    intro cs written rest hblank hsingle
    unfold optionalString
    rw [hblank]
    cases hsingle with
    | string hread =>
      simp [string, blank_cons (c := '"') (by decide), hread, orMalformed, Except.map]

theorem beginsNumber_of_readWhole {cs : List Char} {found : List Char × List Char}
    (h : JsonNumber.readWhole cs = some found) : cs.head?.any beginsNumber = true := by
  cases cs with
  | nil => cases h
  | cons c cs =>
    by_cases hc : CharClass.isAsciiDigit c = true
    · simp [beginsNumber, hc]
    · have hdigits : JsonNumber.digits (c :: cs) = ([], c :: cs) := by
        simp [JsonNumber.digits, hc]
      rw [JsonNumber.readWhole, hdigits] at h
      cases h

/-- What is read as a number begins like one. -/
theorem beginsNumber_of_read {cs rest : List Char} {n : JsonNumber}
    (h : JsonNumber.read cs = some (n, rest)) : cs.head?.any beginsNumber = true := by
  obtain ⟨parts, hparts, -⟩ := Option.bind_eq_some_iff.mp h
  unfold JsonNumber.readParts at hparts
  split at hparts
  rename_i heq
  split at heq
  · rfl
  · obtain ⟨rfl, rfl⟩ := Prod.mk.inj heq
    obtain ⟨whole, hwhole, -⟩ := Option.bind_eq_some_iff.mp hparts
    exact beginsNumber_of_readWhole hwhole

theorem readsValue_size (n : Nat) : ReadsValue size (.number (.natural n)) n := by
  refine readsValue_of_single (fun _ h => by cases h) (fun _ h => by cases h) ?_
  intro cs text rest hblank hsingle
  unfold size
  rw [hblank]
  cases hsingle with
  | number hread =>
    simp [beginsNumber_of_read hread, hread, orMalformed, bind, Except.bind, pure, Except.pure]

/-! ## 3. Members of an object -/

section

variable {α σ : Type} {member : σ → List Char → Except JsonError (JsonReader σ)} {s t u : σ}
  {ms : List (List Char × JsonValue)}

/-- The members of an object, each of which the reader can take, lead it from one result so far to
another. -/
inductive LeadsTo (member : σ → List Char → Except JsonError (JsonReader σ)) :
    σ → List (List Char × JsonValue) → σ → Prop
  | nil (s : σ) : LeadsTo member s [] s
  | cons {s t u : σ} {m : List Char × JsonValue} {ms : List (List Char × JsonValue)}
      {reader : JsonReader σ} (known : member s m.1 = .ok reader) (here : ReadsValue reader m.2 t)
      (later : LeadsTo member t ms u) : LeadsTo member s (m :: ms) u

/-- **A reader that can take the members of an object goes through them**, along the steps in which
they are read as values. -/
theorem exists_membersFrom {depth fuel : Nat} {isFirst : Bool} {cs rest : List Char}
    {before all : List (List Char × JsonValue)}
    (h : membersFrom (namedValue (value depth)) fuel isFirst before cs = .ok (all, rest)) :
    ∃ ms, all = before ++ ms ∧
      ∀ s u, LeadsTo member s ms u → membersFrom member fuel isFirst s cs = .ok (u, rest) := by
  induction fuel generalizing isFirst before cs with
  | zero => cases h
  | succ fuel ih =>
    obtain ⟨⟨name?, behind⟩, hkey, h⟩ := Checks.bind_eq_ok_iff.mp h
    cases name? with
    | none =>
      obtain ⟨rfl, rfl⟩ := Prod.mk.inj (Except.ok.inj h)
      refine ⟨[], (List.append_nil _).symm, fun s u hleads => ?_⟩
      cases hleads
      unfold membersFrom
      rw [hkey]
      rfl
    | some name =>
      obtain ⟨reader, hreader, h⟩ := Checks.bind_eq_ok_iff.mp h
      obtain rfl := Except.ok.inj hreader
      obtain ⟨valued, hcolon, h⟩ := Checks.bind_eq_ok_iff.mp h
      obtain ⟨⟨before', rest'⟩, hvalue, h⟩ := Checks.bind_eq_ok_iff.mp h
      obtain ⟨⟨v, _⟩, hv, heq⟩ := Checks.map_eq_ok_iff.mp hvalue
      obtain ⟨rfl, rfl⟩ := Prod.mk.inj heq
      obtain ⟨ms, rfl, hmembers⟩ := ih h
      refine ⟨(name, v) :: ms, by simp, fun s u hleads => ?_⟩
      cases hleads with
      | @cons _ t _ _ _ reader known here later =>
        unfold membersFrom
        simp [hkey, known, hcolon, here depth _ _ hv, hmembers t u later, bind, Except.bind]

theorem LeadsTo.members {depth : Nat} {cs rest : List Char} (h : LeadsTo member s ms u)
    (hv : members (namedValue (value depth)) [] cs = .ok (ms, rest)) :
    members member s cs = .ok (u, rest) := by
  obtain ⟨_, rfl, hmembers⟩ := exists_membersFrom hv
  exact hmembers s u h

/-- What an object is read from. -/
theorem members_of_object {depth : Nat} {cs rest : List Char}
    (h : value depth cs = .ok (.object ms, rest)) : ∃ inside inner,
      blank cs = '\x7b' :: inside ∧ Json.members (namedValue (value inner)) [] inside =
        .ok (ms, rest) := by
  rcases value_eq_ok h with ⟨_, heq⟩ | ⟨inside, _, inner, hblank, heq, hmembers⟩ | hsingle
  · cases heq
  · obtain rfl := JsonValue.object.inj heq
    exact ⟨inside, inner, hblank, hmembers⟩
  · generalize blank cs = text at hsingle
    cases hsingle

/-- **A record is read from an object**, if its members are known. -/
theorem LeadsTo.readsValue_record (h : LeadsTo member s ms u) (expected : String)
    (complete : σ → α) (fromSequence : JsonReader α) :
    ReadsValue (record expected
      (fun cs => do let (t, rest) ← Json.members member s cs; return (complete t, rest))
      fromSequence) (.object ms) (complete u) := by
  intro depth cs rest hv
  obtain ⟨inside, inner, hblank, hmembers⟩ := members_of_object hv
  unfold record
  rw [hblank]
  simp [h.members hmembers, bind, Except.bind, pure, Except.pure]

end

/-! ## 4. Members in any order -/

section

variable {ι σ : Type} {member : σ → List Char → Except JsonError (JsonReader σ)}
  {ms : List (List Char × JsonValue)}

/-- **The order of members makes no difference** to a reader that only keeps which of them it has
seen, each one once. -/
theorem leadsTo_of_forall₂ {R : ι → List Char × JsonValue → Prop} {state : List ι → σ}
    (step : ∀ seen i m, i ∉ seen → R i m → ∃ reader, member (state seen) m.1 = .ok reader ∧
      ReadsValue reader m.2 (state (seen ++ [i])))
    {is : List ι} (h : List.Forall₂ R is ms) (hnodup : is.Nodup) :
    LeadsTo member (state []) ms (state is) := by
  -- By induction on the members, from any that were seen before.
  suffices hseen : ∀ seen : List ι, (seen ++ is).Nodup →
      LeadsTo member (state seen) ms (state (seen ++ is)) from hseen [] hnodup
  clear hnodup
  induction h with
  | nil =>
    intro seen _
    rw [List.append_nil]
    exact .nil _
  | @cons i m is ms hname _ ih =>
    intro seen hnodup
    have hi : i ∉ seen := by
      intro hmem
      exact (List.nodup_append.mp hnodup).2.2 i hmem i List.mem_cons_self rfl
    obtain ⟨reader, known, here⟩ := step seen i m hi hname
    rw [List.append_cons] at hnodup ⊢
    exact .cons known here (ih _ hnodup)

/-- The members of an object hold the fields of a record: each of them at most once, and none is
left out but such as are taken for granted. -/
structure Holds (fields granted ms : List (List Char × JsonValue)) : Prop where
  known : ∀ m ∈ ms, m ∈ fields
  once : (ms.map (·.1)).Nodup
  leftOut : ∀ f ∈ fields, f ∈ ms ∨ f ∈ granted

/-- All fields of a record hold it. -/
theorem holds_self {fields : List (List Char × JsonValue)} (h : (fields.map (·.1)).Nodup)
    (granted : List (List Char × JsonValue)) : Holds fields granted fields :=
  ⟨fun _ => id, h, fun _ => .inl⟩

/-- **A record is read from an object that holds its fields**, if each of them is read as it is and
the record is complete with those that are not granted. -/
theorem Holds.readsValue_record {α : Type} {fields granted : List (List Char × JsonValue)}
    (h : Holds fields granted ms) {state : List (List Char) → σ}
    (step : ∀ seen, ∀ m ∈ fields, m.1 ∉ seen → ∃ reader, member (state seen) m.1 = .ok reader ∧
      ReadsValue reader m.2 (state (seen ++ [m.1])))
    {complete : σ → α} {a : α}
    (hcomplete : ∀ names, (∀ f ∈ fields, f.1 ∈ names ∨ f ∈ granted) → complete (state names) = a)
    (expected : String) (fromSequence : JsonReader α) :
    ReadsValue (record expected
      (fun cs => do let (t, rest) ← Json.members member (state []) cs; return (complete t, rest))
      fromSequence) (.object ms) a := by
  have hleads : LeadsTo member (state []) ms (state (ms.map (·.1))) := by
    refine leadsTo_of_forall₂ (R := fun name m => name = m.1 ∧ m ∈ fields) ?_ ?_ h.once
    · rintro seen _ m hm ⟨rfl, hknown⟩
      exact step seen m hknown hm
    · rw [List.forall₂_map_left_iff, List.forall₂_same]
      exact fun m hm => ⟨rfl, h.known m hm⟩
  have hnames : ∀ f ∈ fields, f.1 ∈ ms.map (·.1) ∨ f ∈ granted :=
    fun f hf => (h.leftOut f hf).imp_left List.mem_map_of_mem
  rw [← hcomplete _ hnames]
  exact hleads.readsValue_record expected complete fromSequence

/-- A part, once a member with its name has been read. -/
def given? {α : Type} (names : List (List Char)) (name : String) (a : α) : Option α :=
  if name.toList ∈ names then some a else none

section

variable {α : Type} {names : List (List Char)} {name other : String}

theorem given?_of_not_mem (h : name.toList ∉ names) (a : α) : given? names name a = none :=
  if_neg h

@[simp] theorem given?_append_self (names : List (List Char)) (name : String) (a : α) :
    given? (names ++ [name.toList]) name a = some a :=
  if_pos (List.mem_append_right names (List.mem_singleton_self _))

theorem given?_append_of_ne (h : name ≠ other) (a : α) :
    given? (names ++ [other.toList]) name a = given? names name a := by
  have hname : name.toList ≠ other.toList := mt String.toList_inj.mp h
  simp [given?, hname]

/-- A part that is missing has the default, and no other value if none is left out. -/
theorem getD_given? {a default : α} (h : name.toList ∈ names ∨ a = default) :
    (given? names name a).getD default = a := by
  unfold given?
  split
  · rfl
  · rename_i hnot
    exact (h.resolve_left hnot).symm

end

/-- A part that was not given before is read. -/
theorem ReadsValue.once {α : Type} {reader : JsonReader α} {v : JsonValue} {a : α}
    (h : ReadsValue reader v a) (name : String) {current : Option α} (hcurrent : current = none)
    (put : α → σ) {t : σ} (hput : put a = t) :
    ∃ r, Json.once name current reader put = .ok r ∧ ReadsValue r v t := by
  subst hcurrent hput
  exact ⟨_, rfl, h.map put⟩

end

end Json

end Highlighter
