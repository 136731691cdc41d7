/-
# What is written in JSON is read back

A string and a whole number are read back from what is written for them (`Json.readString_quote`,
`JsonNumber.read_writeNatural`), and so are the members of a map, one after the other, if the value
of each one is (`Json.members_writeMembers`).

A number is read for as long as it goes on, so what is written can be read back only where something
stands behind it that ends a value (`Json.Closes`); `Json.ReadsAs` says that it is read back there.
-/
import Highlighter.Json.Reader
import Highlighter.Json.Writer
import Highlighter.Proofs.Text.Digits
import Mathlib.Data.List.TakeWhile

namespace Highlighter

/-! ## 1. Strings -/

namespace Json

theorem hexNumber?_hexDigit : ∀ n < 0x20,
    Digits.hexNumber? ['0', '0', hexDigit (n / 16), hexDigit n] = some n := by decide

/-- The code of a control character is read as that character. -/
theorem readChar_code {c : Char} (h : c.toNat < 0x20) (rest : List Char) :
    readChar ('\\' :: 'u' :: '0' :: '0' :: hexDigit (c.toNat / 16) :: hexDigit c.toNat :: rest) =
      some (c, rest) := by
  have hhigh : isHighUnit c.toNat = false := by
    simp only [isHighUnit, Bool.and_eq_false_iff, decide_eq_false_iff_not]
    omega
  have hlow : isLowUnit c.toNat = false := by
    simp only [isLowUnit, Bool.and_eq_false_iff, decide_eq_false_iff_not]
    omega
  simp [readChar, readCoded, readUnit, hexNumber?_hexDigit c.toNat h, hhigh, hlow,
    Char.ofNat_toNat]

theorem readChar_self {c : Char} (hcontrol : ¬ c.toNat < 0x20) (hquote : c ≠ '"')
    (hslash : c ≠ '\\') (rest : List Char) : readChar (c :: rest) = some (c, rest) := by
  unfold readChar
  split
  · rename_i heq
    cases heq
  · rename_i heq
    exact absurd (List.cons.inj heq).1 hslash
  · rename_i heq
    exact absurd (List.cons.inj heq).1 hslash
  · rename_i heq
    obtain ⟨rfl, rfl⟩ := List.cons.inj heq
    simp [hcontrol, hquote, hslash]

/-- **A character is read as itself**, however it is written. -/
theorem readChar_quoteChar (c : Char) (rest : List Char) :
    readChar (quoteChar c ++ rest) = some (c, rest) := by
  unfold quoteChar
  simp only [beq_iff_eq]
  split_ifs with hquote hslash hback htab hfeed hform hreturn hcontrol
  · subst hquote
    rfl
  · subst hslash
    rfl
  · subst hback
    rfl
  · subst htab
    rfl
  · subst hfeed
    rfl
  · subst hform
    rfl
  · subst hreturn
    rfl
  · exact readChar_code hcontrol rest
  · exact readChar_self hcontrol hquote hslash rest

/-- A character that can be read does not close the string. -/
theorem readStringFrom_succ {cs rest : List Char} {c : Char} (h : readChar cs = some (c, rest))
    (fuel : Nat) :
    readStringFrom (fuel + 1) cs =
      (readStringFrom fuel rest).map fun (text, rest) => (c :: text, rest) := by
  conv_lhs => unfold readStringFrom
  split
  · cases h
  · rw [h]
    dsimp only [Option.bind_eq_bind, Option.bind_some]
    cases readStringFrom fuel rest <;> rfl

theorem readStringFrom_quote (text rest : List Char) {fuel : Nat} (h : text.length < fuel) :
    readStringFrom fuel (text.flatMap quoteChar ++ '"' :: rest) = some (text, rest) := by
  induction text generalizing fuel with
  | nil =>
    obtain ⟨fuel, rfl⟩ := Nat.exists_eq_succ_of_ne_zero (Nat.ne_of_gt h)
    rfl
  | cons c cs ih =>
    obtain ⟨fuel, rfl⟩ := Nat.exists_eq_succ_of_ne_zero (Nat.ne_zero_of_lt h)
    have hfuel : cs.length < fuel := Nat.lt_of_succ_lt_succ h
    rw [List.flatMap_cons, List.append_assoc, readStringFrom_succ (readChar_quoteChar c _),
      ih hfuel, Option.map_some]

theorem quoteChar_ne_nil (c : Char) : quoteChar c ≠ [] := by
  unfold quoteChar
  split_ifs <;> exact List.cons_ne_nil _ _

/-- What is written for a list takes one character for each element at least. -/
theorem length_le_length_flatMap {α : Type} {f : α → List Char} (h : ∀ a, f a ≠ [])
    (as : List α) : as.length ≤ (as.flatMap f).length := by
  induction as with
  | nil => exact Nat.zero_le _
  | cons a as ih =>
    have ha := List.length_pos_iff.mpr (h a)
    rw [List.flatMap_cons, List.length_append, List.length_cons]
    omega

/-- **A string is read back**, whatever stands behind it. -/
theorem readString_quote (text rest : List Char) :
    readString (text.flatMap quoteChar ++ '"' :: rest) = some (text, rest) := by
  refine readStringFrom_quote text rest ?_
  have := length_le_length_flatMap quoteChar_ne_nil text
  rw [List.length_append, List.length_cons]
  omega

theorem quote_append (text rest : List Char) :
    quote text ++ rest = '"' :: (text.flatMap quoteChar ++ '"' :: rest) := by
  simp only [quote, List.append_assoc, List.cons_append, List.nil_append]

/-! ## 2. What stands behind a value -/

/-- The characters that can stand behind a value. -/
def closers : List Char := [',', ']', '\x7d', ' ', '\n', '\t', '\r']

theorem isAsciiDigit_of_mem_closers {c : Char} (h : c ∈ closers) :
    CharClass.isAsciiDigit c = false := by
  have hall : closers.all (fun c => !CharClass.isAsciiDigit c) = true := by decide
  simpa using List.all_eq_true.mp hall c h

/-- Nothing stands there, or something that can stand behind a value. -/
def Closes (rest : List Char) : Prop := ∀ c ∈ rest.head?, c ∈ closers

theorem closes_cons {c : Char} (h : c ∈ closers) (rest : List Char) : Closes (c :: rest) := by
  rintro d hd
  cases hd
  exact h

/-- The reader reads what is written as `a`, if something stands behind it that ends a value. -/
def ReadsAs {α : Type} (reader : JsonReader α) (written : List Char) (a : α) : Prop :=
  ∀ rest, Closes rest → reader (written ++ rest) = .ok (a, rest)

end Json

/-! ## 3. Numbers -/

namespace JsonNumber

open Json (Closes)

/-- **Digits are gathered as long as they stay within bounds**, and they do if the whole number
does. -/
theorem gather_eq {ds : List Char} {n : Nat} (h : Nat.ofDigitChars 10 ds n ≤ maxNatural) :
    gather n ds = (Nat.ofDigitChars 10 ds n, 0) := by
  induction ds generalizing n with
  | nil => rfl
  | cons d ds ih =>
    rw [Nat.ofDigitChars_cons] at h ⊢
    have hnext : 10 * n + (d.toNat - '0'.toNat) ≤ maxNatural := by
      rw [Nat.ofDigitChars_eq_ofDigitChars_zero] at h
      refine le_trans ?_ (le_trans (Nat.le_add_right _ _) h)
      exact Nat.le_mul_of_pos_left _ (Nat.pow_pos (by decide))
    rw [gather, if_pos hnext, ih h]

theorem digits_append {ds rest : List Char}
    (hds : ∀ d ∈ ds, CharClass.isAsciiDigit d = true) (hrest : Closes rest) :
    digits (ds ++ rest) = (ds, rest) := by
  have hnone : rest.takeWhile CharClass.isAsciiDigit = [] ∧
      rest.dropWhile CharClass.isAsciiDigit = rest := by
    cases rest with
    | nil => exact ⟨rfl, rfl⟩
    | cons c rest =>
      have hc := Json.isAsciiDigit_of_mem_closers (hrest c rfl)
      exact ⟨List.takeWhile_cons_of_neg (by simp [hc]), List.dropWhile_cons_of_neg (by simp [hc])⟩
  unfold digits
  rw [List.takeWhile_append_of_pos hds, List.dropWhile_append_of_pos hds, hnone.1, hnone.2,
    List.append_nil]

/-- The digits of a number are a whole part. -/
theorem readWhole_toDigits (n : Nat) {rest : List Char} (hrest : Closes rest) :
    readWhole (Nat.toDigits 10 n ++ rest) = some (Nat.toDigits 10 n, rest) := by
  have hdigits : digits (Nat.toDigits 10 n ++ rest) = (Nat.toDigits 10 n, rest) :=
    digits_append (fun d hd => Digits.isAsciiDigit_of_mem_toDigits hd) hrest
  unfold readWhole
  rw [hdigits]
  split
  · rename_i heq
    exact absurd (congrArg Prod.fst heq) Nat.toDigits_ne_nil
  · rename_i heq
    rw [(Prod.mk.inj heq).1, (Prod.mk.inj heq).2]
  · rename_i hsingle heq
    -- Only zero begins with a zero, and zero has no other digit.
    have hzero : n = 0 :=
      Digits.eq_zero_of_head?_toDigits (by rw [(Prod.mk.inj heq).1, List.head?_cons])
    rw [hzero] at heq
    exact absurd (List.cons.inj (Prod.mk.inj heq).1).2.symm hsingle
  · rename_i heq
    rw [(Prod.mk.inj heq).1, (Prod.mk.inj heq).2]

theorem readFraction_of_closes {rest : List Char} (h : Closes rest) :
    readFraction rest = some (none, rest) := by
  unfold readFraction
  split
  · exact absurd (h '.' rfl) (by decide)
  · rfl

theorem readExponent_of_closes {rest : List Char} (h : Closes rest) :
    readExponent rest = some (none, rest) := by
  cases rest with
  | nil => rfl
  | cons c rest =>
    have hall : Json.closers.all (fun c => !(c == 'e' || c == 'E')) = true := by decide
    have hc : (c == 'e' || c == 'E') = false := by simpa using List.all_eq_true.mp hall c (h c rfl)
    unfold readExponent
    simp [hc]

theorem readParts_toDigits (n : Nat) {rest : List Char} (hrest : Closes rest) :
    readParts (Nat.toDigits 10 n ++ rest) = some (⟨false, Nat.toDigits 10 n, none, none⟩, rest) := by
  have hminus (cs : List Char) : Nat.toDigits 10 n ++ rest ≠ '-' :: cs := by
    intro heq
    obtain ⟨d, ds, hds, hd⟩ := Digits.exists_toDigits_eq_cons n
    rw [hds] at heq
    rw [(List.cons.inj heq).1] at hd
    exact absurd hd (by decide)
  unfold readParts
  split
  rename_i heq
  split at heq
  · rename_i hcs
    exact absurd hcs (hminus _)
  · obtain ⟨rfl, rfl⟩ := Prod.mk.inj heq
    simp [readWhole_toDigits n hrest, readFraction_of_closes hrest, readExponent_of_closes hrest]

/-- **A whole number is read back** if it fits into 64 bits. -/
theorem read_writeNatural {n : Nat} (h : n ≤ maxNatural) {rest : List Char} (hrest : Closes rest) :
    read (Json.writeNatural n ++ rest) = some (.natural n, rest) := by
  have hgather : gather 0 (Nat.toDigits 10 n) = (n, 0) := by
    have hn : Nat.ofDigitChars 10 (Nat.toDigits 10 n) 0 = n := Nat.ofDigitChars_ten_toDigits
    rw [gather_eq (hn.symm ▸ h), hn]
  unfold read Json.writeNatural
  rw [readParts_toDigits n hrest]
  simp [value, hgather]

end JsonNumber

/-! ## 4. Maps -/

namespace Json

theorem blank_cons {c : Char} (h : isBlank c = false) (cs : List Char) :
    blank (c :: cs) = c :: cs :=
  List.dropWhile_cons_of_neg (by simp [h])

/-- Parts with commas between them: the first one, and a comma before each other one. -/
theorem intercalate_cons (part : List Char) (parts : List (List Char)) :
    [','].intercalate (part :: parts) = part ++ parts.flatMap (',' :: ·) := by
  induction parts generalizing part with
  | nil => rw [List.intercalate_singleton, List.flatMap_nil, List.append_nil]
  | cons next parts ih =>
    rw [List.intercalate_cons_cons, ih, List.flatMap_cons, List.append_assoc,
      List.singleton_append, List.cons_append]

/-- Behind a part stands a comma or what stands behind the last one. -/
theorem closes_flatMap (parts : List (List Char)) {rest : List Char} (h : Closes rest) :
    Closes (parts.flatMap (',' :: ·) ++ rest) := by
  cases parts with
  | nil => exact h
  | cons part parts => exact closes_cons (by decide) _

/-- A member as it is written. -/
def writeMember (m : List Char × List Char) : List Char := quote m.1 ++ [':'] ++ m.2

theorem writeMember_append (name written rest : List Char) :
    writeMember (name, written) ++ rest =
      '"' :: (name.flatMap quoteChar ++ '"' :: ':' :: (written ++ rest)) := by
  simp only [writeMember, quote, List.append_assoc, List.cons_append, List.nil_append]

theorem writeMembers_append (ms : List (List Char × List Char)) (rest : List Char) :
    writeMembers ms ++ rest =
      '\x7b' :: ([','].intercalate (ms.map writeMember) ++ '\x7d' :: rest) := by
  have hmembers : writeMembers ms =
      ['\x7b'] ++ [','].intercalate (ms.map writeMember) ++ ['\x7d'] := rfl
  rw [hmembers]
  simp only [List.append_assoc, List.cons_append, List.nil_append]

theorem key_first (name written rest : List Char) :
    key true (writeMember (name, written) ++ rest) =
      .ok (some name, ':' :: (written ++ rest)) := by
  rw [writeMember_append, key, blank_cons (by decide)]
  simp [readString_quote, orMalformed, Except.map]

theorem key_later (name written rest : List Char) :
    key false (',' :: (writeMember (name, written) ++ rest)) =
      .ok (some name, ':' :: (written ++ rest)) := by
  rw [writeMember_append, key, blank_cons (by decide)]
  simp [blank_cons (c := '"') (by decide), readString_quote, orMalformed, Except.map]

theorem key_end (isFirst : Bool) (rest : List Char) :
    key isFirst ('\x7d' :: rest) = .ok (none, rest) := by
  rw [key, blank_cons (by decide)]
  rfl

section

variable {σ : Type} {member : σ → List Char → Except JsonError (JsonReader σ)} {s t u : σ}

/-- Members that can be read one after the other, from one result so far to another. -/
inductive Leads (member : σ → List Char → Except JsonError (JsonReader σ)) :
    σ → List (List Char × List Char) → σ → Prop
  | nil (s : σ) : Leads member s [] s
  | cons {s t u : σ} {name written : List Char} {ms : List (List Char × List Char)}
      {reader : JsonReader σ} (known : member s name = .ok reader)
      (here : ReadsAs reader written t) (later : Leads member t ms u) :
      Leads member s ((name, written) :: ms) u

theorem membersFrom_end (isFirst : Bool) (fuel : Nat) (s : σ) (rest : List Char) :
    membersFrom member (fuel + 1) isFirst s ('\x7d' :: rest) = .ok (s, rest) := by
  simp [membersFrom, key_end, bind, Except.bind, pure, Except.pure]

/-- One member is read. -/
theorem membersFrom_succ {isFirst : Bool} {cs name written rest : List Char}
    {reader : JsonReader σ} (hkey : key isFirst cs = .ok (some name, ':' :: (written ++ rest)))
    (known : member s name = .ok reader) (here : ReadsAs reader written t) (hrest : Closes rest)
    (fuel : Nat) :
    membersFrom member (fuel + 1) isFirst s cs = membersFrom member fuel false t rest := by
  have hcolon : colon (':' :: (written ++ rest)) = .ok (written ++ rest) := by
    rw [colon, blank_cons (by decide)]
    rfl
  conv_lhs => unfold membersFrom
  rw [hkey]
  simp [known, hcolon, here rest hrest, bind, Except.bind]

theorem membersFrom_later {ms : List (List Char × List Char)} (h : Leads member s ms u)
    {fuel : Nat} (hfuel : ms.length < fuel) (rest : List Char) :
    membersFrom member fuel false s ((ms.map writeMember).flatMap (',' :: ·) ++ '\x7d' :: rest) =
      .ok (u, rest) := by
  have hbrace : Closes ('\x7d' :: rest) := closes_cons (by decide) rest
  induction h generalizing fuel with
  | nil s =>
    obtain ⟨fuel, rfl⟩ := Nat.exists_eq_succ_of_ne_zero (Nat.ne_of_gt hfuel)
    exact membersFrom_end false fuel s rest
  | @cons s t u name written ms reader known here later ih =>
    obtain ⟨fuel, rfl⟩ := Nat.exists_eq_succ_of_ne_zero (Nat.ne_zero_of_lt hfuel)
    rw [List.map_cons, List.flatMap_cons, List.append_assoc, List.cons_append,
      membersFrom_succ (key_later name written _) known here (closes_flatMap _ hbrace)]
    exact ih (Nat.lt_of_succ_lt_succ hfuel)

/-- **The members of a map are read back**, if the value of each one is. -/
theorem members_writeMembers {ms : List (List Char × List Char)} (h : Leads member s ms u)
    (rest : List Char) :
    members member s ([','].intercalate (ms.map writeMember) ++ '\x7d' :: rest) =
      .ok (u, rest) := by
  unfold members
  cases h with
  | nil s => exact membersFrom_end true _ s rest
  | @cons s t u name written ms reader known here later =>
    have hbrace : Closes ('\x7d' :: rest) := closes_cons (by decide) rest
    have hlength :=
      length_le_length_flatMap (f := (',' :: ·)) (List.cons_ne_nil ',') (ms.map writeMember)
    rw [List.length_map] at hlength
    rw [List.map_cons, intercalate_cons, List.append_assoc,
      membersFrom_succ (key_first name written _) known here (closes_flatMap _ hbrace),
      membersFrom_later later]
    simp only [List.length_append, List.length_cons]
    omega

end

end Json

end Highlighter
