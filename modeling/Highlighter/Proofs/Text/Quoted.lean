/-
# Reading quoted text

What is written between double quotes can be read back (`Quoted.decode?_encode`), whatever the text
is.  The reader (`Quoted.decode?`) goes from character to character and knows where it is: between
characters, behind a backslash, or in the braces of a code (`Quoted.Place`).  It refuses a backslash
before anything that it does not know, a code that is no character's, and anything behind the
closing quote.

No quoted text has a line feed in it (`Quoted.not_mem_encode`).
-/
import Highlighter.Text.Quoted
import Highlighter.Proofs.Text.Digits

namespace Highlighter

namespace Quoted

/-! ## 1. Reading -/

/-- The character that a letter behind a backslash stands for. -/
def escaped? : Char → Option Char
  | '0' => some '\x00'
  | 't' => some '\t'
  | 'r' => some '\r'
  | 'n' => some '\n'
  | '"' => some '"'
  | '\'' => some '\''
  | '\\' => some '\\'
  | _ => none

/-- The character with a code in hexadecimal digits, of which there are at least one and at most
six. -/
def coded? (digits : List Char) : Option Char :=
  (Digits.hexNumber? digits).bind fun n =>
    if 0 < digits.length ∧ digits.length ≤ 6 ∧ n.isValidChar then some (Char.ofNat n) else none

/-- Where between the quotes a place is. -/
inductive Place where
  | plain
  /-- Behind a backslash. -/
  | escape
  /-- Before the braces of a code. -/
  | code
  /-- In the braces of a code, with the digits before the place. -/
  | digits (before : List Char)

/-- The text from a place on.  It is closed by a quote, and nothing follows. -/
def decodeFrom : Place → List Char → Option (List Char)
  | _, [] => none
  | .plain, c :: cs =>
    if c = '"' then if cs.isEmpty then some [] else none
    else if c = '\\' then decodeFrom .escape cs
    else (decodeFrom .plain cs).map (c :: ·)
  | .escape, c :: cs =>
    if c = 'u' then decodeFrom .code cs
    else (escaped? c).bind fun d => (decodeFrom .plain cs).map (d :: ·)
  | .code, c :: cs => if c = '\x7b' then decodeFrom (.digits []) cs else none
  | .digits before, c :: cs =>
    if c = '\x7d' then (coded? before).bind fun d => (decodeFrom .plain cs).map (d :: ·)
    else decodeFrom (.digits (before ++ [c])) cs

/-- The text between quotes. -/
def decode? : List Char → Option (List Char)
  | '"' :: cs => decodeFrom .plain cs
  | _ => none

/-! ## 2. What was written is read back -/

theorem decodeFrom_letter {c d : Char} (hc : c ≠ 'u') (h : escaped? c = some d)
    (cs : List Char) :
    decodeFrom .plain ('\\' :: c :: cs) = (decodeFrom .plain cs).map (d :: ·) := by
  rw [decodeFrom, if_neg (by decide), if_pos rfl, decodeFrom, if_neg hc, h, Option.bind_some]

theorem decodeFrom_digits {ds : List Char} (h : '\x7d' ∉ ds) (before cs : List Char) :
    decodeFrom (.digits before) (ds ++ '\x7d' :: cs) =
      (coded? (before ++ ds)).bind fun d => (decodeFrom .plain cs).map (d :: ·) := by
  induction ds generalizing before with
  | nil => rw [List.nil_append, decodeFrom, if_pos rfl, List.append_nil]
  | cons d ds ih =>
    have hd : d ≠ '\x7d' := fun heq => h (heq ▸ List.mem_cons_self)
    have hds : '\x7d' ∉ ds := fun hmem => h (List.mem_cons_of_mem d hmem)
    rw [List.cons_append, decodeFrom, if_neg hd, ih hds, List.append_assoc, List.singleton_append]

/-- The code of a character has no more than six digits. -/
theorem toNat_lt (c : Char) : c.toNat < 0x1000000 := by
  have h := c.valid
  unfold UInt32.isValidChar Nat.isValidChar at h
  unfold Char.toNat
  omega

theorem coded?_hexDigits (c : Char) : coded? (hexDigits c.toNat) = some c := by
  have hlength : (Nat.toDigits 16 c.toNat).length ≤ 6 :=
    (Nat.length_toDigits_le_iff (by decide) (by decide)).mpr (toNat_lt c)
  unfold coded? hexDigits
  rw [Digits.hexNumber?_toDigits, Option.bind_some,
    if_pos ⟨Nat.length_toDigits_pos, hlength, c.valid⟩, Char.ofNat_toNat]

theorem not_mem_hexDigits (n : Nat) {c : Char} (hc : Digits.hexValue? c = none) :
    c ∉ hexDigits n := by
  intro h
  have := Digits.isSome_hexValue?_of_mem_toDigits h
  rw [hc] at this
  cases this

/-- **A character is read as itself**, however it is written. -/
theorem decodeFrom_encodeChar (c : Char) (cs : List Char) :
    decodeFrom .plain (encodeChar c ++ cs) = (decodeFrom .plain cs).map (c :: ·) := by
  unfold encodeChar
  simp only [beq_iff_eq]
  split_ifs with hnul htab hreturn hfeed hquote hslash hshown
  · subst hnul
    exact decodeFrom_letter (by decide) rfl cs
  · subst htab
    exact decodeFrom_letter (by decide) rfl cs
  · subst hreturn
    exact decodeFrom_letter (by decide) rfl cs
  · subst hfeed
    exact decodeFrom_letter (by decide) rfl cs
  · subst hquote
    exact decodeFrom_letter (by decide) rfl cs
  · subst hslash
    exact decodeFrom_letter (by decide) rfl cs
  · rw [List.singleton_append, decodeFrom, if_neg hquote, if_neg hslash]
  · have hbrace : '\x7d' ∉ hexDigits c.toNat := not_mem_hexDigits _ (by decide)
    calc decodeFrom .plain (['\\', 'u', '\x7b'] ++ hexDigits c.toNat ++ ['\x7d'] ++ cs)
        = decodeFrom .plain ('\\' :: 'u' :: '\x7b' :: (hexDigits c.toNat ++ '\x7d' :: cs)) := by
          simp only [List.append_assoc, List.cons_append, List.nil_append]
      _ = decodeFrom (.digits []) (hexDigits c.toNat ++ '\x7d' :: cs) := by
          rw [decodeFrom, if_neg (by decide), if_pos rfl, decodeFrom, if_pos rfl, decodeFrom,
            if_pos rfl]
      _ = (decodeFrom .plain cs).map (c :: ·) := by
          rw [decodeFrom_digits hbrace, List.nil_append, coded?_hexDigits, Option.bind_some]

/-- **Quoted text is read back**, whatever the text is. -/
theorem decode?_encode (text : List Char) : decode? (encode text) = some text := by
  change decodeFrom .plain (text.flatMap encodeChar ++ ['"']) = some text
  induction text with
  | nil => rfl
  | cons c cs ih =>
    rw [List.flatMap_cons, List.append_assoc, decodeFrom_encodeChar, ih, Option.map_some]

example : encode ['\x1b', '"', 'a'] = "\"\\u\x7b1b\x7d\\\"a\"".toList := by decide +kernel

/-! ## 3. Lines -/

theorem not_mem_encodeChar (c : Char) : '\n' ∉ encodeChar c := by
  unfold encodeChar
  simp only [beq_iff_eq]
  split_ifs with hnul htab hreturn hfeed hquote hslash hshown
  · decide
  · decide
  · decide
  · decide
  · decide
  · decide
  · exact fun h => hfeed (List.mem_singleton.mp h).symm
  · have hdigits : '\n' ∉ hexDigits c.toNat := not_mem_hexDigits _ (by decide)
    simp only [List.mem_append, not_or]
    exact ⟨⟨by decide, hdigits⟩, by decide⟩

/-- **Quoted text stands in one line.** -/
theorem not_mem_encode (text : List Char) : '\n' ∉ encode text := by
  unfold encode
  simp only [List.mem_append, List.mem_flatMap, not_or, not_exists, not_and]
  exact ⟨⟨by decide, fun c _ => not_mem_encodeChar c⟩, by decide⟩

end Quoted

end Highlighter
