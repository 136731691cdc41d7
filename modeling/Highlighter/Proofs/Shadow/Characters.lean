/-
# The characters of Shadow

The sets of characters that the patterns of the grammar are made of, and how they are related.  What
matters for the tokens is that **white space and word characters have nothing in common**
(`isWord_of_isBlank`), and that no parenthesis is in a set that a name or a type is written with.
-/
import Highlighter.Regex.CharSet

namespace Highlighter

namespace CharClass

/-- The code points of white space. -/
def spaceCodes : List Nat := [
  0x9, 0xA, 0xB, 0xC, 0xD, 0x20, 0x85, 0xA0, 0x1680, 0x2000, 0x2001, 0x2002, 0x2003, 0x2004, 0x2005,
  0x2006, 0x2007, 0x2008, 0x2009, 0x200A, 0x2028, 0x2029, 0x202F, 0x205F, 0x3000]

theorem mem_spaceCodes {c : Char} (h : isSpace c = true) : c.toNat ∈ spaceCodes := by
  simp only [isSpace, Bool.or_eq_true, beq_iff_eq, Bool.and_eq_true, decide_eq_true_eq] at h
  simp only [spaceCodes, List.mem_cons, List.not_mem_nil, or_false]
  omega

/-- White space is no word character. -/
theorem isWord_of_isSpace {c : Char} (h : isSpace c = true) : isWord c = false := by
  have hcodes : ∀ n ∈ spaceCodes, isWord (Char.ofNat n) = false := by decide +kernel
  have hc := hcodes _ (mem_spaceCodes h)
  rwa [Char.ofNat_toNat] at hc

end CharClass

namespace CharSet

theorem contains_unions (sets : List CharSet) (c : Char) :
    (unions sets).contains c = sets.any (·.contains c) := by
  induction sets with
  | nil => rfl
  | cons a sets ih =>
    cases sets with
    | nil => simp [unions]
    | cons b sets =>
      rw [List.any_cons, ← ih]
      rfl

theorem contains_unions_single (cs : List Char) (c : Char) :
    (unions (cs.map single)).contains c = true ↔ c ∈ cs := by
  simp [contains_unions, contains_single]

end CharSet

namespace Shadow

/-! ## 1. White space -/

/-- White space, counting the ASCII separators as such. -/
def isBlank (c : Char) : Bool := CharClass.isSpace c || ('\x1c' ≤ c && c ≤ '\x1f')

def blankSet : CharSet := .union (.property .space) (.range '\x1c' '\x1f')

/-- **White space is no word character.** -/
theorem isWord_of_isBlank {c : Char} (h : isBlank c = true) : CharClass.isWord c = false := by
  rcases Bool.or_eq_true_iff.mp h with h | h
  · exact CharClass.isWord_of_isSpace h
  · have hcodes : ∀ n ∈ [0x1C, 0x1D, 0x1E, 0x1F], CharClass.isWord (Char.ofNat n) = false := by
      decide
    simp only [Bool.and_eq_true, decide_eq_true_eq, Char.le_def, UInt32.le_iff_toNat_le] at h
    have hmem : c.toNat ∈ [0x1C, 0x1D, 0x1E, 0x1F] := by
      have h1 : 0x1C ≤ c.toNat := h.1
      have h2 : c.toNat ≤ 0x1F := h.2
      simp only [List.mem_cons, List.not_mem_nil, or_false]
      omega
    have hc := hcodes _ hmem
    rwa [Char.ofNat_toNat] at hc

theorem isBlank_of_isWord {c : Char} (h : CharClass.isWord c = true) : isBlank c = false :=
  Bool.eq_false_iff.mpr fun hb => Bool.eq_false_iff.mp (isWord_of_isBlank hb) h

/-! ## 2. Names -/

/-- The word characters. -/
def wordSet : CharSet := .property .word

@[simp] theorem contains_wordSet (c : Char) : wordSet.contains c = CharClass.isWord c := rfl

/-- Where a word may begin: the word characters that are not digits. -/
def letterSet : CharSet := .compl (.union (.compl wordSet) (.property .digit))

theorem isWord_of_letterSet {c : Char} (h : letterSet.contains c = true) :
    CharClass.isWord c = true := by
  simp only [letterSet, CharSet.contains_compl, CharSet.contains_union, contains_wordSet,
    Bool.not_or, Bool.not_not, Bool.and_eq_true] at h
  exact h.1

/-- Word characters and some others that words are joined by. -/
def wordsWith (joints : List Char) : CharSet := .unions (wordSet :: joints.map .single)

theorem contains_wordsWith {joints : List Char} {c : Char} :
    (wordsWith joints).contains c = true ↔ CharClass.isWord c = true ∨ c ∈ joints := by
  rw [wordsWith, CharSet.contains_unions, List.any_cons, Bool.or_eq_true, contains_wordSet,
    ← CharSet.contains_unions, CharSet.contains_unions_single]

/-- What a name goes on with. -/
def nameSet : CharSet := wordsWith ['$']

/-- What a type goes on with. -/
def typeSet : CharSet := wordsWith ['.', '[', ']', '$', '<', '>']

/-- No white space is in the set. -/
def Printed (s : CharSet) : Prop := ∀ c, s.contains c = true → isBlank c = false

theorem printed_wordSet : Printed wordSet := fun _ hc => isBlank_of_isWord hc

theorem printed_letterSet : Printed letterSet := fun _ hc =>
  isBlank_of_isWord (isWord_of_letterSet hc)

theorem printed_single {c : Char} (h : isBlank c = false) : Printed (.single c) := by
  intro d hd
  rw [CharSet.contains_single, decide_eq_true_eq] at hd
  rwa [hd]

theorem printed_wordsWith {joints : List Char} (h : joints.any isBlank = false) :
    Printed (wordsWith joints) := fun c hc =>
  (contains_wordsWith.mp hc).elim isBlank_of_isWord fun hmem =>
    Bool.eq_false_iff.mpr (List.any_eq_false.mp h c hmem)

/-! ## 3. Marks -/

/-- The characters that are operators. -/
def operators : List Char := "~^*!%&[]<>|+=/?#-".toList

/-- The characters that are punctuation. -/
def punctuationMarks : List Char := "\x7b\x7d();:.,@".toList

def operatorSet : CharSet := .unions (operators.map .single)

def punctuationSet : CharSet := .unions (punctuationMarks.map .single)

/-! ## 4. Digits -/

def digitSet : CharSet := .range '0' '9'

/-- What a number goes on with. -/
def digitTailSet : CharSet := .union digitSet (.single '_')

def hexSet : CharSet := .unions [digitSet, .range 'a' 'f', .range 'A' 'F']

/-- What a hexadecimal number goes on with. -/
def hexTailSet : CharSet := .unions [digitSet, .range 'a' 'f', .range 'A' 'F', .single '_']

end Shadow

end Highlighter
