/-
# Sets of characters

What a character class of a pattern stands for.  A set is kept as the expression it was written as
(`CharSet`), and membership (`CharSet.contains`) is read off that expression: union is "or",
complement is "not", closing a set under case asks the whole case orbit.

Whether a set is empty, or has a single member, is decided without going through all characters.
Membership is constant between neighbouring BREAKS of the expression (`CharSet.breaks`), so it is
enough to look at one character of each stretch.
-/
import Highlighter.Unicode.Fold
import Highlighter.Unicode.Script

namespace Highlighter

/-- A named class of characters that is looked up in a table. -/
inductive Property where
  | word
  | digit
  | space
  /-- One of the listed general categories. -/
  | category (categories : List Category)
  /-- A yes-or-no property of the standard, by its full name. -/
  | binary (name : String)
  /-- The characters of one script, by its position in `Script.all`. -/
  | script (position : Nat)
  deriving DecidableEq

namespace Property

/-- Whether a character belongs to the class. -/
def holds : Property → Char → Bool
  | word, c => CharClass.isWord c
  | digit, c => CharClass.isDigit c
  | space, c => CharClass.isSpace c
  | category cs, c => cs.contains (Category.of c)
  | binary name, c =>
    match BinaryProperty.all.find? (·.name == name) with
    | some p => p.holds c
    | none => false
  | script position, c => Script.positionOf c == position

/-- The ends of the stretches of a sorted list of ranges. -/
def rangeBreaks (ranges : List (Nat × Nat)) : List Nat :=
  ranges.flatMap fun (first, last) => [first, last + 1]

/-- Code points where the class may begin or end. -/
def breaks : Property → List Nat
  | word => Category.runs.map (·.1) ++
      [0x200C, 0x200E, 0x24B6, 0x24EA, 0x1F130, 0x1F14A, 0x1F150, 0x1F16A, 0x1F170, 0x1F18A]
  | digit => Category.runs.map (·.1)
  | space => [0x9, 0xE, 0x20, 0x21, 0x85, 0x86, 0xA0, 0xA1, 0x1680, 0x1681, 0x2000, 0x200B, 0x2028,
      0x202A, 0x202F, 0x2030, 0x205F, 0x2060, 0x3000, 0x3001]
  | category _ => Category.runs.map (·.1)
  | binary name =>
    match BinaryProperty.all.find? (·.name == name) with
    | some p => Category.runs.map (·.1) ++ rangeBreaks p.exceptions
    | none => []
  | script _ => Script.runs.map (·.1)

end Property

/-- A set of characters, as an expression. -/
inductive CharSet where
  | empty
  /-- The characters from `first` to `last`, both included. -/
  | range (first last : Char)
  | property (p : Property)
  | union (a b : CharSet)
  | inter (a b : CharSet)
  | diff (a b : CharSet)
  | symmDiff (a b : CharSet)
  | compl (a : CharSet)
  /-- Closed under simple case folding. -/
  | anyCase (a : CharSet)
  /-- Closed under the case of ASCII letters. -/
  | anyAsciiCase (a : CharSet)
  deriving DecidableEq

namespace CharSet

/-! ## 1. Membership -/

/-- Whether a character is in the set. -/
def contains : CharSet → Char → Bool
  | empty, _ => false
  | range first last, c => first ≤ c && c ≤ last
  | property p, c => p.holds c
  | union a b, c => a.contains c || b.contains c
  | inter a b, c => a.contains c && b.contains c
  | diff a b, c => a.contains c && !b.contains c
  | symmDiff a b, c => a.contains c ^^ b.contains c
  | compl a, c => !a.contains c
  | anyCase a, c => (Fold.orbit c).any fun d => a.contains d
  | anyAsciiCase a, c => (Fold.asciiOrbit c).any fun d => a.contains d

/-- The set of one character. -/
def single (c : Char) : CharSet := range c c

/-- All characters. -/
def all : CharSet := compl empty

/-- The union of a list of sets. -/
def unions : List CharSet → CharSet
  | [] => empty
  | [a] => a
  | a :: as => union a (unions as)

/-! ## 2. Sets of none and of one -/

/-- The case folding table's own breaks: outside of them folding changes no character. -/
def foldBreaks : List Nat :=
  Fold.runs.flatMap fun r =>
    let shifted (n : Nat) : Nat := ((n : Int) + r.shift).toNat
    (List.range ((r.last - r.first) / r.step + 1)).flatMap fun i =>
      let n := r.first + i * r.step
      [n, n + 1, shifted n, shifted n + 1]

/-- Code points where membership may change. -/
def breaks : CharSet → List Nat
  | empty => []
  | range first last => [first.toNat, last.toNat + 1]
  | property p => p.breaks
  | union a b | inter a b | diff a b | symmDiff a b => a.breaks ++ b.breaks
  | compl a => a.breaks
  | anyCase a => a.breaks ++ foldBreaks
  | anyAsciiCase a => a.breaks ++ (List.range 0x80)

/-- The code points that have to be tried to find a member: the beginning of each stretch of code
points that holds characters. -/
def probes (s : CharSet) : List Nat := 0 :: (s.breaks ++ [0xE000])

/-- Whether no character is in the set. -/
def isEmpty (s : CharSet) : Bool :=
  !(s.probes.any fun n => decide n.isValidChar && s.contains (Char.ofNat n))

/-- Whether the set has exactly one member.  It is the first one that is found: no character follows
it in its stretch, and no other stretch begins with a member. -/
def isSingle (s : CharSet) : Bool :=
  let member (n : Nat) : Bool := decide n.isValidChar && s.contains (Char.ofNat n)
  (s.probes.find? member).any fun n =>
    !member (n + 1) && s.probes.all fun m => m == n || !member m

/-! ## 3. Membership in each kind of set -/

@[simp] theorem contains_empty (c : Char) : empty.contains c = false := rfl

@[simp] theorem contains_range (first last c : Char) :
    (range first last).contains c = (decide (first ≤ c) && decide (c ≤ last)) := rfl

@[simp] theorem contains_property (p : Property) (c : Char) :
    (property p).contains c = p.holds c := rfl

@[simp] theorem contains_union (a b : CharSet) (c : Char) :
    (union a b).contains c = (a.contains c || b.contains c) := rfl

@[simp] theorem contains_inter (a b : CharSet) (c : Char) :
    (inter a b).contains c = (a.contains c && b.contains c) := rfl

@[simp] theorem contains_diff (a b : CharSet) (c : Char) :
    (diff a b).contains c = (a.contains c && !b.contains c) := rfl

@[simp] theorem contains_symmDiff (a b : CharSet) (c : Char) :
    (symmDiff a b).contains c = (a.contains c ^^ b.contains c) := rfl

@[simp] theorem contains_compl (a : CharSet) (c : Char) :
    (compl a).contains c = !a.contains c := rfl

theorem contains_single (d c : Char) : (single d).contains c = decide (c = d) := by
  simp only [single, contains]
  by_cases h : c = d
  · subst h; simp
  · have : ¬(d ≤ c ∧ c ≤ d) := fun ⟨h1, h2⟩ => h (Char.le_antisymm h2 h1)
    simp only [h, decide_false, Bool.and_eq_false_iff, decide_eq_false_iff_not]
    by_cases h1 : d ≤ c
    · exact Or.inr fun h2 => this ⟨h1, h2⟩
    · exact Or.inl h1

@[simp] theorem contains_all (c : Char) : all.contains c = true := rfl

end CharSet

end Highlighter
