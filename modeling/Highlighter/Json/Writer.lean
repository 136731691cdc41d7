/-
# Writing JSON

The compact form of a document: no blanks, members in a fixed order.
-/
import Highlighter.Json.Text

namespace Highlighter

namespace Json

/-- A whole number. -/
def writeNatural (n : Nat) : List Char := Nat.toDigits 10 n

/-- A boolean. -/
def writeBoolean : Bool → List Char
  | true => ['t', 'r', 'u', 'e']
  | false => ['f', 'a', 'l', 's', 'e']

/-- A string, or `null` for none. -/
def writeOptionalString : Option (List Char) → List Char
  | some text => quote text
  | none => ['n', 'u', 'l', 'l']

/-- A map, from its keys and its written values. -/
def writeMembers (members : List (List Char × List Char)) : List Char :=
  ['\x7b'] ++ [','].intercalate (members.map fun (key, value) => quote key ++ [':'] ++ value) ++
    ['\x7d']

end Json

end Highlighter
