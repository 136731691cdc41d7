/-
# What can be wrong with a JSON document

A document that is read as a value of some type can be malformed, or well formed as far as it was
read but of the wrong form (`JsonError`).  The second kind names its cause (`DataError`).
-/
import Highlighter.Number.Binary64
import Highlighter.Text.Quoted

namespace Highlighter

/-- What stands in a document in the place of something else. -/
inductive JsonFound where
  | null
  | boolean (value : Bool)
  | integer (value : Int)
  | float (negative : Bool) (magnitude : Binary64)
  | string (text : List Char)
  | sequence
  | map
  deriving DecidableEq

namespace JsonFound

/-- What was found, in words. -/
def text : JsonFound → String
  | null => "null"
  | boolean value => s!"boolean `{value}`"
  | integer value => s!"integer `{value}`"
  | float negative magnitude =>
    let sign := if negative then "-" else ""
    let digits := String.ofList magnitude.toDecimal
    s!"floating point `{sign}{digits}`"
  | string text => "string " ++ String.ofList (Quoted.encode text)
  | sequence => "sequence"
  | map => "map"

end JsonFound

/-- Why a well-formed document is not of the form asked for. -/
inductive DataError where
  /-- A value of another type. -/
  | invalidType (found : JsonFound) (expected : String)
  /-- A value of the right type, but not one that is allowed. -/
  | invalidValue (found : JsonFound) (expected : String)
  /-- A sequence with too few elements. -/
  | invalidLength (length : Nat) (expected : String)
  | unknownField (name : List Char) (expected : List String)
  | duplicateField (name : String)
  | missingField (name : String)
  | unknownKind (name : List Char)
  deriving DecidableEq

namespace DataError

/-- The names of fields, each between backquotes. -/
def fieldList (names : List String) : String :=
  ", ".intercalate (names.map fun name => s!"`{name}`")

/-- The message. -/
def message : DataError → String
  | invalidType found expected => s!"invalid type: {found.text}, expected {expected}"
  | invalidValue found expected => s!"invalid value: {found.text}, expected {expected}"
  | invalidLength length expected => s!"invalid length {length}, expected {expected}"
  | unknownField name expected =>
    let name := String.ofList name
    let names := fieldList expected
    s!"unknown field `{name}`, expected one of {names}"
  | duplicateField name => s!"duplicate field `{name}`"
  | missingField name => s!"missing field `{name}`"
  | unknownKind name =>
    let name := String.ofList name
    s!"unknown token kind `{name}`"

end DataError

/-- Why a document cannot be read. -/
inductive JsonError where
  | malformed
  | data (cause : DataError)
  deriving DecidableEq

end Highlighter
