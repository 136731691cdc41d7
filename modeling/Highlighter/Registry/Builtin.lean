/-
# The languages that are built in
-/
import Highlighter.Registry.Basic
import Highlighter.Shadow.Language

namespace Highlighter

/-- The registry of the languages that are built in. -/
def Registry.builtin : Registry := .ofList [Shadow.language]

end Highlighter
