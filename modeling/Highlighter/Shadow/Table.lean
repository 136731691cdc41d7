/-
# The compiled Shadow table
-/
import Highlighter.Grammar.Compile
import Highlighter.Shadow.Grammar

namespace Highlighter

namespace Shadow

/-- The compiled grammar; the grammar is valid, so there is always a table to take. -/
def table : Table := grammar.compile.toOption.getD ⟨grammar.name, 0, []⟩

end Shadow

end Highlighter
