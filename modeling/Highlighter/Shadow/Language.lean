/-
# Shadow as a language

How Shadow is called and recognised.  A text that begins with a line such as
`#!/usr/bin/env shadow` is certainly written in it.
-/
import Highlighter.Registry.Language
import Highlighter.Shadow.Table
import Highlighter.Text.Trim

namespace Highlighter

namespace Shadow

/-- The name and what files are called. -/
def info : LanguageInfo where
  name := "Shadow"
  aliases := ["shadow"]
  filenames := ["*.shadow"]
  mimeTypes := ["text/x-shadow", "text/plain"]

/-- The characters between the words of an interpreter line. -/
def isWordBreak (c : Char) : Bool := CharClass.isSpace c || c == '/'

/-- Whether a word of an interpreter line is `shadow`, perhaps with something after a dot. -/
def isInterpreter (word : List Char) : Bool :=
  word == "shadow".toList || "shadow.".toList.isPrefixOf word

/-- Whether a text begins with an interpreter line that names Shadow. -/
def hasInterpreterLine (text : List Char) : Bool :=
  match text.takeWhile (· != '\n') with
  | '#' :: '!' :: line => (Text.splitWhere isWordBreak line).any isInterpreter
  | _ => false

/-- How likely a text is written in Shadow. -/
def confidence (text : List Char) : Confidence :=
  if hasInterpreterLine text then .certain else .no

/-- The language. -/
def language : Language := ⟨info, grammar, table, confidence⟩

end Shadow

end Highlighter
