/-
# HTML output

A block of preformatted text with a span around each token that is not plain text.
-/
import Highlighter.Token.Basic

namespace Highlighter

namespace Html

/-- A character as it is written in HTML. -/
def escapeChar (c : Char) : List Char :=
  if c == '&' then "&amp;".toList
  else if c == '<' then "&lt;".toList
  else if c == '>' then "&gt;".toList
  else if c == '"' then "&quot;".toList
  else if c == '\'' then "&#39;".toList
  else [c]

/-- A text as it is written in HTML. -/
def escape (text : List Char) : List Char := text.flatMap escapeChar

/-- The tag before a token of a class. -/
def openTag (cssClass : String) : List Char :=
  "<span class=\"".toList ++ cssClass.toList ++ "\">".toList

/-- The tag after a token. -/
def closeTag : List Char := "</span>".toList

/-- A token. -/
def span (t : Token) : List Char :=
  if t.kind.cssClass.isEmpty then escape t.text
  else openTag t.kind.cssClass ++ escape t.text ++ closeTag

/-- What stands before the tokens. -/
def header : List Char := "<div class=\"highlight\"><pre>".toList

/-- What stands after the tokens. -/
def footer : List Char := "</pre></div>\n".toList

/-- A block of tokens. -/
def write (tokens : List Token) : List Char := header ++ tokens.flatMap span ++ footer

end Html

end Highlighter
