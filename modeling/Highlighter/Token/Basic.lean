/-
# Tokens

A token is a kind together with the text it covers and the place of that text in the input, counted
in bytes of UTF-8.
-/
import Highlighter.Token.Kind

namespace Highlighter

/-- The number of bytes that characters take in UTF-8. -/
def byteLength : List Char → Nat
  | [] => 0
  | c :: cs => c.utf8Size + byteLength cs

@[simp] theorem byteLength_nil : byteLength [] = 0 := rfl

@[simp] theorem byteLength_cons (c : Char) (cs : List Char) :
    byteLength (c :: cs) = c.utf8Size + byteLength cs := rfl

@[simp] theorem byteLength_append (a b : List Char) :
    byteLength (a ++ b) = byteLength a + byteLength b := by
  induction a with
  | nil => simp
  | cons c cs ih => simp [ih, Nat.add_assoc]

/-- A character takes at least one byte. -/
theorem length_le_byteLength (cs : List Char) : cs.length ≤ byteLength cs := by
  induction cs with
  | nil => simp
  | cons c cs ih =>
    have := c.utf8Size_pos
    simp only [List.length_cons, byteLength_cons]
    omega

/-- The largest byte offset. -/
def maxOffset : Nat := 18446744073709551615

/-- A range of bytes. -/
structure Span where
  start : Nat
  stop : Nat
  deriving DecidableEq

namespace Span

/-- Whether the range holds no byte. -/
def isEmpty (s : Span) : Bool := s.stop ≤ s.start

/-- The number of bytes, unless the range runs backwards. -/
def length? (s : Span) : Option Nat := if s.start ≤ s.stop then some (s.stop - s.start) else none

end Span

/-- A classified piece of text. -/
structure Token where
  kind : Kind
  text : List Char
  /-- The byte offset of the text. -/
  start : Nat
  deriving DecidableEq

namespace Token

/-- The byte offset just after the text. -/
def stop (t : Token) : Nat := t.start + byteLength t.text

/-- The bytes that the token covers. -/
def span (t : Token) : Span := ⟨t.start, t.stop⟩

/-- Whether the token has a text and ends at an offset that can be written. -/
def isProper (t : Token) : Bool := !t.text.isEmpty && t.stop ≤ maxOffset

end Token

/-- The texts of tokens, one after the other. -/
def texts (tokens : List Token) : List Char := tokens.flatMap (·.text)

@[simp] theorem texts_nil : texts [] = [] := rfl

@[simp] theorem texts_cons (t : Token) (ts : List Token) : texts (t :: ts) = t.text ++ texts ts :=
  rfl

@[simp] theorem texts_append (a b : List Token) : texts (a ++ b) = texts a ++ texts b := by
  simp [texts]

end Highlighter
