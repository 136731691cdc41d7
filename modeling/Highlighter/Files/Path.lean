/-
# Paths

A path is a text whose parts stand between slashes.  Empty parts count for nothing, and neither do
parts of one dot, except for one that begins a path (`Path.parts`).  The file name is the last part,
unless that part leads upwards (`Path.fileName?`).
-/
import Highlighter.Text.Trim

namespace Highlighter

/-- A path as it is written. -/
abbrev Path := List Char

namespace Path

/-- The part that stands for the directory itself. -/
def here : List Char := ['.']

/-- The part that leads to the directory above. -/
def up : List Char := ['.', '.']

/-- All parts, as they stand between the slashes. -/
def pieces (path : Path) : List (List Char) := Text.splitAt '/' path

/-- Whether a path begins at the top of all directories. -/
def isAbsolute (path : Path) : Bool := path.head? == some '/'

/-- The parts that count. -/
def parts (path : Path) : List (List Char) :=
  match pieces path with
  | [] => []
  | first :: more =>
    (if first.isEmpty then [] else [first]) ++ more.filter fun p => !p.isEmpty && p != here

/-- The last part, if it names something. -/
def fileName? (path : Path) : Option (List Char) :=
  (parts path).getLast?.filter fun name => name != here && name != up

/-- The path of something below a directory. -/
def below (directory name : Path) : Path :=
  if directory.getLast? == some '/' then directory ++ name else directory ++ ['/'] ++ name

end Path

end Highlighter
