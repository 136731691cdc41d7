/-
# File trees

Files and directories as a tree (`FileTree`).  The entries of a directory are in no particular
order; going through a tree takes them by their names (`FileTree.files`).

A path is followed part by part (`FileTree.follow`); leading upwards from the top of the tree stays
there.
-/
import Highlighter.Files.Path

namespace Highlighter

/-- A file with its bytes, or a directory with its named entries. -/
inductive FileTree where
  | file (content : ByteArray)
  | directory (entries : List (List Char × FileTree))

/-- Why something cannot be read as text. -/
inductive ReadFailure where
  | notFound
  /-- The path goes on behind a file. -/
  | notADirectory
  | isADirectory
  /-- The bytes are not UTF-8. -/
  | invalidData
  deriving DecidableEq

/-- What a path leads to, or why it leads nowhere. -/
abbrev FileSystem := Path → Except ReadFailure FileTree

namespace FileTree

/-- The directory without entries. -/
def empty : FileTree := directory []

/-- The entries of a directory. -/
def entries : FileTree → List (List Char × FileTree)
  | file _ => []
  | directory es => es

/-! ## 1. Building -/

/-- Change the entry with a name, or make one. -/
def putEntry (name : List Char) (change : FileTree → FileTree) :
    List (List Char × FileTree) → List (List Char × FileTree)
  | [] => [(name, change empty)]
  | (other, tree) :: es =>
    if name == other then (name, change tree) :: es
    else (other, tree) :: putEntry name change es

/-- Put a tree at the end of a row of names, with all directories on the way. -/
def put (tree : FileTree) : (names : List (List Char)) → FileTree → FileTree
  | [], _ => tree
  | name :: names, t => directory (putEntry name (put tree names) t.entries)

/-! ## 2. Going through a tree -/

/-- Whether an entry may stand before another one: its name does not come after the other's. -/
def inOrder {α : Type} (a b : List Char × α) : Bool := !decide (b.1 < a.1)

mutual

/-- All files of a tree, each with the names that lead to it: depth first, and the entries of each
directory in the order of their names. -/
def files : FileTree → List (List (List Char) × ByteArray)
  | file content => [([], content)]
  | directory es =>
    ((filesOf es).mergeSort inOrder).flatMap fun (name, found) =>
      found.map fun (names, content) => (name :: names, content)

/-- The entries of a directory, each with all files of its tree. -/
def filesOf : List (List Char × FileTree) →
    List (List Char × List (List (List Char) × ByteArray))
  | [] => []
  | (name, tree) :: es => (name, files tree) :: filesOf es

end

/-! ## 3. Following a path -/

/-- Follow parts of a path; `above` holds the directories on the way, the nearest first. -/
def followFrom : (above : List FileTree) → FileTree → List (List Char) →
    Except ReadFailure FileTree
  | _, t, [] => .ok t
  | _, file _, _ :: _ => .error .notADirectory
  | above, directory es, part :: parts =>
    if part.isEmpty || part == Path.here then followFrom above (directory es) parts
    else if part == Path.up then
      match above with
      | [] => followFrom [] (directory es) parts
      | parent :: above => followFrom above parent parts
    else
      match es.lookup part with
      | none => .error .notFound
      | some t => followFrom (directory es :: above) t parts

/-- Follow a path from the top of a tree.  Paths that begin elsewhere lead nowhere. -/
def follow (t : FileTree) : FileSystem := fun path =>
  if path.isEmpty || Path.isAbsolute path then .error .notFound
  else followFrom [] t (Path.pieces path)

end FileTree

/-- The text that bytes stand for. -/
def decodeText (content : ByteArray) : Except ReadFailure (List Char) :=
  match String.fromUTF8? content with
  | some text => .ok text.toList
  | none => .error .invalidData

namespace FileSystem

/-- The text of a file. -/
def readText (fs : FileSystem) (path : Path) : Except ReadFailure (List Char) := do
  match ← fs path with
  | .file content => decodeText content
  | .directory _ => throw .isADirectory

end FileSystem

end Highlighter
