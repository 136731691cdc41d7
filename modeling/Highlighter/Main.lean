/-
# The program

Looks up what the paths on the command line lead to, hands it to the library, and prints the report.
-/
import Highlighter.Command.Report

namespace Highlighter

namespace Program

/-- How deep directories are gone into. -/
def maxDepth : Nat := 255

/-- Why the operating system did not let something be read. -/
def readFailure : IO.Error → ReadFailure
  | .inappropriateType .. => .notADirectory
  | _ => .notFound

/-- The entry for a path that is given as text. -/
def entryAt (path : String) : IO.FS.DirEntry := ⟨path, ""⟩

/-- Files and directories at a path.  Of the files below a directory only those that a language
claims are read. -/
def load (registry : Registry) : (depth : Nat) → (path : String) → (isNamed : Bool) → IO FileTree
  | 0, _, _ => return .empty
  | depth + 1, path, isNamed => do
    let place := (entryAt path).root
    if ← place.isDir then
      let mut tree : FileTree := .empty
      for entry in ← place.readDir do
        let below := String.ofList (Path.below path.toList entry.fileName.toList)
        let part ← load registry depth below false
        tree := part |>.put [entry.fileName.toList] tree
      return tree
    else if isNamed || (registry.forFile? path.toList).isSome then
      return .file (← IO.FS.readBinFile path)
    else return .file .empty

/-- What a path leads to. -/
def look (registry : Registry) (path : Path) : IO (Path × Except ReadFailure FileTree) := do
  try
    return (path, .ok (← load registry maxDepth (String.ofList path) true))
  catch error => return (path, .error (readFailure error))

/-- What can be seen at the paths of a command. -/
def surroundings (registry : Registry) (paths : List Path) : IO Surroundings := do
  let seen ← paths.mapM (look registry)
  let stdin ← IO.getStdin
  let standardInput ←
    if paths.any Command.isStandardInput then readAll stdin .empty else pure .empty
  return {
    files := fun path => (seen.lookup path).getD (.error .notFound)
    standardInput
    onTerminal := ← (← IO.getStdout).isTty }
where
  /-- Everything that is left of a stream. -/
  readAll (stream : IO.FS.Stream) (read : ByteArray) : IO ByteArray := do
    let mut all := read
    let mut chunk ← stream.read 65536
    while !chunk.isEmpty do
      all := all ++ chunk
      chunk ← stream.read 65536
    return all

/-- Print a report. -/
def print (report : Report) : IO UInt32 := do
  let stdout ← IO.getStdout
  stdout.putStr (String.ofList report.output)
  stdout.flush
  if let some complaint := report.complaint then IO.eprint complaint
  return report.status.toUInt32

end Program

end Highlighter

open Highlighter in
/-- The program. -/
def main (words : List String) : IO UInt32 := do
  let words := words.map String.toList
  let paths :=
    match Arguments.read words with
    | .ok args => args.command.paths
    | .error _ => []
  Program.print (Report.ofRun .builtin (← Program.surroundings .builtin paths) words)
