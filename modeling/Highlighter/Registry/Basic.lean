/-
# The registry of languages

Languages are found by name or alias, by media type, by the name of a file, or by a look at a text
(`Registry`).  Names, aliases and media types may be written in either case, and a language
registered later takes them over; globs are tried in the order of registration.
-/
import Highlighter.Files.Path
import Highlighter.Registry.Glob
import Highlighter.Registry.Language

namespace Highlighter

/-- Languages, and what they are found by.  A language is referred to by its position. -/
structure Registry where
  /-- The languages in the order of their registration. -/
  languages : List Language
  /-- Names and aliases in lower case, the latest first. -/
  names : List (String × Nat)
  /-- Media types in lower case, the latest first. -/
  mimeTypes : List (String × Nat)
  /-- Patterns of globs for file names, the earliest first. -/
  globs : List (Pattern × Nat)

namespace Registry

/-- No language. -/
def empty : Registry := ⟨[], [], [], []⟩

/-- Each of the keys with a position. -/
def entries (keys : List String) (index : Nat) : List (String × Nat) :=
  keys.map fun key => (CharClass.asciiLowercase key, index)

/-- The patterns of globs, each with a position.  Those that are refused are left out. -/
def patterns (globs : List String) (index : Nat) : List (Pattern × Nat) :=
  globs.filterMap fun glob => (Glob.compile? glob.toList).map fun pattern => (pattern, index)

/-- Register a language. -/
def register (r : Registry) (language : Language) : Registry where
  languages := r.languages ++ [language]
  names := entries (language.info.name :: language.info.aliases) r.languages.length ++ r.names
  mimeTypes := entries language.info.mimeTypes r.languages.length ++ r.mimeTypes
  globs := r.globs ++ patterns language.info.filenames r.languages.length

/-- Register languages one after the other. -/
def ofList (languages : List Language) : Registry := languages.foldl register empty

/-- The language at the position that is given for a key. -/
def find? (r : Registry) (entries : List (String × Nat)) (key : String) : Option Language :=
  (entries.lookup (CharClass.asciiLowercase key)).bind fun index => r.languages[index]?

/-- The language with a name or an alias. -/
def byAlias? (r : Registry) (name : String) : Option Language := r.find? r.names name

/-- The language with a media type. -/
def byMimeType? (r : Registry) (mimeType : String) : Option Language :=
  r.find? r.mimeTypes mimeType

/-- The language of a file, by its name. -/
def forFile? (r : Registry) (path : Path) : Option Language := do
  let name ← Path.fileName? path
  let (_, index) ← r.globs.find? fun (pattern, _) => Glob.accepts pattern name
  r.languages[index]?

/-- The better one of two guesses; of equally good ones the later. -/
def better (best : Option (Confidence × Language)) (next : Confidence × Language) :
    Option (Confidence × Language) :=
  match best with
  | none => some next
  | some best => if best.1.atMost next.1 then some next else some best

/-- The language that a text is most likely written in. -/
def guess? (r : Registry) (text : List Char) : Option Language :=
  let guesses := (r.languages.map fun l => (l.confidence text, l)).filter (·.1.isPositive)
  (guesses.foldl better none).map (·.2)

@[simp] theorem languages_register (r : Registry) (language : Language) :
    (r.register language).languages = r.languages ++ [language] := rfl

theorem languages_foldl_register (languages : List Language) (r : Registry) :
    (languages.foldl register r).languages = r.languages ++ languages := by
  induction languages generalizing r with
  | nil => simp
  | cons language languages ih => simp [ih]

/-- Every language is kept, in the order of registration. -/
@[simp] theorem languages_ofList (languages : List Language) :
    (ofList languages).languages = languages := by
  simp [ofList, languages_foldl_register, empty]

end Registry

end Highlighter
