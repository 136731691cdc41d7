/-
# Highlighting many files

What a command line that asks for highlighting comes to, in terms of the **paths and the file
system** only: which files the paths stand for (`Collects`), what is written for each of them
(`blockAt`), and how far it gets (`Shows`).

* The inputs that are collected are these files, in order (`collects_inputs`), and each of them is
  read from where its own path leads (`source_of_mem_inputs`), although it was found on the way
  through a directory.  Both need that the file system is coherent.
* The standard input can be read once, so what a file comes to depends on the paths before it.  With
  what they have left, dealing with an input is dealing with its path (`block_eq`); the induction
  over the inputs is `exists_shows`.
* A single file is written without a header.  Without options and colours it is written as it is
  (`terminal_shows_source`), since neither lexing nor the terminal loses anything.
-/
import Highlighter.Command.Run
import Highlighter.Proofs.Files.Tree
import Highlighter.Proofs.Lexer.Lossless
import Highlighter.Proofs.Output.Terminal
import Highlighter.Proofs.Registry.Lookup
import Mathlib.Data.List.Forall2
import Mathlib.Data.List.Sort

namespace Highlighter

namespace Command

/-! ## 1. What is to be written -/

/-- What is left of the standard input after paths.  It can be read once. -/
def remaining (w : Surroundings) (earlier : List Path) : ByteArray :=
  if earlier.any isStandardInput then .empty else w.standardInput

/-- The text that is read at a path after other paths. -/
def readAt (w : Surroundings) (earlier : List Path) (path : Path) :
    Except ReadFailure (List Char) :=
  if isStandardInput path then decodeText (remaining w earlier) else w.files.readText path

/-- What is written for the file at a path after other paths. -/
def blockAt (s : Session) (w : Surroundings) (showHeader : Bool) (earlier : List Path)
    (path : Path) : Except CommandError (List Char) := do
  let text ← (readAt w earlier path).mapError (.unreadable path)
  let language ← selectLanguage s.registry s.lexer (some path) text
  let tokens := language.table.tokenize (s.options.prepare text)
  return (if showHeader then header path else []) ++ s.format.write s.colored s.theme tokens

/-- What is written for each of some files, after other paths. -/
def blocksAfter (s : Session) (w : Surroundings) (showHeader : Bool) :
    (earlier : List Path) → List Path → List (Except CommandError (List Char))
  | _, [] => []
  | earlier, path :: paths =>
    blockAt s w showHeader earlier path :: blocksAfter s w showHeader (earlier ++ [path]) paths

/-- A language claims files of the name. -/
def IsClaimed (languages : List Language) (name : List Char) : Prop :=
  ∃ language ∈ languages, ∃ glob ∈ language.info.filenames, Glob.fits glob.toList name = true

/-- The files that a path stands for: itself or, for a directory, the regular files below it that a
language claims by their name, in the order of the names that lead to them. -/
def CollectsAt (languages : List Language) (fs : FileSystem) (path : Path) (files : List Path) :
    Prop :=
  match fs path with
  | .ok (.directory es) =>
    ∃ found : List (List (List Char)), found.Pairwise (· < ·) ∧
      (∀ names, names ∈ found ↔ (∃ content, (FileTree.directory es).Holds names content) ∧
        ∃ name ∈ names.getLast?, IsClaimed languages name) ∧
      files = found.map fun names => names.foldl Path.below path
  | _ => files = [path]

/-- The files that paths stand for, in order. -/
def Collects (languages : List Language) (fs : FileSystem) (paths files : List Path) : Prop :=
  ∃ groups, List.Forall₂ (CollectsAt languages fs) paths groups ∧ files = groups.flatten

/-- Files in the order of their names are determined by which they are. -/
theorem CollectsAt.unique {languages : List Language} {fs : FileSystem} {path : Path}
    {as bs : List Path} (ha : CollectsAt languages fs path as)
    (hb : CollectsAt languages fs path bs) : as = bs := by
  unfold CollectsAt at ha hb
  cases hpath : fs path with
  | error reason =>
    rw [hpath] at ha hb
    exact ha.trans hb.symm
  | ok tree =>
    rw [hpath] at ha hb
    cases tree with
    | file content => exact ha.trans hb.symm
    | directory es =>
      obtain ⟨found, hsorted, hmem, rfl⟩ := ha
      obtain ⟨found', hsorted', hmem', rfl⟩ := hb
      have hfound : found = found' :=
        hsorted.eq_of_mem_iff hsorted' fun names => (hmem names).trans (hmem' names).symm
      rw [hfound]

/-- **Paths stand for one list of files only.** -/
theorem Collects.unique {languages : List Language} {fs : FileSystem} {paths as bs : List Path}
    (ha : Collects languages fs paths as) (hb : Collects languages fs paths bs) : as = bs := by
  obtain ⟨groups, hgroups, rfl⟩ := ha
  obtain ⟨groups', hgroups', rfl⟩ := hb
  have hunique : Relator.RightUnique (CollectsAt languages fs) := fun _ _ _ h h' => h.unique h'
  rw [hunique.forall₂ hgroups hgroups']

/-! ## 2. Collecting files -/

theorem isStandardInput_below (path : Path) {name : List Char} (h : Path.IsName name) :
    isStandardInput (Path.below path name) = false := by
  obtain ⟨front, hfront, habsolute⟩ := Path.exists_parts_below path h
  unfold isStandardInput
  by_cases hnil : front = []
  · simp [habsolute hnil]
  · obtain ⟨first, more, rfl⟩ := List.exists_cons_of_ne_nil hnil
    simp [hfront]

/-- A file is claimed by the last name that leads to it. -/
theorem isSome_forFile?_below (languages : List Language) (path : Path) {name : List Char}
    (h : Path.IsName name) :
    ((Registry.ofList languages).forFile? (Path.below path name)).isSome = true ↔
      IsClaimed languages name := by
  have hconsistent := Registry.consistent_ofList languages
  rw [hconsistent.forFile?, Path.fileName?_below path h, Option.bind_some, Option.isSome_map,
    List.find?_isSome, Registry.languages_ofList]
  constructor
  · rintro ⟨⟨glob, language⟩, hmem, hfits⟩
    obtain ⟨other, hother, hglob⟩ := List.mem_flatMap.mp hmem
    obtain ⟨_, hfilename, heq⟩ := List.mem_map.mp hglob
    obtain ⟨rfl, rfl⟩ := Prod.mk.inj heq
    exact ⟨other, hother, _, hfilename, hfits⟩
  · rintro ⟨language, hlanguage, glob, hglob, hfits⟩
    refine ⟨(glob, language), List.mem_flatMap.mpr ⟨language, hlanguage, ?_⟩, hfits⟩
    exact List.mem_map_of_mem hglob

/-- A file below a directory, as it is collected. -/
def inputBelow (path : Path) (found : List (List Char) × ByteArray) : Input :=
  ⟨found.1.foldl Path.below path, .file found.2⟩

/-- The files of a tree that are collected. -/
def foundBelow (registry : Registry) (path : Path) (tree : FileTree) :
    List (List (List Char) × ByteArray) :=
  tree.files.filter fun found => (registry.forFile? (inputBelow path found).path).isSome

theorem inputsBelow_eq (registry : Registry) (path : Path) (tree : FileTree) :
    inputsBelow registry path tree = (foundBelow registry path tree).map (inputBelow path) := by
  unfold inputsBelow foundBelow
  induction tree.files with
  | nil => rfl
  | cons found more ih =>
    rw [List.filterMap_cons, List.filter_cons, ih]
    dsimp only [inputBelow]
    split <;> simp_all [inputBelow]

/-- What leads to a file below a directory ends with a name. -/
theorem exists_eq_concat_of_holds {es : List (List Char × FileTree)} {names : List (List Char)}
    {content : ByteArray} (hes : (FileTree.directory es).Proper)
    (h : (FileTree.directory es).Holds names content) :
    ∃ front name, names = front ++ [name] ∧ Path.IsName name := by
  rcases List.eq_nil_or_concat names with rfl | ⟨front, name, rfl⟩
  · cases h
  · exact ⟨front, name, List.concat_eq_append, h.isName hes name (by simp)⟩

/-- The regular files of which the last name is claimed are collected, and nothing else is. -/
theorem mem_foundBelow {languages : List Language} {path : Path}
    {es : List (List Char × FileTree)} (hes : (FileTree.directory es).Proper)
    {names : List (List Char)} {content : ByteArray} :
    (names, content) ∈ foundBelow (.ofList languages) path (.directory es) ↔
      (FileTree.directory es).Holds names content ∧
        ∃ name ∈ names.getLast?, IsClaimed languages name := by
  rw [foundBelow, List.mem_filter, FileTree.mem_files_iff]
  refine and_congr_right fun hholds => ?_
  obtain ⟨front, name, rfl, hname⟩ := exists_eq_concat_of_holds hes hholds
  have hclaimed := isSome_forFile?_below languages (front.foldl Path.below path) hname
  simpa only [inputBelow, List.foldl_append, List.foldl_cons, List.foldl_nil,
    List.getLast?_concat, Option.mem_some_iff, exists_eq_left'] using hclaimed

/-- **The inputs that a path stands for are the files that it stands for.** -/
theorem collectsAt_inputsAt (languages : List Language) {fs : FileSystem} (hfs : fs.Coherent)
    (path : Path) :
    CollectsAt languages fs path
      ((inputsAt (.ofList languages) fs path).map fun i => i.path) := by
  unfold CollectsAt inputsAt
  cases hpath : fs path with
  | error reason => rfl
  | ok tree =>
    cases tree with
    | file content => rfl
    | directory es =>
      have hes : (FileTree.directory es).Proper := hfs.proper path _ hpath
      refine ⟨(foundBelow (.ofList languages) path (.directory es)).map (·.1), ?_, ?_, ?_⟩
      · exact List.pairwise_map.mpr ((FileTree.pairwise_files hes).filter _)
      · intro names
        rw [List.mem_map, ← exists_and_right]
        constructor
        · rintro ⟨⟨_, content⟩, hfound, rfl⟩
          exact ⟨content, (mem_foundBelow hes).mp hfound⟩
        · rintro ⟨content, hfound⟩
          exact ⟨(names, content), (mem_foundBelow hes).mpr hfound, rfl⟩
      · simp only [inputsBelow_eq, List.map_map]
        rfl

theorem collects_inputs (languages : List Language) {fs : FileSystem} (hfs : fs.Coherent)
    (paths : List Path) :
    Collects languages fs paths
      ((inputs (.ofList languages) fs paths).map fun i => i.path) := by
  refine ⟨paths.map fun path => (inputsAt (.ofList languages) fs path).map fun i => i.path, ?_, ?_⟩
  · induction paths with
    | nil => exact .nil
    | cons path paths ih => exact .cons (collectsAt_inputsAt languages hfs path) ih
  · rw [inputs, List.map_flatMap, List.flatMap_def]

/-- **An input is read from where its path leads.** -/
theorem source_of_mem_inputs {registry : Registry} {fs : FileSystem} (hfs : fs.Coherent)
    {paths : List Path} {i : Input} (h : i ∈ inputs registry fs paths) :
    i.source = sourceOf i.path (fs i.path) := by
  obtain ⟨path, -, hi⟩ := List.mem_flatMap.mp h
  unfold inputsAt at hi
  cases hpath : fs path with
  | error reason =>
    obtain rfl : i = ⟨path, sourceOf path (.error reason)⟩ := by simpa [hpath] using hi
    simp only [hpath]
  | ok tree =>
    cases tree with
    | file content =>
      obtain rfl : i = ⟨path, sourceOf path (.ok (.file content))⟩ := by simpa [hpath] using hi
      simp only [hpath]
    | directory es =>
      simp only [hpath, inputsBelow_eq] at hi
      obtain ⟨⟨names, content⟩, hfound, rfl⟩ := List.mem_map.mp hi
      have hholds := FileTree.mem_files_iff.mp (List.mem_of_mem_filter hfound)
      have hfile := hfs.file hholds hpath
      obtain ⟨front, name, rfl, hname⟩ := exists_eq_concat_of_holds (hfs.proper path _ hpath) hholds
      have hnotInput : isStandardInput ((front ++ [name]).foldl Path.below path) = false := by
        rw [List.foldl_append]
        exact isStandardInput_below _ hname
      simp only [inputBelow, sourceOf, hfile, hnotInput]
      rfl

/-! ## 3. One file after the other -/

/-- **Reading an input is reading at its path**, with what the inputs before it have left. -/
theorem readInput_eq {w : Surroundings} {i : Input}
    (hi : i.source = sourceOf i.path (w.files i.path)) (earlier : List Path) :
    readInput (remaining w earlier) i =
      ((readAt w earlier i.path).mapError (.unreadable i.path)).map fun text =>
        (text, remaining w (earlier ++ [i.path])) := by
  unfold readInput readAt
  rw [hi]
  unfold sourceOf
  by_cases hinput : isStandardInput i.path = true
  · have hleft : remaining w (earlier ++ [i.path]) = .empty := by simp [remaining, hinput]
    simp only [hinput, if_true, hleft]
    rfl
  · have hleft : remaining w (earlier ++ [i.path]) = remaining w earlier := by
      simp [remaining, hinput]
    simp only [hinput, Bool.false_eq_true, if_false, hleft, FileSystem.readText]
    cases w.files i.path with
    | error reason => rfl
    | ok tree => cases tree <;> rfl

theorem block_eq (s : Session) {w : Surroundings} (showHeader : Bool) {i : Input}
    (hi : i.source = sourceOf i.path (w.files i.path)) (earlier : List Path) :
    block s showHeader (remaining w earlier) i =
      (blockAt s w showHeader earlier i.path).map fun written =>
        (written, remaining w (earlier ++ [i.path])) := by
  unfold block blockAt
  rw [readInput_eq hi]
  cases (readAt w earlier i.path).mapError (CommandError.unreadable i.path) with
  | error e => rfl
  | ok text =>
    simp only [Except.map, bind, Except.bind]
    cases selectLanguage s.registry s.lexer (some i.path) text <;> rfl

theorem blocksAfter_append (s : Session) (w : Surroundings) (showHeader : Bool)
    (earlier as bs : List Path) :
    blocksAfter s w showHeader earlier (as ++ bs) =
      blocksAfter s w showHeader earlier as ++ blocksAfter s w showHeader (earlier ++ as) bs := by
  induction as generalizing earlier with
  | nil => simp [blocksAfter]
  | cons a as ih => simp [blocksAfter, ih]

/-- What files come to that are shown one after the other, after other paths: those before the first
one that fails are written, and that one's error ends it. -/
structure Shows (s : Session) (w : Surroundings) (showHeader : Bool) (earlier : List Path)
    (shown left : List Path) (o : Outcome) : Prop where
  written : ∃ texts : List (List Char),
    blocksAfter s w showHeader earlier shown = texts.map .ok ∧ o.output = texts.flatten
  ends : left = [] → o.error = none
  fails : ∀ path more, left = path :: more →
    ∃ e, blockAt s w showHeader (earlier ++ shown) path = .error e ∧ o.error = some e

/-- **Inputs are shown up to the first one that fails.** -/
theorem exists_shows (s : Session) {w : Surroundings} (showHeader : Bool) {is : List Input}
    (his : ∀ i ∈ is, i.source = sourceOf i.path (w.files i.path)) (earlier : List Path) :
    ∃ shown left, (is.map fun i => i.path) = shown ++ left ∧
      Shows s w showHeader earlier shown left (blocks s showHeader (remaining w earlier) is) := by
  induction is generalizing earlier with
  | nil => exact ⟨[], [], rfl, ⟨[], rfl, rfl⟩, fun _ => rfl, by simp⟩
  | cons i is ih =>
    obtain ⟨hi, hrest⟩ := List.forall_mem_cons.mp his
    have hblock := block_eq s showHeader hi earlier
    unfold blocks
    cases hwritten : blockAt s w showHeader earlier i.path with
    | error e =>
      rw [hwritten] at hblock
      rw [hblock]
      refine ⟨[], _, rfl, ⟨[], rfl, rfl⟩, by simp, ?_⟩
      rintro path more heq
      obtain ⟨rfl, -⟩ := List.cons.inj heq
      rw [List.append_nil]
      exact ⟨e, hwritten, rfl⟩
    | ok text =>
      rw [hwritten] at hblock
      rw [hblock]
      obtain ⟨shown, left, hsplit, ⟨texts, htexts, houtput⟩, hends, hfails⟩ :=
        ih hrest (earlier ++ [i.path])
      refine ⟨i.path :: shown, left, by rw [List.map_cons, hsplit]; rfl, ⟨text :: texts, ?_, ?_⟩,
        hends, fun path more hleft => ?_⟩
      · rw [blocksAfter, hwritten, htexts, List.map_cons]
      · simp [Except.map, houtput]
      · rw [List.append_cons]
        exact hfails path more hleft

theorem Shows.error_eq_none_iff {s : Session} {w : Surroundings} {showHeader : Bool}
    {earlier shown left : List Path} {o : Outcome} (h : Shows s w showHeader earlier shown left o) :
    o.error = none ↔
      ∀ b ∈ blocksAfter s w showHeader earlier (shown ++ left), ∃ text, b = .ok text := by
  obtain ⟨⟨texts, htexts, -⟩, hends, hfails⟩ := h
  rw [blocksAfter_append, htexts]
  cases left with
  | nil => simp [hends rfl, blocksAfter]
  | cons path more =>
    obtain ⟨e, hblock, herror⟩ := hfails path more rfl
    rw [herror, blocksAfter, hblock]
    constructor
    · intro hnone
      cases hnone
    · intro hall
      obtain ⟨text, htext⟩ := hall (.error e) (by simp)
      cases htext

/-- A file fails because it cannot be read or because no language has the name that is asked for. -/
theorem exists_of_blockAt_eq_error {s : Session} {w : Surroundings} {showHeader : Bool}
    {earlier : List Path} {path : Path} {e : CommandError}
    (h : blockAt s w showHeader earlier path = .error e) :
    (∃ reason, readAt w earlier path = .error reason ∧ e = .unreadable path reason) ∨
      ∃ text name, readAt w earlier path = .ok text ∧ s.lexer = some name ∧
        s.registry.byAlias? (String.ofList name) = none ∧ e = .unknownLexer name := by
  unfold blockAt at h
  cases hread : readAt w earlier path with
  | error reason =>
    rw [hread] at h
    exact .inl ⟨reason, rfl, (Except.error.inj h).symm⟩
  | ok text =>
    right
    rw [hread] at h
    unfold selectLanguage at h
    cases hlexer : s.lexer with
    | none =>
      rw [hlexer] at h
      cases h
    | some name =>
      cases hlanguage : s.registry.byAlias? (String.ofList name) with
      | none =>
        simp only [hlexer, hlanguage] at h
        exact ⟨text, name, rfl, rfl, hlanguage, (Except.error.inj h).symm⟩
      | some language =>
        simp only [hlexer, hlanguage] at h
        cases h

theorem run_highlight {registry : Registry} {w : Surroundings} {args : Arguments}
    {paths : List Path} {format : Format} {color : ColorMode} {theme : Option Path}
    {options : TextOptions} {loaded : Theme}
    (hcommand : args.command = .highlight paths format color theme)
    (hoptions : readOptions args.options = .ok options)
    (htheme : loadTheme w.files theme = .ok loaded) :
    run registry w args = runHighlight w
      ⟨registry, args.lexer, options, format, isColored w.onTerminal color, loaded⟩ paths := by
  unfold run
  rw [hoptions, hcommand]
  simp only [bind, Except.bind, htheme]
  rfl

/-- The only file is shown without a header, unless no language has the name that is asked for. -/
theorem runHighlight_file {w : Surroundings} {path : Path} {content : ByteArray}
    {text : List Char} (hinput : isStandardInput path = false)
    (hfile : w.files path = .ok (.file content)) (htext : decodeText content = .ok text)
    (s : Session) :
    runHighlight w s [path] =
      .ofExcept ((selectLanguage s.registry s.lexer (some path) text).map fun language =>
        .success (s.highlight language text)) := by
  have hinputs : inputs s.registry w.files [path] = [⟨path, .file content⟩] := by
    simp [inputs, inputsAt, sourceOf, hfile, hinput]
  have hread : readInput w.standardInput ⟨path, .file content⟩ = .ok (text, w.standardInput) := by
    simp only [readInput, htext]
    rfl
  simp only [runHighlight, hinputs, blocks, block, hread, bind, Except.bind]
  cases selectLanguage s.registry s.lexer (some path) text with
  | error e => rfl
  | ok language => simp [pure, Except.pure, Except.map, Outcome.ofExcept, Outcome.success]

/-- **Files are shown in order, up to the first one that fails.**  The files are those that the
paths stand for, and each one is written below its name if there are several.  The one that fails
adds nothing to the output.  The error names it if it cannot be read; if it is read but no language
has the name that is asked for, the error says so.  There is no error just if no file fails. -/
theorem highlight_shows_files (languages : List Language) {w : Surroundings}
    (hfiles : w.files.Coherent) {args : Arguments} {paths : List Path} {format : Format}
    {color : ColorMode} {theme : Option Path} {options : TextOptions} {loaded : Theme}
    (hcommand : args.command = .highlight paths format color theme)
    (hoptions : readOptions args.options = .ok options)
    (htheme : loadTheme w.files theme = .ok loaded) :
    let s : Session :=
      ⟨.ofList languages, args.lexer, options, format, isColored w.onTerminal color, loaded⟩
    let o := run (.ofList languages) w args
    ∃ shown left, Collects languages w.files paths (shown ++ left) ∧
      let showHeader := decide (1 < (shown ++ left).length)
      Shows s w showHeader [] shown left o ∧
      (∀ path more, left = path :: more →
        (∃ reason, readAt w shown path = .error reason ∧
          o.error = some (.unreadable path reason)) ∨
        ∃ text name, readAt w shown path = .ok text ∧ args.lexer = some name ∧
          (∀ l ∈ languages, hasKey l.names (String.ofList name) = false) ∧
          o.error = some (.unknownLexer name)) ∧
      (o.error = none ↔
        ∀ b ∈ blocksAfter s w showHeader [] (shown ++ left), ∃ text, b = .ok text) := by
  intro s o
  let is := inputs (.ofList languages) w.files paths
  have hrun : o = blocks s (1 < is.length) (remaining w []) is :=
    run_highlight hcommand hoptions htheme
  obtain ⟨shown, left, hsplit, hshows⟩ :=
    exists_shows s (1 < is.length) (fun i hi => source_of_mem_inputs hfiles hi) []
  have hlength : is.length = (shown ++ left).length := by rw [← hsplit, List.length_map]
  rw [← hrun, hlength] at hshows
  refine ⟨shown, left, ?_, hshows, fun path more hleft => ?_, hshows.error_eq_none_iff⟩
  · rw [← hsplit]
    exact collects_inputs languages hfiles paths
  · obtain ⟨e, hblock, herror⟩ := hshows.fails path more hleft
    rw [herror]
    rcases exists_of_blockAt_eq_error hblock with
      ⟨reason, hread, rfl⟩ | ⟨text, name, hread, hlexer, hunknown, rfl⟩
    · exact .inl ⟨reason, hread, rfl⟩
    · refine .inr ⟨text, name, hread, hlexer, fun l hl => ?_, rfl⟩
      have hconsistent := Registry.consistent_ofList languages
      rw [hconsistent.byAlias?, Registry.languages_ofList, List.getLast?_eq_none_iff,
        List.filter_eq_nil_iff] at hunknown
      exact Bool.eq_false_iff.mpr (hunknown l hl)

/-- A directory with a file that is a text and one that is none. -/
def sample : FileTree :=
  (FileTree.file (encodeText ['x', '\n'])).put ["s".toList, "a.shadow".toList]
    ((FileTree.file ⟨#[255]⟩).put ["s".toList, "b.shadow".toList] .empty)

theorem proper_sample : sample.Proper := by
  have ha : ∀ name ∈ ["s".toList, "a.shadow".toList], Path.IsName name := by decide
  have hb : ∀ name ∈ ["s".toList, "b.shadow".toList], Path.IsName name := by decide
  exact (FileTree.Proper.file _).put ha ((FileTree.Proper.file _).put hb FileTree.proper_empty)

/-- All files of the sample are asked for by their directory. -/
theorem highlight_shows_files_sample :
    let w : Surroundings := ⟨sample.follow, .empty, false⟩
    let args : Arguments := { command := .highlight ["s".toList] .raw .auto none }
    let s : Session := ⟨.ofList [Shadow.language], none, {}, .raw, false, .standard⟩
    w.files.Coherent ∧ readOptions args.options = .ok {} ∧
      loadTheme w.files none = .ok .standard ∧
      ∃ shown left, Collects [Shadow.language] w.files ["s".toList] (shown ++ left) ∧
        Shows s w (decide (1 < (shown ++ left).length)) [] shown left
          (run (.ofList [Shadow.language]) w args) := by
  intro w args s
  have hfiles : w.files.Coherent := proper_sample.coherent_follow
  have hcommand : args.command = .highlight ["s".toList] .raw .auto none := rfl
  obtain ⟨shown, left, hcollects, hshows, -⟩ :=
    highlight_shows_files [Shadow.language] hfiles hcommand rfl rfl
  exact ⟨hfiles, rfl, rfl, shown, left, hcollects, hshows⟩

/-- A file that is read may fail since no language has the name that is asked for.  Then the error
names what was asked for, and not the file. -/
theorem unknown_lexer_names_no_file :
    let w : Surroundings := ⟨sample.follow, .empty, false⟩
    let path := "s/a.shadow".toList
    let args : Arguments :=
      { command := .highlight [path] .terminal .auto none, lexer := some "cobol".toList }
    Collects [Shadow.language] w.files [path] [path] ∧ readAt w [] path = .ok ['x', '\n'] ∧
      run .builtin w args = ⟨[], some (.unknownLexer "cobol".toList)⟩ ∧
      ¬ path <:+: (CommandError.message (.unknownLexer "cobol".toList)).toList := by
  intro w path args
  have hinput : isStandardInput path = false := by decide
  have hfile : w.files path = .ok (.file (encodeText ['x', '\n'])) := rfl
  have htext : decodeText (encodeText ['x', '\n']) = .ok ['x', '\n'] :=
    decodeText_eq_ok_iff.mpr rfl
  have hcommand : args.command = .highlight [path] .terminal .auto none := rfl
  refine ⟨⟨[[path]], .cons rfl .nil, rfl⟩, htext, ?_, by decide +kernel⟩
  rw [run_highlight hcommand rfl rfl, runHighlight_file hinput hfile htext]
  rfl

/-! ## 4. One file without colours -/

/-- A language is found if one has the name that is asked for, or if none is asked for. -/
theorem exists_selectLanguage {registry : Registry} {lexer : Option (List Char)}
    (h : ∀ name ∈ lexer, (registry.byAlias? (String.ofList name)).isSome = true)
    (path : Option Path) (text : List Char) :
    ∃ language, selectLanguage registry lexer path text = .ok language := by
  unfold selectLanguage
  cases lexer with
  | none => exact ⟨_, rfl⟩
  | some name =>
    obtain ⟨language, hlanguage⟩ := Option.isSome_iff_exists.mp (h name rfl)
    simp only [hlanguage]
    exact ⟨language, rfl⟩

/-- Without options and colours, a text that is highlighted stays what it is. -/
theorem highlight_plain {s : Session} (hoptions : s.options = {}) (hformat : s.format = .terminal)
    (hcolored : s.colored = false) (language : Language) (text : List Char) :
    s.highlight language text = text := by
  have hprepare : s.options.prepare text = text := by
    rw [hoptions]
    rfl
  rw [Session.highlight, hprepare, hformat, hcolored, Format.write, Terminal.write_plain]
  exact Table.texts_tokenizeFrom _ _ _

/-- **What a terminal shows is the source.**  With the styles left out, it is the texts of the
tokens, and the styles never meet a line feed: each one is written while no style is active, and
none is active at the end.  So a file that is text is shown byte for byte where colours are off and
the options are the default ones. -/
theorem terminal_shows_source :
    (∀ theme tokens,
      Terminal.written (Terminal.actions theme tokens) = texts tokens ∧
      Terminal.write false theme tokens = texts tokens ∧
      Terminal.PlainLineFeeds none (Terminal.actions theme tokens) ∧
      Terminal.activeAfter none (Terminal.actions theme tokens) = none) ∧
    ∀ (registry : Registry) (w : Surroundings) (args : Arguments) (path : Path)
      (color : ColorMode) (theme : Option Path) (loaded : Theme) (content : ByteArray)
      (text : List Char),
      args.command = .highlight [path] .terminal color theme →
      isColored w.onTerminal color = false → readOptions args.options = .ok {} →
      loadTheme w.files theme = .ok loaded →
      (∀ name ∈ args.lexer, (registry.byAlias? (String.ofList name)).isSome = true) →
      isStandardInput path = false → w.files path = .ok (.file content) →
      decodeText content = .ok text →
      (run registry w args).error = none ∧ encodeText (run registry w args).output = content := by
  refine ⟨fun theme tokens => ?_, ?_⟩
  · obtain ⟨hplain, hactive⟩ := Terminal.plainLineFeeds_actions theme tokens
    exact ⟨Terminal.written_actions theme tokens, Terminal.write_plain theme tokens, hplain,
      hactive⟩
  · intro registry w args path color theme loaded content text hcommand hcolored hoptions htheme
      hlexer hinput hfile htext
    obtain ⟨language, hlanguage⟩ := exists_selectLanguage hlexer (some path) text
    have hshown := highlight_plain (s := ⟨registry, args.lexer, {}, .terminal, false, loaded⟩)
      rfl rfl rfl language text
    rw [run_highlight hcommand hoptions htheme, runHighlight_file hinput hfile htext, hcolored,
      hlanguage, Except.map, hshown]
    exact ⟨rfl, (decodeText_eq_ok_iff.mp htext).symm⟩

/-- The text of the sample file is shown as it is. -/
theorem terminal_shows_source_sample :
    let w : Surroundings := ⟨sample.follow, .empty, false⟩
    let path := "s/a.shadow".toList
    let args : Arguments :=
      { command := .highlight [path] .terminal .auto none, lexer := some "SHADOW".toList }
    isColored w.onTerminal .auto = false ∧ readOptions args.options = .ok {} ∧
      loadTheme w.files none = .ok .standard ∧
      (∀ name ∈ args.lexer, (Registry.builtin.byAlias? (String.ofList name)).isSome = true) ∧
      isStandardInput path = false ∧ w.files path = .ok (.file (encodeText ['x', '\n'])) ∧
      decodeText (encodeText ['x', '\n']) = .ok ['x', '\n'] ∧
      (run .builtin w args).error = none ∧
      encodeText (run .builtin w args).output = encodeText ['x', '\n'] := by
  intro w path args
  have hlexer : ∀ name ∈ args.lexer,
      (Registry.builtin.byAlias? (String.ofList name)).isSome = true := by
    intro name hname
    obtain rfl := Option.some.inj hname
    decide
  have hinput : isStandardInput path = false := by decide
  have hfile : w.files path = .ok (.file (encodeText ['x', '\n'])) := rfl
  have htext : decodeText (encodeText ['x', '\n']) = .ok ['x', '\n'] :=
    decodeText_eq_ok_iff.mpr rfl
  have hshown := terminal_shows_source.2 .builtin w args path .auto none .standard _ _ rfl rfl rfl
    rfl hlexer hinput hfile htext
  exact ⟨rfl, rfl, rfl, hlexer, hinput, hfile, htext, hshown⟩

end Command

end Highlighter
