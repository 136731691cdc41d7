/-
# The files of a tree, and their paths

Going through a directory gives its regular files and nothing else (`FileTree.mem_files_iff`), in
the order of the names that lead to them (`FileTree.pairwise_files`).  Names are compared one after
the other, so all files below a subdirectory come together, at the place that its name has among
the entries: this is depth first, in the order of file names.

The path that is made of the names leads back to the file (`FileSystem.Coherent.file`).  This takes
two things of a file system: no directory has two entries of one name, and what a directory lists is
what is found behind it.  Every tree with proper names has both (`FileTree.Proper.coherent_follow`).
-/
import Highlighter.Files.Tree
import Mathlib.Data.Char
import Mathlib.Data.List.Lex

namespace Highlighter

/-! ## 1. Splitting -/

namespace Text

/-- Only a text that begins with a separator has an empty part before others. -/
theorem head?_of_splitAt {separator : Char} {text : List Char} {parts : List (List Char)}
    (h : splitAt separator text = [] :: parts) (hparts : parts ≠ []) :
    text.head? = some separator := by
  cases text with
  | nil =>
    simp only [splitAt, splitWhere, List.cons.injEq, true_and] at h
    exact absurd h.symm hparts
  | cons c cs =>
    unfold splitAt splitWhere at h
    split at h
    · rename_i hc
      rw [List.head?_cons, eq_of_beq hc]
    · split at h
      · cases h
      · cases h

end Text

/-! ## 2. Paths -/

namespace Path

/-- A name that an entry of a directory can have. -/
structure IsName (name : List Char) : Prop where
  ne_nil : name ≠ []
  slash_not_mem : '/' ∉ name
  ne_here : name ≠ here
  ne_up : name ≠ up

instance : DecidablePred IsName := fun name =>
  decidable_of_iff (name ≠ [] ∧ '/' ∉ name ∧ name ≠ here ∧ name ≠ up)
    ⟨fun ⟨h₁, h₂, h₃, h₄⟩ => ⟨h₁, h₂, h₃, h₄⟩, fun ⟨h₁, h₂, h₃, h₄⟩ => ⟨h₁, h₂, h₃, h₄⟩⟩

/-- The pieces of a path below a directory: those of the directory, and the name. -/
theorem exists_pieces_below (path : Path) {name : List Char} (h : IsName name) :
    ∃ front, pieces (below path name) = front ++ [name] ∧ front ≠ [] ∧
      (pieces path = front ∨ pieces path = front ++ [[]]) := by
  have hsplit (before after : List Char) :
      pieces (before ++ '/' :: after) = pieces before ++ pieces after :=
    Text.splitWhere_append_cons rfl before after
  have hname : pieces name = [name] := Text.splitAt_of_not_mem h.slash_not_mem
  unfold below
  split
  · rename_i hlast
    obtain ⟨front, rfl⟩ := List.getLast?_eq_some_iff.mp (eq_of_beq hlast)
    refine ⟨pieces front, ?_, Text.splitWhere_ne_nil _ front, .inr ?_⟩
    · rw [List.append_assoc, List.singleton_append, hsplit, hname]
    · rw [hsplit]
      rfl
  · refine ⟨pieces path, ?_, Text.splitWhere_ne_nil _ path, .inl rfl⟩
    rw [List.append_assoc, List.singleton_append, hsplit, hname]

theorem isAbsolute_below {path : Path} (h : path ≠ []) (name : List Char) :
    isAbsolute (below path name) = isAbsolute path := by
  obtain ⟨c, cs, rfl⟩ := List.exists_cons_of_ne_nil h
  unfold below
  split <;> rfl

theorem below_ne_nil (path : Path) {name : List Char} (h : name ≠ []) : below path name ≠ [] := by
  unfold below
  split <;> simp [h]

/-- The parts of a path below a directory.  Only an absolute path has no part before the name. -/
theorem exists_parts_below (path : Path) {name : List Char} (h : IsName name) :
    ∃ front, parts (below path name) = front ++ [name] ∧
      (front = [] → isAbsolute (below path name) = true) := by
  obtain ⟨pieces, hpieces, hne, -⟩ := exists_pieces_below path h
  obtain ⟨first, more, rfl⟩ := List.exists_cons_of_ne_nil hne
  have hkept : [name].filter (fun p => !p.isEmpty && p != here) = [name] := by
    simp [h.ne_nil, h.ne_here]
  refine ⟨(if first.isEmpty then [] else [first]) ++ more.filter fun p => !p.isEmpty && p != here,
    ?_, fun hfront => ?_⟩
  · rw [parts, hpieces, List.cons_append]
    dsimp only
    rw [List.filter_append, hkept, List.append_assoc]
  · have hfirst : first = [] := by
      have := (List.append_eq_nil_iff.mp hfront).1
      by_contra hne
      simp [hne] at this
    rw [hfirst, List.cons_append] at hpieces
    rw [isAbsolute, Text.head?_of_splitAt hpieces (by simp)]
    rfl

/-- The name of a file is the last name that leads to it. -/
theorem fileName?_below (path : Path) {name : List Char} (h : IsName name) :
    fileName? (below path name) = some name := by
  obtain ⟨front, hfront, -⟩ := exists_parts_below path h
  rw [fileName?, hfront, List.getLast?_concat]
  simp [h.ne_here, h.ne_up]

end Path

/-! ## 3. Trees -/

namespace FileTree

/-- A tree as a file system can have it: the names in a directory are names, and all different. -/
inductive Proper : FileTree → Prop
  | file (content : ByteArray) : Proper (.file content)
  | directory {es : List (List Char × FileTree)} (distinct : (es.map (·.1)).Nodup)
      (names : ∀ e ∈ es, Path.IsName e.1) (proper : ∀ e ∈ es, Proper e.2) : Proper (.directory es)

/-- The names lead to a regular file. -/
inductive Holds : FileTree → List (List Char) → ByteArray → Prop
  | here (content : ByteArray) : Holds (.file content) [] content
  | inside {es : List (List Char × FileTree)} {name : List Char} {t : FileTree}
      {names : List (List Char)} {content : ByteArray} (mem : (name, t) ∈ es)
      (holds : Holds t names content) : Holds (.directory es) (name :: names) content

theorem proper_empty : empty.Proper := .directory (by simp) (by simp) (by simp)

theorem map_fst_putEntry (name : List Char) (change : FileTree → FileTree)
    (es : List (List Char × FileTree)) :
    (putEntry name change es).map (·.1) =
      if name ∈ es.map (·.1) then es.map (·.1) else es.map (·.1) ++ [name] := by
  induction es with
  | nil => rfl
  | cons e es ih =>
    unfold putEntry
    by_cases hname : name = e.1
    · simp [hname]
    · rw [if_neg (by simpa using hname), List.map_cons, ih]
      simp only [List.map_cons, List.mem_cons, hname, false_or]
      split <;> rfl

theorem of_mem_putEntry {name : List Char} {change : FileTree → FileTree}
    {es : List (List Char × FileTree)} {e : List Char × FileTree}
    (h : e ∈ putEntry name change es) :
    e ∈ es ∨ e.1 = name ∧ ∃ t, (t = empty ∨ (name, t) ∈ es) ∧ e.2 = change t := by
  induction es with
  | nil =>
    obtain rfl := List.mem_singleton.mp h
    exact .inr ⟨rfl, empty, .inl rfl, rfl⟩
  | cons first es ih =>
    unfold putEntry at h
    by_cases hname : name = first.1
    · rw [if_pos (by simpa using hname)] at h
      rcases List.mem_cons.mp h with rfl | h
      · exact .inr ⟨rfl, first.2, .inr (by simp [hname]), rfl⟩
      · exact .inl (List.mem_cons_of_mem first h)
    · rw [if_neg (by simpa using hname)] at h
      rcases List.mem_cons.mp h with rfl | h
      · exact .inl List.mem_cons_self
      · rcases ih h with hmem | ⟨heq, t, ht, hchange⟩
        · exact .inl (List.mem_cons_of_mem first hmem)
        · exact .inr ⟨heq, t, ht.imp_right (List.mem_cons_of_mem first), hchange⟩

/-- **Putting a proper tree at a row of names keeps a tree proper.** -/
theorem Proper.put {tree : FileTree} (htree : tree.Proper) {names : List (List Char)}
    (hnames : ∀ name ∈ names, Path.IsName name) {t : FileTree} (ht : t.Proper) :
    (FileTree.put tree names t).Proper := by
  induction names generalizing t with
  | nil => exact htree
  | cons name names ih =>
    obtain ⟨hname, hnames⟩ := List.forall_mem_cons.mp hnames
    have hentries : (FileTree.directory t.entries).Proper := by
      cases ht with
      | file content => exact proper_empty
      | directory distinct names proper => exact .directory distinct names proper
    cases hentries with
    | directory distinct proper_names proper =>
      refine .directory ?_ (fun e he => ?_) fun e he => ?_
      · rw [map_fst_putEntry]
        split
        · exact distinct
        · rename_i hnew
          refine List.nodup_append.mpr ⟨distinct, by simp, ?_⟩
          rintro _ hmem _ hsingle rfl
          exact hnew (List.mem_singleton.mp hsingle ▸ hmem)
      · rcases of_mem_putEntry he with hmem | ⟨heq, -⟩
        · exact proper_names e hmem
        · rw [heq]
          exact hname
      · rcases of_mem_putEntry he with hmem | ⟨-, inner, hinner, heq⟩
        · exact proper e hmem
        · rw [heq]
          refine ih hnames ?_
          rcases hinner with rfl | hmem
          · exact proper_empty
          · exact proper _ hmem

theorem filesOf_eq_map (es : List (List Char × FileTree)) :
    filesOf es = es.map fun e => (e.1, e.2.files) := by
  induction es with
  | nil => rfl
  | cons e es ih => rw [filesOf, ih, List.map_cons]

theorem mem_files_directory {es : List (List Char × FileTree)} {names : List (List Char)}
    {content : ByteArray} :
    (names, content) ∈ (directory es).files ↔
      ∃ e ∈ es, ∃ found ∈ e.2.files, names = e.1 :: found.1 ∧ content = found.2 := by
  rw [files, List.mem_flatMap]
  simp only [List.mem_mergeSort, filesOf_eq_map, List.mem_map]
  constructor
  · rintro ⟨_, ⟨e, he, rfl⟩, found, hfound, heq⟩
    obtain ⟨hnames, hcontent⟩ := Prod.mk.inj heq
    exact ⟨e, he, found, hfound, hnames.symm, hcontent.symm⟩
  · rintro ⟨e, he, found, hfound, rfl, rfl⟩
    exact ⟨_, ⟨e, he, rfl⟩, found, hfound, rfl⟩

/-- **Going through a tree meets the regular files and nothing else.** -/
theorem mem_files_iff {t : FileTree} {names : List (List Char)} {content : ByteArray} :
    (names, content) ∈ t.files ↔ t.Holds names content := by
  constructor
  · intro h
    induction names generalizing t with
    | nil =>
      cases t with
      | file other =>
        obtain rfl : content = other := by simpa [files] using h
        exact .here content
      | directory es =>
        obtain ⟨e, -, found, -, hnames, -⟩ := mem_files_directory.mp h
        cases hnames
    | cons name names ih =>
      cases t with
      | file other => simp [files] at h
      | directory es =>
        obtain ⟨⟨first, t⟩, he, found, hfound, hnames, rfl⟩ := mem_files_directory.mp h
        obtain ⟨rfl, rfl⟩ := List.cons.inj hnames
        exact .inside he (ih hfound)
  · intro h
    induction h with
    | here content => simp [files]
    | inside mem _ ih => exact mem_files_directory.mpr ⟨_, mem, _, ih, rfl, rfl⟩

/-- Entries of different names, sorted. -/
theorem pairwise_mergeSort_inOrder {α : Type} {es : List (List Char × α)}
    (h : (es.map (·.1)).Nodup) : (es.mergeSort inOrder).Pairwise fun a b => a.1 < b.1 := by
  have hle : ∀ a b : List Char × α, inOrder a b = true ↔ a.1 ≤ b.1 := by simp [inOrder]
  have hsorted : (es.mergeSort inOrder).Pairwise fun a b => inOrder a b = true := by
    refine List.pairwise_mergeSort ?_ ?_ es
    · intro a b c hab hbc
      rw [hle] at hab hbc ⊢
      exact hab.trans hbc
    · intro a b
      rw [Bool.or_eq_true, hle, hle]
      exact le_total a.1 b.1
  have hdistinct : (es.mergeSort inOrder).Pairwise fun a b => a.1 ≠ b.1 := by
    have hperm := (List.mergeSort_perm es inOrder).map (·.1)
    exact List.pairwise_map.mp (hperm.nodup_iff.mpr h)
  exact hsorted.imp₂ (fun a b hab hne => lt_of_le_of_ne ((hle a b).mp hab) hne) hdistinct

/-- **The files come in the order of the names that lead to them**: depth first, and those of a
directory by the names of its entries. -/
theorem pairwise_files {t : FileTree} (h : t.Proper) : t.files.Pairwise fun a b => a.1 < b.1 := by
  induction h with
  | file content => simp [files]
  | @directory es distinct _ _ ih =>
    have hes : ((filesOf es).mergeSort inOrder).Pairwise fun a b => a.1 < b.1 := by
      refine pairwise_mergeSort_inOrder ?_
      rwa [filesOf_eq_map, List.map_map]
    rw [files, List.pairwise_flatMap]
    constructor
    · rintro ⟨name, found⟩ hmem
      rw [List.mem_mergeSort, filesOf_eq_map, List.mem_map] at hmem
      obtain ⟨e, he, heq⟩ := hmem
      obtain ⟨-, rfl⟩ := Prod.mk.inj heq
      refine List.pairwise_map.mpr ((ih e he).imp ?_)
      intro a b hab
      exact List.cons_lt_cons_iff.mpr (.inr ⟨rfl, hab⟩)
    · refine hes.imp ?_
      rintro a b hab x hx y hy
      obtain ⟨_, -, rfl⟩ := List.mem_map.mp hx
      obtain ⟨_, -, rfl⟩ := List.mem_map.mp hy
      exact List.cons_lt_cons_iff.mpr (.inl hab)

/-- What leads to a file of a proper tree is names. -/
theorem Holds.isName {t : FileTree} {names : List (List Char)} {content : ByteArray}
    (h : t.Holds names content) (ht : t.Proper) : ∀ name ∈ names, Path.IsName name := by
  induction h with
  | here => simp
  | inside mem _ ih =>
    cases ht with
    | directory _ hnames hproper =>
      intro name hname
      rcases List.mem_cons.mp hname with rfl | hname
      · exact hnames _ mem
      · exact ih (hproper _ mem) name hname

/-! ## 4. Following a path -/

/-- Following parts ends at a place from which more parts are followed, or fails whatever comes
after them.  From proper trees it leads to proper trees only. -/
theorem followFrom_append (parts : List (List Char)) (above : List FileTree) (t : FileTree) :
    (∃ reason, ∀ more, followFrom above t (parts ++ more) = .error reason) ∨
      ∃ above' t', (∀ more, followFrom above t (parts ++ more) = followFrom above' t' more) ∧
        (t.Proper → (∀ a ∈ above, a.Proper) → t'.Proper) := by
  induction parts generalizing above t with
  | nil => exact .inr ⟨above, t, fun _ => rfl, fun ht _ => ht⟩
  | cons part parts ih =>
    cases t with
    | file content => exact .inl ⟨.notADirectory, fun _ => rfl⟩
    | directory es =>
      by_cases hskip : (part.isEmpty || part == Path.here) = true
      · simpa [followFrom, hskip] using ih above (.directory es)
      by_cases hup : (part == Path.up) = true
      · cases above with
        | nil => simpa [followFrom, hskip, hup] using ih [] (.directory es)
        | cons parent above =>
          rcases ih above parent with ⟨reason, hfail⟩ | ⟨above', t', hgo, hproper⟩
          · exact .inl ⟨reason, by simpa [followFrom, hskip, hup] using hfail⟩
          · refine .inr ⟨above', t', by simpa [followFrom, hskip, hup] using hgo, fun _ ha => ?_⟩
            exact hproper (ha parent List.mem_cons_self)
              fun a hmem => ha a (List.mem_cons_of_mem parent hmem)
      cases hnext : es.lookup part with
      | none => exact .inl ⟨.notFound, by simp [followFrom, hskip, hup, hnext]⟩
      | some next =>
        rcases ih (.directory es :: above) next with ⟨reason, hfail⟩ | ⟨above', t', hgo, hproper⟩
        · exact .inl ⟨reason, by simpa [followFrom, hskip, hup, hnext] using hfail⟩
        · refine .inr ⟨above', t', by simpa [followFrom, hskip, hup, hnext] using hgo, ?_⟩
          intro ht ha
          refine hproper ?_ (List.forall_mem_cons.mpr ⟨ht, ha⟩)
          obtain ⟨_, _, rfl, -⟩ := List.lookup_eq_some_iff.mp hnext
          cases ht with
          | directory _ _ hes => exact hes (part, next) (by simp)

/-- Where names are all different, each is looked up where it stands. -/
theorem lookup_of_mem {α : Type} {es : List (List Char × α)} (h : (es.map (·.1)).Nodup)
    {name : List Char} {a : α} (hmem : (name, a) ∈ es) : es.lookup name = some a := by
  obtain ⟨before, after, rfl⟩ := List.append_of_mem hmem
  refine List.lookup_eq_some_iff.mpr ⟨before, after, rfl, fun e he => ?_⟩
  rw [List.map_append, List.map_cons, List.nodup_append] at h
  have hne : e.1 ≠ name := h.2.2 e.1 (List.mem_map_of_mem he) name List.mem_cons_self
  simpa using hne.symm

end FileTree

namespace FileSystem

/-- What directories list is what is found behind them, and there are only proper trees. -/
structure Coherent (fs : FileSystem) : Prop where
  proper : ∀ path t, fs path = .ok t → t.Proper
  inside : ∀ path es, fs path = .ok (.directory es) →
    ∀ e ∈ es, fs (Path.below path e.1) = .ok e.2

/-- **The path that is made of the names that lead to a file leads to the file.** -/
theorem Coherent.file {fs : FileSystem} (hfs : fs.Coherent) {t : FileTree}
    {names : List (List Char)} {content : ByteArray} (h : t.Holds names content) {path : Path}
    (hpath : fs path = .ok t) : fs (names.foldl Path.below path) = .ok (.file content) := by
  induction h generalizing path with
  | here => exact hpath
  | inside mem _ ih => exact ih (hfs.inside path _ hpath _ mem)

end FileSystem

namespace FileTree

/-- A slash at the end of a path to a directory changes nothing. -/
theorem eq_directory_of_followFrom {es : List (List Char × FileTree)} {above : List FileTree}
    {t : FileTree} (h : followFrom above t [[]] = .ok (directory es)) : t = directory es := by
  cases t with
  | file => cases h
  | directory => exact Except.ok.inj h

/-- A name leads from a directory to its entry. -/
theorem followFrom_name {es : List (List Char × FileTree)} (hes : (directory es).Proper)
    {e : List Char × FileTree} (he : e ∈ es) (above : List FileTree) :
    followFrom above (directory es) [e.1] = .ok e.2 := by
  cases hes with
  | directory distinct names _ =>
    have hname := names e he
    have hlookup : es.lookup e.1 = some e.2 := lookup_of_mem distinct he
    simp [followFrom, hname.ne_nil, hname.ne_here, hname.ne_up, hlookup]

theorem Proper.follow {root : FileTree} (hroot : root.Proper) {path : Path} {t : FileTree}
    (h : root.follow path = .ok t) : t.Proper := by
  unfold FileTree.follow at h
  split at h
  · cases h
  · rw [← List.append_nil (Path.pieces path)] at h
    rcases followFrom_append (Path.pieces path) [] root with ⟨reason, hfail⟩ | ⟨_, t', hgo, hproper⟩
    · rw [hfail] at h
      cases h
    · rw [hgo] at h
      obtain rfl := Except.ok.inj h
      exact hproper hroot (by simp)

/-- **Every proper tree is a coherent file system.** -/
theorem Proper.coherent_follow {root : FileTree} (hroot : root.Proper) :
    FileSystem.Coherent root.follow := by
  refine ⟨fun path t => hroot.follow, fun path es h e he => ?_⟩
  have hes : (FileTree.directory es).Proper := hroot.follow h
  have hname : Path.IsName e.1 := by
    cases hes with
    | directory _ names _ => exact names e he
  obtain ⟨front, hbelow, -, hpath⟩ := Path.exists_pieces_below path hname
  unfold FileTree.follow at h ⊢
  split at h
  · cases h
  rename_i hrelative
  have hne : path ≠ [] := by
    rintro rfl
    exact hrelative rfl
  have hbelow_ne := Path.below_ne_nil path hname.ne_nil
  rw [Path.isAbsolute_below hne, if_neg (by simpa [hbelow_ne, hne] using hrelative), hbelow]
  rcases followFrom_append front [] root with ⟨reason, hfail⟩ | ⟨above, t, hgo, -⟩
  · rcases hpath with hpath | hpath
    · rw [hpath, ← List.append_nil front, hfail] at h
      cases h
    · rw [hpath, hfail] at h
      cases h
  · have ht : t = FileTree.directory es := by
      rcases hpath with hpath | hpath
      · rw [hpath, ← List.append_nil front, hgo] at h
        exact Except.ok.inj h
      · rw [hpath, hgo] at h
        exact eq_directory_of_followFrom h
    rw [hgo, ht]
    exact followFrom_name hes he above

end FileTree

/-! ## 5. Texts as bytes -/

/-- The bytes of a text. -/
def encodeText (text : List Char) : ByteArray := (String.ofList text).toUTF8

/-- **Reading bytes as text is undone by writing the text**, and fails for all other bytes. -/
theorem decodeText_eq_ok_iff {content : ByteArray} {text : List Char} :
    decodeText content = .ok text ↔ content = encodeText text := by
  unfold decodeText encodeText String.fromUTF8?
  by_cases hvalid : content.IsValidUTF8
  · rw [dif_pos hvalid]
    constructor
    · intro h
      obtain rfl := Except.ok.inj h
      rw [String.ofList_toList]
      rfl
    · rintro rfl
      exact congrArg Except.ok String.toList_ofList
  · rw [dif_neg hvalid]
    constructor
    · intro h
      cases h
    · rintro rfl
      exact absurd (String.isValidUTF8 _) hvalid

end Highlighter
