/-
# What a registry finds

A registry refers to its languages by their positions: in two maps, in which a later registration
takes a key over, and in a list of globs, of which an earlier one goes first.  This module says what
is found there in terms of **the list of languages alone**, after any registrations.

* What one registration keeps is said once for both maps (`Indexes.register`) and once for the globs
  (`IndexesGlobs.register`): every position is that of a language, and a look-up gives what a look
  at the list gives.  The new language has the next position, so no older entry changes its meaning.
* `Consistent` is all of this for a registry; the induction over the registrations is
  `Consistent.foldl_register`.
* A guess keeps the better one of two, and of equally good ones the later.  Over a whole list that
  is the last one of those that no other one exceeds (`foldl_better`).
-/
import Highlighter.Registry.Basic
import Mathlib.Data.List.Induction

namespace Highlighter

/-! ## 1. What is asked of a language -/

/-- One of the keys is the given one, up to ASCII case. -/
def hasKey (keys : List String) (given : String) : Bool :=
  keys.any fun key => CharClass.asciiLowercase given == CharClass.asciiLowercase key

namespace Language

/-- What a language is called. -/
def names (l : Language) : List String := l.info.name :: l.info.aliases

/-- The globs of a language, each with the language. -/
def globs (l : Language) : List (String × Language) := l.info.filenames.map fun glob => (glob, l)

end Language

/-- The languages that may be meant by a text. -/
def confident (ls : List Language) (text : List Char) : List Language :=
  ls.filter fun l => (l.confidence text).isPositive

/-- Of these, the ones that no other one exceeds. -/
def mostConfident (ls : List Language) (text : List Char) : List Language :=
  (confident ls text).filter fun l =>
    (confident ls text).all fun other => (other.confidence text).atMost (l.confidence text)

/-! ## 2. Keys -/

namespace Registry

/-- A map from keys to the positions of the last languages that have them. -/
structure Indexes (keys : Language → List String) (entries : List (String × Nat))
    (ls : List Language) : Prop where
  lt : ∀ e ∈ entries, e.2 < ls.length
  lookup : ∀ given, (entries.lookup (CharClass.asciiLowercase given)).bind (fun i => ls[i]?) =
    (ls.filter fun l => hasKey (keys l) given).getLast?

theorem lookup_entries (keys : List String) (index : Nat) (given : String) :
    (entries keys index).lookup (CharClass.asciiLowercase given) =
      if hasKey keys given then some index else none := by
  induction keys with
  | nil => rfl
  | cons key keys ih =>
    rw [entries, List.map_cons, List.lookup_cons, ← entries, ih, hasKey, hasKey, List.any_cons]
    cases CharClass.asciiLowercase given == CharClass.asciiLowercase key <;> rfl

theorem indexes_nil (keys : Language → List String) : Indexes keys [] [] :=
  ⟨by simp, by simp⟩

/-- **A registration takes its keys over and keeps all others.** -/
theorem Indexes.register {keys : Language → List String} {es : List (String × Nat)}
    {ls : List Language} (h : Indexes keys es ls) (l : Language) :
    Indexes keys (entries (keys l) ls.length ++ es) (ls ++ [l]) := by
  constructor
  · intro e he
    rw [List.length_append, List.length_singleton]
    rcases List.mem_append.mp he with he | he
    · obtain ⟨key, -, rfl⟩ := List.mem_map.mp he
      exact Nat.lt_succ_self _
    · exact Nat.lt_succ_of_lt (h.lt e he)
  · intro given
    rw [List.lookup_append, lookup_entries, List.filter_append]
    by_cases hl : hasKey (keys l) given = true
    · simp [hl]
    · have hlast : [l].filter (fun l => hasKey (keys l) given) = [] := by simp [hl]
      rw [if_neg hl, Option.none_or, hlast, List.append_nil, ← h.lookup given]
      cases hes : es.lookup (CharClass.asciiLowercase given) with
      | none => rfl
      | some i =>
        obtain ⟨before, after, rfl, -⟩ := List.lookup_eq_some_iff.mp hes
        exact List.getElem?_append_left (h.lt (CharClass.asciiLowercase given, i) (by simp))

/-! ## 3. Globs -/

/-- Patterns of globs with the positions of their languages, in the order of registration. -/
structure IndexesGlobs (patterns : List (Pattern × Nat)) (ls : List Language) : Prop where
  lt : ∀ e ∈ patterns, e.2 < ls.length
  find : ∀ name, ((patterns.find? fun e => Glob.accepts e.1 name).bind fun e => ls[e.2]?) =
    ((ls.flatMap Language.globs).find? fun e => Glob.fits e.1.toList name).map (·.2)

theorem indexesGlobs_nil : IndexesGlobs [] [] := ⟨by simp, by simp⟩

/-- The first glob that fits is found among the patterns.  A glob that is refused fits nothing, so
leaving it out changes nothing. -/
theorem find?_patterns (globs : List String) (index : Nat) (name : List Char) :
    ((patterns globs index).find? fun e => Glob.accepts e.1 name).map (·.2) =
      (globs.find? fun glob => Glob.fits glob.toList name).map fun _ => index := by
  induction globs with
  | nil => rfl
  | cons glob globs ih =>
    unfold patterns at ih ⊢
    rw [List.filterMap_cons]
    cases hglob : Glob.compile? glob.toList with
    | none =>
      have hfits : Glob.fits glob.toList name = false := by simp [Glob.fits, hglob]
      rw [List.find?_cons, hfits]
      exact ih
    | some pattern =>
      have hfits : Glob.fits glob.toList name = Glob.accepts pattern name := by
        simp [Glob.fits, hglob]
      simp only [Option.map_some, List.find?_cons, hfits]
      cases Glob.accepts pattern name with
      | true => rfl
      | false => exact ih

/-- **A registration puts its globs behind all others.** -/
theorem IndexesGlobs.register {ps : List (Pattern × Nat)} {ls : List Language}
    (h : IndexesGlobs ps ls) (l : Language) :
    IndexesGlobs (ps ++ patterns l.info.filenames ls.length) (ls ++ [l]) := by
  constructor
  · intro e he
    rw [List.length_append, List.length_singleton]
    rcases List.mem_append.mp he with he | he
    · exact Nat.lt_succ_of_lt (h.lt e he)
    · obtain ⟨glob, -, hglob⟩ := List.mem_filterMap.mp he
      obtain ⟨pattern, -, rfl⟩ := Option.map_eq_some_iff.mp hglob
      exact Nat.lt_succ_self _
  · intro name
    have hold := h.find name
    rw [List.find?_append, List.flatMap_append, List.find?_append, List.flatMap_singleton]
    cases hps : ps.find? fun e => Glob.accepts e.1 name with
    | some e =>
      have hlt : e.2 < ls.length := h.lt e (List.mem_of_find?_eq_some hps)
      rw [hps, Option.bind_some, List.getElem?_eq_getElem hlt] at hold
      obtain ⟨found, hfound, hlang⟩ := Option.map_eq_some_iff.mp hold.symm
      rw [hfound, Option.some_or, Option.some_or, Option.bind_some, Option.map_some, hlang,
        List.getElem?_append_left hlt, List.getElem?_eq_getElem hlt]
    | none =>
      rw [hps, Option.bind_none] at hold
      rw [Option.map_eq_none_iff.mp hold.symm, Option.none_or, Option.none_or]
      have hindex (found : Option (Pattern × Nat)) :
          (found.bind fun e => (ls ++ [l])[e.2]?) = (found.map (·.2)).bind ((ls ++ [l])[·]?) := by
        cases found <;> rfl
      rw [hindex, find?_patterns, Language.globs, List.find?_map, Option.map_map]
      change _ = (l.info.filenames.find? fun glob => Glob.fits glob.toList name).map _
      cases l.info.filenames.find? fun glob => Glob.fits glob.toList name with
      | none => rfl
      | some glob => simp

/-! ## 4. Registrations -/

/-- The maps and the globs of a registry say what the list of its languages says. -/
structure Consistent (r : Registry) : Prop where
  names : Indexes Language.names r.names r.languages
  mimeTypes : Indexes (fun l => l.info.mimeTypes) r.mimeTypes r.languages
  globs : IndexesGlobs r.globs r.languages

theorem consistent_empty : Consistent empty := ⟨indexes_nil _, indexes_nil _, indexesGlobs_nil⟩

/-- One registration keeps a registry consistent. -/
theorem Consistent.register {r : Registry} (h : Consistent r) (l : Language) :
    Consistent (r.register l) :=
  ⟨h.names.register l, h.mimeTypes.register l, h.globs.register l⟩

/-- **Any number of registrations keep a registry consistent.** -/
theorem Consistent.foldl_register {r : Registry} (h : Consistent r) (ls : List Language) :
    Consistent (ls.foldl Registry.register r) := by
  induction ls generalizing r with
  | nil => exact h
  | cons l ls ih => exact ih (h.register l)

theorem consistent_ofList (ls : List Language) : Consistent (ofList ls) :=
  consistent_empty.foldl_register ls

/-- A name stands for the last language that is called by it. -/
theorem Consistent.byAlias? {r : Registry} (h : Consistent r) (name : String) :
    r.byAlias? name = (r.languages.filter fun l => hasKey l.names name).getLast? :=
  h.names.lookup name

theorem Consistent.byMimeType? {r : Registry} (h : Consistent r) (mimeType : String) :
    r.byMimeType? mimeType =
      (r.languages.filter fun l => hasKey l.info.mimeTypes mimeType).getLast? :=
  h.mimeTypes.lookup mimeType

/-- A file is found to be in the language of the first glob that its name fits. -/
theorem Consistent.forFile? {r : Registry} (h : Consistent r) (path : Path) :
    r.forFile? path = (Path.fileName? path).bind fun name =>
      ((r.languages.flatMap Language.globs).find? fun e =>
        Glob.fits e.1.toList name).map (·.2) := by
  unfold Registry.forFile?
  cases Path.fileName? path with
  | none => rfl
  | some name => exact h.globs.find name

end Registry

/-! ## 5. Guesses -/

namespace Confidence

theorem atMost_total (a b : Confidence) : (a.atMost b || b.atMost a) = true := by
  cases a <;> cases b <;> simp [atMost, Rat.le_total]

theorem atMost_trans {a b c : Confidence} (hab : a.atMost b = true) (hbc : b.atMost c = true) :
    a.atMost c = true := by
  cases a <;> cases b <;> cases c <;> simp_all [atMost]
  exact Rat.le_trans hab hbc

end Confidence

namespace Registry

/-- The guess that is kept: none before it is better, and all after it are worse. -/
theorem foldl_better (gs : List (Confidence × Language)) :
    (gs = [] ∧ gs.foldl better none = none) ∨
      ∃ before g after, gs = before ++ g :: after ∧ gs.foldl better none = some g ∧
        (∀ other ∈ before, other.1.atMost g.1 = true) ∧
        ∀ other ∈ after, other.1.atMost g.1 = true ∧ g.1.atMost other.1 = false := by
  induction gs using List.reverseRecOn with
  | nil => exact .inl ⟨rfl, rfl⟩
  | append_singleton gs next ih =>
    right
    rw [List.foldl_append, List.foldl_cons, List.foldl_nil]
    rcases ih with ⟨rfl, -⟩ | ⟨before, g, after, rfl, hfold, hbefore, hafter⟩
    · exact ⟨[], next, [], rfl, rfl, by simp, by simp⟩
    · rw [hfold, better]
      by_cases hnext : g.1.atMost next.1 = true
      · refine ⟨before ++ g :: after, next, [], rfl, if_pos hnext, fun other hother => ?_, by simp⟩
        have hother : other.1.atMost g.1 = true := by
          rcases List.mem_append.mp hother with hmem | hmem
          · exact hbefore other hmem
          · rcases List.mem_cons.mp hmem with rfl | hmem
            · simpa using Confidence.atMost_total other.1 other.1
            · exact (hafter other hmem).1
        exact Confidence.atMost_trans hother hnext
      · refine ⟨before, g, after ++ [next], by simp, if_neg hnext, hbefore, ?_⟩
        intro other hother
        rcases List.mem_append.mp hother with hmem | hmem
        · exact hafter other hmem
        · obtain rfl := List.mem_singleton.mp hmem
          have htotal := Confidence.atMost_total g.1 other.1
          rw [Bool.eq_false_iff.mpr hnext, Bool.false_or] at htotal
          exact ⟨htotal, Bool.eq_false_iff.mpr hnext⟩

/-- Of the guesses that none exceeds, the last one is kept. -/
theorem foldl_better_eq (gs : List (Confidence × Language)) :
    gs.foldl better none =
      (gs.filter fun g => gs.all fun other => other.1.atMost g.1).getLast? := by
  rcases foldl_better gs with ⟨rfl, -⟩ | ⟨before, g, after, hgs, hfold, hbefore, hafter⟩
  · rfl
  · have hg : (gs.all fun other => other.1.atMost g.1) = true := by
      rw [hgs, List.all_append, List.all_cons, Bool.and_eq_true, Bool.and_eq_true]
      refine ⟨List.all_eq_true.mpr hbefore, ?_, List.all_eq_true.mpr fun o ho => (hafter o ho).1⟩
      simpa using Confidence.atMost_total g.1 g.1
    have hlast : (after.filter fun o => gs.all fun other => other.1.atMost o.1) = [] := by
      refine List.filter_eq_nil_iff.mpr fun o ho hall => ?_
      have hgo : g.1.atMost o.1 = true := List.all_eq_true.mp hall g (by simp [hgs])
      rw [(hafter o ho).2] at hgo
      cases hgo
    have hsplit := congrArg (List.filter fun o => gs.all fun other => other.1.atMost o.1) hgs
    rw [List.filter_append, List.filter_cons, if_pos hg, hlast] at hsplit
    rw [hfold, hsplit, List.getLast?_concat]

/-- **A guess is the last one of the languages that may be meant and that no other one exceeds.** -/
theorem guess?_eq (r : Registry) (text : List Char) :
    r.guess? text = (mostConfident r.languages text).getLast? := by
  have hguesses : ((r.languages.map fun l => (l.confidence text, l)).filter (·.1.isPositive)) =
      (confident r.languages text).map fun l => (l.confidence text, l) := List.filter_map
  unfold guess?
  simp only [hguesses, foldl_better_eq, List.filter_map, List.all_map, List.getLast?_map,
    Option.map_map]
  exact Option.map_id'

/-! ## 6. What is found -/

/-- **A registry is a list of languages.**  After any registrations, every position that is kept for
a name, a media type or a glob is the position of a language.  A name or a media type stands for the
last language that has it, up to ASCII case; a file is in the language of the first glob that its
name fits, in the order of the registrations; and a text is taken to be in the last one of the
languages that are the surest of it, if any is sure at all. -/
theorem finds_registered (ls : List Language) :
    (∀ e ∈ (ofList ls).names ++ (ofList ls).mimeTypes, e.2 < ls.length) ∧
    (∀ e ∈ (ofList ls).globs, e.2 < ls.length) ∧
    (∀ name, (ofList ls).byAlias? name =
      (ls.filter fun l => hasKey l.names name).getLast?) ∧
    (∀ mimeType, (ofList ls).byMimeType? mimeType =
      (ls.filter fun l => hasKey l.info.mimeTypes mimeType).getLast?) ∧
    (∀ path, (ofList ls).forFile? path = (Path.fileName? path).bind fun name =>
      ((ls.flatMap Language.globs).find? fun e => Glob.fits e.1.toList name).map (·.2)) ∧
    ∀ text, (ofList ls).guess? text = (mostConfident ls text).getLast? := by
  have h := consistent_ofList ls
  have hls := languages_ofList ls
  refine ⟨fun e he => ?_, fun e he => ?_, fun name => ?_, fun mimeType => ?_, fun path => ?_,
    fun text => ?_⟩
  · rw [← hls]
    exact (List.mem_append.mp he).elim (h.names.lt e) (h.mimeTypes.lt e)
  · rw [← hls]
    exact h.globs.lt e he
  · rw [h.byAlias?, hls]
  · rw [h.byMimeType?, hls]
  · rw [h.forFile?, hls]
  · rw [guess?_eq, hls]

end Registry

end Highlighter
