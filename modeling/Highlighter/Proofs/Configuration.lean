/-
# Themes and options are read back

A theme and the options are written as objects, and both are read back from what is written.  What
is written and what is read meet at the value of the document: the members that it has to have
(`Style.fields`, `TextOptions.fields`), and the ways in which a document may give them
(`Json.Holds`, `Theme.HeldBy`).

* **Every document that gives a theme is read as that theme** (`Theme.HeldBy.readsValue`): the kinds
  may come in any order and with `Token.` before their names, and so may the members of each style,
  of which those may be missing that have their default values.
* What is written for a theme is such a document (`Theme.readsAs_toJson`, `Theme.heldBy_fields`).
-/
import Highlighter.Options.Json
import Highlighter.Proofs.Json.Fields
import Highlighter.Style.Json
import Mathlib.Data.List.Nodup

namespace Highlighter

open Json (given? given?_append_of_ne given?_append_self given?_of_not_mem getD_given? Holds
  ReadsAs ReadsFields ReadsValue value)

/-! ## 1. Styles -/

namespace Style

/-- The members of a style and their values. -/
def fields (s : Style) : List (List Char × JsonValue) := [
  ("fg".toList, Json.ofOptional s.foreground),
  ("bold".toList, .boolean s.bold),
  ("italic".toList, .boolean s.italic),
  ("underline".toList, .boolean s.underline)]

/-- What is known of a style once members with these names have been read. -/
def given (s : Style) (names : List (List Char)) : Partial where
  foreground := given? names "fg" s.foreground
  bold := given? names "bold" s.bold
  italic := given? names "italic" s.italic
  underline := given? names "underline" s.underline

/-- A member that was not read before is read as it is. -/
theorem exists_member (s : Style) (seen : List (List Char)) : ∀ m ∈ s.fields, m.1 ∉ seen →
    ∃ reader, member (s.given seen) m.1 = .ok reader ∧
      ReadsValue reader m.2 (s.given (seen ++ [m.1])) := by
  intro m hm hseen
  simp only [fields, List.mem_cons, List.not_mem_nil, or_false] at hm
  rcases hm with rfl | rfl | rfl | rfl
  · refine (Json.readsValue_optionalString s.foreground).once "fg" (given?_of_not_mem hseen _)
      (fun text => { s.given seen with foreground := some text }) ?_
    simp (disch := decide) only [given, given?_append_self, given?_append_of_ne]
  · refine (Json.readsValue_boolean s.bold).once "bold" (given?_of_not_mem hseen _)
      (fun b => { s.given seen with bold := some b }) ?_
    simp (disch := decide) only [given, given?_append_self, given?_append_of_ne]
  · refine (Json.readsValue_boolean s.italic).once "italic" (given?_of_not_mem hseen _)
      (fun b => { s.given seen with italic := some b }) ?_
    simp (disch := decide) only [given, given?_append_self, given?_append_of_ne]
  · refine (Json.readsValue_boolean s.underline).once "underline" (given?_of_not_mem hseen _)
      (fun b => { s.given seen with underline := some b }) ?_
    simp (disch := decide) only [given, given?_append_self, given?_append_of_ne]

/-- A style is complete if what was not read has its default value. -/
theorem complete_given {s : Style} {names : List (List Char)}
    (h : ∀ f ∈ s.fields, f.1 ∈ names ∨ f ∈ fields {}) : (s.given names).complete = s := by
  simp only [fields, List.forall_mem_cons] at h
  obtain ⟨hforeground, hbold, hitalic, hunderline, -⟩ := h
  have hforeground : "fg".toList ∈ names ∨ s.foreground = none := by
    refine hforeground.imp_right fun h => ?_
    simpa [Json.ofOptional_injective.eq_iff] using h
  have hbold : "bold".toList ∈ names ∨ s.bold = false := hbold.imp_right fun h => by simpa using h
  have hitalic : "italic".toList ∈ names ∨ s.italic = false :=
    hitalic.imp_right fun h => by simpa using h
  have hunderline : "underline".toList ∈ names ∨ s.underline = false :=
    hunderline.imp_right fun h => by simpa using h
  rw [Partial.complete, given, getD_given? hforeground, getD_given? hbold, getD_given? hitalic,
    getD_given? hunderline]

/-- **A style is read from an object that holds its members**, in any order. -/
theorem readsValue {s : Style} {ms : List (List Char × JsonValue)}
    (h : Holds s.fields (fields {}) ms) : ReadsValue reader (.object ms) s :=
  h.readsValue_record s.exists_member (fun _ => complete_given) "struct Style" sequenceReader

/-- What is written for a style are its members. -/
theorem readsAs_toJson (depth : Nat) (s : Style) :
    ReadsAs (value (depth + 1)) s.toJson (.object s.fields) := by
  refine Json.readsAs_object (.cons ⟨rfl, ?_⟩ (.cons ⟨rfl, ?_⟩ (.cons ⟨rfl, ?_⟩
    (.cons ⟨rfl, ?_⟩ .nil))))
  · exact Json.readsAs_optionalString depth _
  · exact Json.readsAs_boolean depth _
  · exact Json.readsAs_boolean depth _
  · exact Json.readsAs_boolean depth _

theorem holds_fields (s : Style) : Holds s.fields (fields {}) s.fields :=
  Json.holds_self (by simp [fields]) _

end Style

/-! ## 2. Themes -/

namespace Kind

theorem ofJsonName_dotted (k : Kind) : ofJsonName k.dotted.toList = .ok k := by
  rw [ofJsonName, String.ofList_toList, ofName?_dotted]

/-- The word `Token.` may stand before a name. -/
theorem ofJsonName_token (k : Kind) :
    ofJsonName ("Token.".toList ++ k.dotted.toList) = .ok k := by
  have hbare : bareName (String.ofList ("Token.".toList ++ k.dotted.toList)) = k.dotted := by
    rw [bareName, String.toList_ofList]
    exact String.ofList_toList
  rw [ofJsonName, ofName?, hbare, ofDotted?_dotted]

end Kind

namespace Theme

/-- A member of a document that gives the style of a kind. -/
def Gives (t : Theme) (k : Kind) (m : List Char × JsonValue) : Prop :=
  (m.1 = k.dotted.toList ∨ m.1 = "Token.".toList ++ k.dotted.toList) ∧
    ∃ s ms, t.style? k = some s ∧ m.2 = .object ms ∧ Holds s.fields (Style.fields {}) ms

/-- The members of a document give the theme: each of the kinds that it styles once, in some
order. -/
def HeldBy (t : Theme) (ms : List (List Char × JsonValue)) : Prop :=
  ∃ kinds : List Kind, kinds.Nodup ∧ (∀ k, k ∈ kinds ↔ t.style? k ≠ none) ∧
    List.Forall₂ t.Gives kinds ms

/-- The theme for some of its kinds. -/
def only (t : Theme) (kinds : List Kind) : Theme :=
  ⟨fun k => if k ∈ kinds then t.style? k else none⟩

variable {t : Theme} {k : Kind} {kinds : List Kind}

theorem only_append {s : Style} (h : t.style? k = some s) (kinds : List Kind) :
    (t.only kinds).set k s = t.only (kinds ++ [k]) := by
  refine congrArg Theme.mk (funext fun other => ?_)
  by_cases hother : other = k
  · subst hother
    simp [h]
  · simp [only, hother]

theorem only_eq_self (h : ∀ k, t.style? k ≠ none → k ∈ kinds) : t.only kinds = t := by
  refine congrArg Theme.mk (funext fun k => ?_)
  split
  · rfl
  · rename_i hk
    exact (not_not.mp (mt (h k) hk)).symm

/-- A kind is read with its style. -/
theorem Gives.exists_member {m : List Char × JsonValue} (h : t.Gives k m) (kinds : List Kind) :
    ∃ reader, member (t.only kinds) m.1 = .ok reader ∧
      ReadsValue reader m.2 (t.only (kinds ++ [k])) := by
  obtain ⟨hname, s, ms, hs, hm, hholds⟩ := h
  have hkind : Kind.ofJsonName m.1 = .ok k := by
    rcases hname with hname | hname
    · rw [hname, Kind.ofJsonName_dotted]
    · rw [hname, Kind.ofJsonName_token]
  rw [member, hkind, hm, ← only_append hs]
  exact ⟨_, rfl, (Style.readsValue hholds).map ((t.only kinds).set k)⟩

/-- **A theme is read from an object that gives it.** -/
theorem HeldBy.readsValue {ms : List (List Char × JsonValue)} (h : t.HeldBy ms) :
    ReadsValue reader (.object ms) t := by
  obtain ⟨kinds, hnodup, hkinds, hgives⟩ := h
  have hleads : Json.LeadsTo member (t.only []) ms (t.only kinds) :=
    Json.leadsTo_of_forall₂ (fun seen k m _ h => h.exists_member seen) hgives hnodup
  rw [only_eq_self fun k hk => (hkinds k).mpr hk] at hleads
  intro depth cs rest hv
  obtain ⟨inside, inner, hblank, hmembers⟩ := Json.members_of_object hv
  unfold reader
  rw [hblank]
  exact hleads.members hmembers

/-- The kinds that a theme styles, in their order, with their styles. -/
def styled (t : Theme) : List (Kind × Style) :=
  Kind.all.filterMap fun k => (t.style? k).map fun s => (k, s)

/-- The members of a theme and their values, as they are written. -/
def fields (t : Theme) : List (List Char × JsonValue) :=
  t.styled.map fun (k, s) => (k.dotted.toList, .object s.fields)

theorem mem_styled_iff {s : Style} : (k, s) ∈ t.styled ↔ t.style? k = some s := by
  simp [styled, Kind.mem_all]

/-- What is written for a theme are its members. -/
theorem readsAs_toJson (depth : Nat) (t : Theme) :
    ReadsAs (value (depth + 2)) t.toJson (.object t.fields) := by
  have hwritten : t.toJson =
      Json.writeMembers (t.styled.map fun (k, s) => (k.dotted.toList, s.toJson)) := by
    rw [toJson, styled, List.map_filterMap]
    simp only [Option.map_map]
    rfl
  rw [hwritten]
  refine Json.readsAs_object ?_
  unfold ReadsFields fields
  rw [List.forall₂_map_left_iff, List.forall₂_map_right_iff, List.forall₂_same]
  exact fun (_, s) _ => ⟨rfl, s.readsAs_toJson depth⟩

theorem heldBy_fields (t : Theme) : t.HeldBy t.fields := by
  refine ⟨t.styled.map (·.1), ?_, fun k => ?_, ?_⟩
  · rw [styled, List.map_filterMap]
    refine List.Nodup.filterMap (fun k other found hk hother => ?_) (by decide)
    simp only [Option.map_map, Option.mem_def, Option.map_eq_some_iff] at hk hother
    obtain ⟨_, -, rfl⟩ := hk
    obtain ⟨_, -, hsame⟩ := hother
    exact hsame.symm
  · rw [List.mem_map]
    simp [mem_styled_iff, Option.ne_none_iff_exists']
  · unfold fields
    rw [List.forall₂_map_left_iff, List.forall₂_map_right_iff, List.forall₂_same]
    exact fun (k, s) hs => ⟨.inl rfl, s, _, mem_styled_iff.mp hs, rfl, s.holds_fields⟩

end Theme

/-! ## 3. Options -/

namespace TextOptions

/-- The members of options and their values. -/
def fields (o : TextOptions) : List (List Char × JsonValue) := [
  ("strip_nl".toList, .boolean o.stripNewlines),
  ("strip_all".toList, .boolean o.stripAll),
  ("ensure_nl".toList, .boolean o.ensureNewline),
  ("tab_size".toList, .number (.natural o.tabSize)),
  ("normalize_newlines".toList, .boolean o.normalizeNewlines)]

/-- What is known of options once members with these names have been read. -/
def given (o : TextOptions) (names : List (List Char)) : Partial where
  stripNewlines := given? names "strip_nl" o.stripNewlines
  stripAll := given? names "strip_all" o.stripAll
  ensureNewline := given? names "ensure_nl" o.ensureNewline
  tabSize := given? names "tab_size" o.tabSize
  normalizeNewlines := given? names "normalize_newlines" o.normalizeNewlines

/-- A member that was not read before is read as it is. -/
theorem exists_member (o : TextOptions) (seen : List (List Char)) : ∀ m ∈ o.fields, m.1 ∉ seen →
    ∃ reader, member (o.given seen) m.1 = .ok reader ∧
      ReadsValue reader m.2 (o.given (seen ++ [m.1])) := by
  intro m hm hseen
  simp only [fields, List.mem_cons, List.not_mem_nil, or_false] at hm
  rcases hm with rfl | rfl | rfl | rfl | rfl
  · refine (Json.readsValue_boolean o.stripNewlines).once "strip_nl" (given?_of_not_mem hseen _)
      (fun b => { o.given seen with stripNewlines := some b }) ?_
    simp (disch := decide) only [given, given?_append_self, given?_append_of_ne]
  · refine (Json.readsValue_boolean o.stripAll).once "strip_all" (given?_of_not_mem hseen _)
      (fun b => { o.given seen with stripAll := some b }) ?_
    simp (disch := decide) only [given, given?_append_self, given?_append_of_ne]
  · refine (Json.readsValue_boolean o.ensureNewline).once "ensure_nl" (given?_of_not_mem hseen _)
      (fun b => { o.given seen with ensureNewline := some b }) ?_
    simp (disch := decide) only [given, given?_append_self, given?_append_of_ne]
  · refine (Json.readsValue_size o.tabSize).once "tab_size" (given?_of_not_mem hseen _)
      (fun n => { o.given seen with tabSize := some n }) ?_
    simp (disch := decide) only [given, given?_append_self, given?_append_of_ne]
  · refine (Json.readsValue_boolean o.normalizeNewlines).once "normalize_newlines"
      (given?_of_not_mem hseen _) (fun b => { o.given seen with normalizeNewlines := some b }) ?_
    simp (disch := decide) only [given, given?_append_self, given?_append_of_ne]

/-- Options are complete if what was not read has its default value. -/
theorem complete_given {o : TextOptions} {names : List (List Char)}
    (h : ∀ f ∈ o.fields, f.1 ∈ names ∨ f ∈ fields {}) : (o.given names).complete = o := by
  simp only [fields, List.forall_mem_cons] at h
  obtain ⟨hstrip, hall, hensure, htab, hnormalize, -⟩ := h
  have hstrip : "strip_nl".toList ∈ names ∨ o.stripNewlines = false :=
    hstrip.imp_right fun h => by simpa using h
  have hall : "strip_all".toList ∈ names ∨ o.stripAll = false :=
    hall.imp_right fun h => by simpa using h
  have hensure : "ensure_nl".toList ∈ names ∨ o.ensureNewline = false :=
    hensure.imp_right fun h => by simpa using h
  have htab : "tab_size".toList ∈ names ∨ o.tabSize = 0 :=
    htab.imp_right fun h => by simpa using h
  have hnormalize : "normalize_newlines".toList ∈ names ∨ o.normalizeNewlines = false :=
    hnormalize.imp_right fun h => by simpa using h
  rw [Partial.complete, given, getD_given? hstrip, getD_given? hall, getD_given? hensure,
    getD_given? htab, getD_given? hnormalize]

/-- **Options are read from an object that holds their members**, in any order. -/
theorem readsValue {o : TextOptions} {ms : List (List Char × JsonValue)}
    (h : Holds o.fields (fields {}) ms) : ReadsValue reader (.object ms) o :=
  h.readsValue_record o.exists_member (fun _ => complete_given) "struct LexerOptions"
    sequenceReader

/-- What is written for options are their members. -/
theorem readsAs_toJson (depth : Nat) {o : TextOptions} (h : o.tabSize ≤ maxTabSize) :
    ReadsAs (value (depth + 1)) o.toJson (.object o.fields) := by
  refine Json.readsAs_object (.cons ⟨rfl, ?_⟩ (.cons ⟨rfl, ?_⟩ (.cons ⟨rfl, ?_⟩ (.cons ⟨rfl, ?_⟩
    (.cons ⟨rfl, ?_⟩ .nil)))))
  · exact Json.readsAs_boolean depth _
  · exact Json.readsAs_boolean depth _
  · exact Json.readsAs_boolean depth _
  · exact Json.readsAs_natural depth h
  · exact Json.readsAs_boolean depth _

theorem holds_fields (o : TextOptions) : Holds o.fields (fields {}) o.fields :=
  Json.holds_self (by simp [fields]) _

end TextOptions

/-! ## 4. Reading back -/

/-- **Configuration is read back.**  A theme is read back from what is written for it, and so are
options, if the tab size is one that can be given.  What is more, every document that gives a theme
is read as that theme, whatever the order of its members is, with the names of kinds in either form
and without members that have their default values; and likewise for options. -/
theorem configuration_reads_back :
    (∀ t : Theme, Theme.ofJson (String.ofList t.toJson) = .ok t) ∧
    (∀ o : TextOptions, o.tabSize ≤ TextOptions.maxTabSize →
      Json.document TextOptions.reader (String.ofList o.toJson) = .ok o) ∧
    (∀ (t : Theme) (text : String) (ms : List (List Char × JsonValue)),
      Json.documentValue text = .ok (.object ms) → t.HeldBy ms → Theme.ofJson text = .ok t) ∧
    ∀ (o : TextOptions) (text : String) (ms : List (List Char × JsonValue)),
      Json.documentValue text = .ok (.object ms) → Holds o.fields (TextOptions.fields {}) ms →
      Json.document TextOptions.reader text = .ok o := by
  refine ⟨fun t => ?_, fun o ho => ?_, fun t text ms hv h => ?_, fun o text ms hv h => ?_⟩
  · exact t.heldBy_fields.readsValue.document (t.readsAs_toJson 125).documentValue
  · exact (TextOptions.readsValue o.holds_fields).document
      (TextOptions.readsAs_toJson 126 ho).documentValue
  · exact h.readsValue.document hv
  · exact (TextOptions.readsValue h).document hv

/-- A theme with a kind that has a style and one that has the style of the defaults. -/
def boldKeyword : Theme :=
  (Theme.empty.set .text {}).set .keyword { Style.colored "blue" with bold := true }

/-- A document that gives it: the kinds are not in their order and one of them has `Token.` before
its name, and the members of its style are not in their order either.  Those that have their default
values are missing. -/
def boldKeywordText : String :=
  "\x7b \"Token.Keyword\" : \x7b\"bold\":true,\"fg\":\"blue\"\x7d,\n\"Text\":\x7b\x7d\x7d"

/-- What the document holds. -/
def boldKeywordMembers : List (List Char × JsonValue) := [
  ("Token.Keyword".toList, .object [
    ("bold".toList, .boolean true), ("fg".toList, .string "blue".toList)]),
  ("Text".toList, .object [])]

theorem documentValue_boldKeywordText :
    Json.documentValue boldKeywordText = .ok (.object boldKeywordMembers) := by
  with_unfolding_all rfl

theorem heldBy_boldKeywordMembers : boldKeyword.HeldBy boldKeywordMembers := by
  have hkeyword : Holds (Style.fields { Style.colored "blue" with bold := true }) (Style.fields {})
      [("bold".toList, .boolean true), ("fg".toList, .string "blue".toList)] :=
    ⟨by simp [Style.fields, Style.colored, Json.ofOptional], by simp,
      by simp [Style.fields, Style.colored, Json.ofOptional]⟩
  have htext : Holds (Style.fields {}) (Style.fields {}) [] :=
    ⟨List.forall_mem_nil _, List.nodup_nil, fun _ => .inr⟩
  refine ⟨[.keyword, .text], by decide, fun k => ?_, .cons ?_ (.cons ?_ .nil)⟩
  · cases k <;> decide
  · exact ⟨.inr rfl, _, _, rfl, rfl, hkeyword⟩
  · exact ⟨.inl rfl, _, _, rfl, rfl, htext⟩

theorem configuration_reads_back_boldKeyword :
    Theme.ofJson (String.ofList boldKeyword.toJson) = .ok boldKeyword ∧
      Json.documentValue boldKeywordText = .ok (.object boldKeywordMembers) ∧
      boldKeyword.HeldBy boldKeywordMembers ∧ Theme.ofJson boldKeywordText = .ok boldKeyword ∧
      Json.document TextOptions.reader "\x7b\x7d" = .ok {} ∧
      ∃ o : TextOptions, o.ensureNewline = true ∧ o.tabSize ≤ TextOptions.maxTabSize ∧
        Json.document TextOptions.reader (String.ofList o.toJson) = .ok o := by
  obtain ⟨hthemes, hoptions, htheme, hoption⟩ := configuration_reads_back
  let o : TextOptions := { ensureNewline := true, tabSize := TextOptions.maxTabSize }
  have htab : o.tabSize ≤ TextOptions.maxTabSize := Nat.le_refl _
  have hnone : Holds (TextOptions.fields {}) (TextOptions.fields {}) [] :=
    ⟨List.forall_mem_nil _, List.nodup_nil, fun _ => .inr⟩
  have hread := htheme _ _ _ documentValue_boldKeywordText heldBy_boldKeywordMembers
  exact ⟨hthemes _, documentValue_boldKeywordText, heldBy_boldKeywordMembers, hread,
    hoption {} "\x7b\x7d" [] rfl hnone, o, rfl, htab, hoptions o htab⟩

end Highlighter
