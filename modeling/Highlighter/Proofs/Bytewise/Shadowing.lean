/-
# Claimed words

A word of a list is reported if a list further up, with the same suffix, claims it.  What that means
for a run takes three facts.

* The word alone, with what has to follow it, is within the pattern of the whole list
  (`Words.exists_parse_of_mem`), whatever the suffix is.  So **where the word matches, the pattern of
  the rule that claims it matches** (`matches_of_lists`).
* An empty match does not count.  A pattern whose least length is known has none
  (`match?_of_minLength`), as a grammar with a pattern of least length 0 does not compile.
* Where a rule above it matches, a rule does not fire.

The second fact is where findings can be wrong (`shadowed_word_fires`): a pattern with a part that
can never match has no least length, and if it repeats that part it may still match the empty text.
-/
import Highlighter.Proofs.Bytewise.Agreement
import Highlighter.Proofs.Bytewise.Findings
import Highlighter.Proofs.Grammar.Repeats
import Highlighter.Proofs.Grammar.Words
import Highlighter.Proofs.Regex.Completeness
import Highlighter.Proofs.Regex.Consumption
import Highlighter.Proofs.Regex.Length
import Highlighter.Proofs.Regex.Narrowing

namespace Highlighter

/-! ## 1. A word of a list -/

/-- A word is within the choice between the words of its list. -/
theorem Pattern.within_spelledAny (flags : PatternFlags) {words : List String} {word : String}
    (h : word ∈ words) : (spelledAny flags [word]).Within (spelledAny flags words) := by
  intro before taken after htakes
  have hne : words ≠ [] := List.ne_nil_of_mem h
  refine (takes_choice (by simpa using hne)).mpr ?_
  exact ⟨_, List.mem_map_of_mem h, htakes⟩

namespace Words

variable {flags : PatternFlags} {words : List String} {word suffix : String}

/-- The reader behind the words of a list, where the suffix begins. -/
theorem exists_reads (hverbose : flags.verbose = false) (words : List String) (suffix : String) :
    ∃ depth, Scope.HasDepth flags words depth ∧
      Pattern.parse flags (pattern ⟨words, suffix⟩) = PatternParser.run suffix.toList.length
        ((PatternParser.start flags).push (.spelledAny flags words) (depth + 1)) suffix.toList := by
  obtain ⟨depth, -, hdepth, hgroup⟩ :=
    PatternParser.reads_group (s := .start flags) hverbose words suffix.toList
  refine ⟨depth, hdepth, PatternParser.Reads.parse_eq ?_⟩
  rw [toList_pattern]
  exact hgroup

/-- **If the pattern of a list can be read, so can that of each word with the same suffix**, and it
is within that of the list. -/
theorem exists_parse_of_mem (hverbose : flags.verbose = false) (hword : word ∈ words)
    {q : Pattern} (hq : Pattern.parse flags (pattern ⟨words, suffix⟩) = .ok q) :
    ∃ p, Pattern.parse flags (pattern ⟨[word], suffix⟩) = .ok p ∧ p.Within q := by
  obtain ⟨depth, ⟨hdepth, -⟩, hread⟩ := exists_reads hverbose words suffix
  obtain ⟨depth', ⟨-, hdepth'⟩, hread'⟩ := exists_reads hverbose [word] suffix
  have hle : depth' + 1 ≤ depth + 1 := by
    rw [hdepth' word rfl]
    exact Nat.succ_le_succ (hdepth word hword)
  have hstart : (PatternParser.start flags).Within (PatternParser.start flags) :=
    ⟨rfl, .empty, .nil, rfl, rfl⟩
  rw [hread']
  exact (hstart.push (Pattern.within_spelledAny flags hword) hle).exists_run (hread ▸ hq)

end Words

/-! ## 2. Matches -/

namespace Pattern

variable {p q : Pattern} {before : Option Char} {rest : List Char}

/-- Where a pattern matches, a wider one does. -/
theorem Within.match? (h : p.Within q) (hp : p.match? before rest ≠ none) :
    q.match? before rest ≠ none := by
  intro hnone
  rw [match?_eq_none_iff] at hnone
  refine hp (match?_eq_none_iff.mpr fun taken after hrest htakes => ?_)
  exact hnone taken after hrest (h before taken after htakes)

end Pattern

namespace Grammar

/-- Rules that have a list of words have its pattern. -/
def KeepsWords (g : Grammar) : Prop :=
  ∀ s ∈ g.states, ∀ r w, .rule r ∈ s.entries → r.words = some w → r.pattern = w.pattern

variable {g : Grammar} {t : Table}

/-- A rule of a state with its includes written out is listed somewhere. -/
theorem exists_entry_of_mem_expand (hv : g.Valid) {s : State} (hs : s ∈ g.states) {r : Rule}
    (hr : r ∈ g.expand s.name) : ∃ s' ∈ g.states, .rule r ∈ s'.entries := by
  rcases (hv.expansion_expand hs).mem_entries hr with h | h
  · exact ⟨s, hs, h⟩
  · exact h

/-- A word that is reported with another rule than its own is listed by that rule. -/
theorem lists_of_mem_lint {f : Finding} (hf : f ∈ g.lint) {index earlier : Nat} {word : String}
    (hrule : f.rule = some index) (hkind : f.kind = .shadowedWord word earlier)
    (hne : earlier ≠ index) :
    earlier < index ∧ ∃ s ∈ g.states, s.name = f.state ∧
      ∃ r w first, (g.expand s.name)[index]? = some r ∧ r.words = some w ∧ word ∈ w.words ∧
        (g.expand s.name)[earlier]? = some first ∧ Lists word w.suffix first := by
  rcases List.mem_append.mp hf with hf | hf
  · obtain ⟨s, hs, hf⟩ := List.mem_flatMap.mp hf
    rw [lint_eq_repeated] at hf
    rcases List.mem_append.mp hf with hf | hf
    · obtain ⟨_, _, rfl, -⟩ := mem_repeatedPatterns_iff.mp hf
      cases hkind
    · obtain ⟨j, word', i, rfl, r, w, k, hr, hw, hk, hclaim⟩ := mem_repeatedWords_iff.mp hf
      obtain rfl := Option.some.inj hrule
      obtain ⟨rfl, rfl⟩ := FindingKind.shadowedWord.inj hkind
      rcases claimant?_eq_some_iff.mp hclaim with ⟨hlt, ⟨first, hfirst, hlists⟩, -⟩ | ⟨heq, -⟩
      · exact ⟨hlt, s, hs, rfl, r, w, first, hr, hw, List.mem_of_getElem? hk, hfirst, hlists⟩
      · exact absurd heq hne
  · obtain ⟨_, -, rfl⟩ := List.mem_map.mp hf
    cases hkind

/-- **Where the word of a list matches, with its suffix, the rule of any list that has it
matches**, save that the match may be empty. -/
theorem matches_of_lists (hkeeps : g.KeepsWords) (hv : g.Valid) {s : State} (hs : s ∈ g.states)
    {first : Rule} (hfirst : first ∈ g.expand s.name) {word suffix : String}
    (hlists : Lists word suffix first) {c : TableRule} (hc : g.RuleCompilesTo first c) :
    ∃ p, Pattern.parse g.flags.patternFlags (Words.pattern ⟨[word], suffix⟩) = .ok p ∧
      ∀ before rest, p.match? before rest ≠ none → ∃ m, c.pattern.match? before rest = some m ∧
        (c.pattern.minLength ≠ none → 0 < m.length) := by
  obtain ⟨w, hw, rfl, hword⟩ := hlists
  obtain ⟨s', hs', hentry⟩ := exists_entry_of_mem_expand hv hs hfirst
  have hparse := hc.pattern
  rw [hkeeps s' hs' first w hentry hw] at hparse
  obtain ⟨p, hp, hwithin⟩ := Words.exists_parse_of_mem rfl hword hparse
  refine ⟨p, hp, fun before rest hmatch => ?_⟩
  obtain ⟨m, hm⟩ := Option.ne_none_iff_exists'.mp (hwithin.match? hmatch)
  refine ⟨m, hm, fun hknown => ?_⟩
  obtain ⟨n, hn⟩ := Option.ne_none_iff_exists'.mp hknown
  have hpos : n ≠ 0 := by
    rintro rfl
    exact (hv.rules s' hs' first hentry).minLength_ne_zero hc hn
  exact Nat.lt_of_lt_of_le (Nat.pos_of_ne_zero hpos) (Pattern.le_length_of_match? hn hm)

end Grammar

namespace Bytewise

/-! ## 3. Runs -/

/-- A match that is not empty counts, and keeps the rules behind from firing. -/
theorem not_fires_of_match? {t : Table} {m : Machine} {id : StateId} {c : TableState}
    (hc : t.states[id]? = some c) {index earlier : Nat} (hlt : earlier < index)
    {first : TableRule} (hfirst : c.rules[earlier]? = some first) {before rest : List Char}
    (hplace : split? m.text m.context.pos = some (before, rest)) {found : Match}
    (hmatch : first.match? before.getLast? rest = some found) : ¬ m.Fires t id index := by
  intro hfires
  obtain ⟨htext, hpos⟩ := split?_eq_some_iff.mp hplace
  have hnone := hfires.matchAt_eq_none hc hfirst hlt
  rw [htext, matchAt_eq hpos, hmatch] at hnone
  cases Run.pure_inj hnone

/-- **A claimed word does not reach the rule that is reported for it.**  In a grammar that compiles,
let a word be reported with another rule than its own.  That rule stands further up and lists the
word with the same suffix; and the word alone, with the suffix, is a pattern too.  At each place of a
text where this matches, the pattern of the rule further up matches, and unless its match is empty,
which it is not if the least length of the pattern is known, the rule matches and the rule that is
reported does not fire, and no step applies it. -/
theorem claimed_word_not_fires {g : Grammar} {t : Table} (hkeeps : g.KeepsWords)
    (h : g.compile = .ok t) {f : Finding} (hf : f ∈ g.lint) {index earlier : Nat} {word : String}
    (hrule : f.rule = some index) (hkind : f.kind = .shadowedWord word earlier)
    (hne : earlier ≠ index) :
    earlier < index ∧ ∃ r w p id c first,
      (g.expand f.state)[index]? = some r ∧ r.words = some w ∧ word ∈ w.words ∧
      Pattern.parse g.flags.patternFlags (Words.pattern ⟨[word], w.suffix⟩) = .ok p ∧
      t.stateId? f.state = some id ∧ t.states[id]? = some c ∧ c.rules[earlier]? = some first ∧
      ∀ (m : Machine) (before rest : List Char),
        split? m.text m.context.pos = some (before, rest) →
        p.match? before.getLast? rest ≠ none →
        ∃ found, first.pattern.match? before.getLast? rest = some found ∧
          (first.pattern.minLength ≠ none → 0 < found.length) ∧
          (0 < found.length → first.match? before.getLast? rest = some found ∧
            ¬ m.Fires t id index ∧ ¬ m.AppliesAt t id index) := by
  obtain ⟨hv, hto⟩ := Grammar.valid_and_compilesTo_of_compile h
  obtain ⟨hlt, s, hs, hname, r, w, first, hr, hw, hword, hfirst, hlists⟩ :=
    Grammar.lists_of_mem_lint hf hrule hkind hne
  obtain ⟨id, hid⟩ := List.mem_iff_getElem?.mp hs
  obtain ⟨c, hc, -, hrules⟩ :=
    Checks.exists_right_of_getElem? (Grammar.forall₂_expand_of_compile h) hid
  obtain ⟨cfirst, hcfirst, hcompiles⟩ := Checks.exists_right_of_getElem? hrules hfirst
  obtain ⟨p, hp, hmatches⟩ := Grammar.matches_of_lists hkeeps hv hs (List.mem_of_getElem? hfirst)
    hlists hcompiles
  rw [← hname]
  refine ⟨hlt, r, w, p, id, c, cfirst, hr, hw, hword, hp, (hto.ids id s hid).2.1, hc, hcfirst, ?_⟩
  intro m before rest hplace hmatch
  obtain ⟨found, hfound, hlength⟩ := hmatches before.getLast? rest hmatch
  refine ⟨found, hfound, hlength, fun hpos => ?_⟩
  have hcounts := TableRule.match?_of_pos hfound hpos
  have hfires := not_fires_of_match? hc hlt hcfirst hplace hcounts
  exact ⟨hcounts, hfires, mt Machine.AppliesAt.fires hfires⟩

/-- A grammar in which two lists have the word `var`. -/
def declarations : Grammar where
  name := "declarations"
  states := [
    { name := "root"
      entries := [.rule (Words.rule ⟨["if", "var"], "\\b"⟩ .keyword),
        .rule (Words.rule ⟨["int", "var"], "\\b"⟩ .keywordType)] }]

def declarationsTable : Table :=
  ⟨"declarations", 0, [⟨"root", [
    ⟨"(?:if|var)\\b", Words.bounded ["if", "var"], .token .keyword, none⟩,
    ⟨"(?:int|var)\\b", Words.bounded ["int", "var"], .token .keywordType, none⟩], none⟩]⟩

theorem claimed_word_not_fires_declarations :
    declarations.KeepsWords ∧ declarations.compile = .ok declarationsTable ∧
      ⟨"root", some 1, .shadowedWord "var" 0⟩ ∈ declarations.lint ∧ 0 ≠ 1 ∧
      ¬ (Machine.start 0 "var".toList).Fires declarationsTable 0 1 ∧
      ¬ (Machine.start 0 "var".toList).AppliesAt declarationsTable 0 1 := by
  have hkeeps : declarations.KeepsWords := by
    intro s hs r w hr hw
    obtain rfl := List.mem_singleton.mp hs
    rcases List.mem_cons.mp hr with heq | hr
    · cases heq
      obtain rfl := Option.some.inj hw
      rfl
    · cases List.mem_singleton.mp hr
      obtain rfl := Option.some.inj hw
      rfl
  have hcompile : declarations.compile = .ok declarationsTable := by decide +kernel
  have hlint : ⟨"root", some 1, .shadowedWord "var" 0⟩ ∈ declarations.lint :=
    List.mem_append_left _ (by decide +kernel)
  have hne : 0 ≠ 1 := by decide
  obtain ⟨-, r, w, p, id, c, first, hr, hw, -, hp, hid, hc, hfirst, hmatches⟩ :=
    claimed_word_not_fires hkeeps hcompile hlint rfl rfl hne
  have hrule : (declarations.expand "root")[1]? =
      some (Words.rule ⟨["int", "var"], "\\b"⟩ .keywordType) := by decide +kernel
  obtain rfl := Option.some.inj (hrule.symm.trans hr)
  obtain rfl := Option.some.inj hw
  obtain rfl := Except.ok.inj ((Words.parse_of_grammar rfl ["var"]).symm.trans hp)
  obtain rfl : 0 = id := Option.some.inj ((by decide +kernel :
    declarationsTable.stateId? "root" = some 0).symm.trans hid)
  obtain rfl := Option.some.inj hc
  obtain rfl := Option.some.inj hfirst
  obtain ⟨found, -, hlength, hfires⟩ :=
    hmatches (.start 0 "var".toList) [] "var".toList rfl (by decide +kernel)
  exact ⟨hkeeps, hcompile, hlint, hne, (hfires (hlength (by decide +kernel))).2⟩

/-- A grammar whose first rule has a part that never matches and may be left out.  With the empty
word in its list, it prefers the empty match. -/
def idle : Grammar where
  name := "idle"
  states := [
    { name := "root"
      entries := [.rule (Words.rule ⟨["", "a"], "[^\\s\\S]*"⟩ .keyword),
        .rule (Words.rule ⟨["a"], "[^\\s\\S]*"⟩ .name)] }]

/-- Nothing, however often. -/
def nothing : Pattern := .many (.compl (.union (.property .space) (.compl (.property .space))))

def idleFirst : TableRule :=
  ⟨"(?:|a)[^\\s\\S]*", .seq (.alt .empty (.char 'a')) nothing, .token .keyword, none⟩

def idleSecond : TableRule :=
  ⟨"(?:a)[^\\s\\S]*", .seq (.char 'a') nothing, .token .name, none⟩

def idleTable : Table := ⟨"idle", 0, [⟨"root", [idleFirst, idleSecond], none⟩]⟩

/-- The word is reported for the second rule, and matches, but the first rule does not match and the
second one fires, and the step applies it. -/
theorem shadowed_word_fires :
    idle.compile = .ok idleTable ∧ ⟨"root", some 1, .shadowedWord "a" 0⟩ ∈ idle.lint ∧ 0 ≠ 1 ∧
      Pattern.parse idle.flags.patternFlags (Words.pattern ⟨["a"], "[^\\s\\S]*"⟩) =
        .ok idleSecond.pattern ∧
      idleSecond.pattern.match? none ['a'] ≠ none ∧ idleFirst.match? none ['a'] = none ∧
      (Machine.start 0 ['a']).Fires idleTable 0 1 ∧
      (Machine.start 0 ['a']).AppliesAt idleTable 0 1 := by
  have hcompile : idle.compile = .ok idleTable := by decide +kernel
  have hnone : idleFirst.match? none ['a'] = none := by decide +kernel
  obtain ⟨found, hfound⟩ : ∃ found, idleSecond.match? none ['a'] = some found :=
    Option.isSome_iff_exists.mp (by decide +kernel)
  have hplace : ∀ r, matchAt ['a'] 0 r = pure ((r.match? none ['a']).map (Hit.ofMatch 0 ['a'])) :=
    matchAt_eq byteLength_nil
  have hfires : (Machine.start 0 ['a']).Fires idleTable 0 1 := by
    refine ⟨idleTable.states[0], idleSecond, .ofMatch 0 ['a'] found, rfl, rfl, rfl, ?_, ?_⟩
    · exact (hplace idleSecond).trans (by rw [hfound]; rfl)
    · exact List.forall_mem_singleton.mpr ((hplace idleFirst).trans (by rw [hnone]; rfl))
  have hroot : 0 < idleTable.states.length := by decide
  have hahead : (Machine.start 0 ['a']).context.pos < byteLength ['a'] := by decide
  obtain ⟨m', hm'⟩ := Reaches.start.exists_step (Grammar.closed_of_compile hcompile) hroot
    (Nat.zero_le _) hahead
  exact ⟨hcompile, List.mem_append_left _ (by decide +kernel), by decide, by decide +kernel,
    by decide +kernel, hnone, hfires, (appliesAt_iff_fires hm').mpr hfires⟩

end Bytewise

end Highlighter
