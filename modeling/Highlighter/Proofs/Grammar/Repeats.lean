/-
# Findings about rules are told exactly

What is reported of the rules of a state, said without a table of what has been seen: for each rule
the first one above it with its pattern, and for each word of a word list the first rule that claims
it.

* A search that keeps the first element of each key finds what a search through all elements so far
  would find (`repeats_eq_again`), and it can be cut anywhere (`again_append`).
* So patterns are looked up rule by rule (`lintPatterns_eq`) and words list by list
  (`lintWords_eq`).  A list is searched word by word, against its own words too: **a word that stands
  twice in one list is reported with its own rule**, if no other rule lists it above.
* `rule_findings_exact` reads off which findings there are, with which rules, and in which order.
-/
import Highlighter.Grammar.Lint
import Highlighter.Grammar.Words
import Mathlib.Data.List.Basic

namespace Highlighter

/-! ## 1. Elements whose key has occurred -/

section

variable {α κ : Type} [BEq κ] (key : α → κ)

/-- The elements whose key has occurred, each with the first element that has the key.  `before` are
the elements further up. -/
def again : (before : List α) → List α → List (α × α)
  | _, [] => []
  | before, x :: xs =>
    ((before.find? fun y => key y == key x).map fun first => (x, first)).toList ++
      again (before ++ [x]) xs

theorem again_append (before xs ys : List α) :
    again key before (xs ++ ys) = again key before xs ++ again key (before ++ xs) ys := by
  induction xs generalizing before with
  | nil => simp [again]
  | cons x xs ih => simp [again, ih]

/-- What goes through a list with all that it has passed, looks at each place with what stands
before it. -/
theorem eq_flatMap_zipIdx {β γ : Type} (run : List β → List β → List γ) (look : List β → β → List γ)
    (hnil : ∀ before, run before [] = [])
    (hcons : ∀ before x xs, run before (x :: xs) = look before x ++ run (before ++ [x]) xs)
    (before xs : List β) : run before xs = (xs.zipIdx before.length).flatMap fun (x, i) =>
      look ((before ++ xs).take i) x := by
  induction xs generalizing before with
  | nil => exact hnil before
  | cons x xs ih =>
    have htake : (before ++ x :: xs).take before.length = before := List.take_left
    have hshift : before ++ [x] ++ xs = before ++ x :: xs := by simp
    have hlength : (before ++ [x]).length = before.length + 1 := by simp
    have ih := ih (before ++ [x])
    rw [hlength, hshift] at ih
    rw [hcons, ih, List.zipIdx_cons, List.flatMap_cons]
    dsimp only
    rw [htake]

/-- An element is looked up among those of `outer` and all that stand before it. -/
theorem again_eq_filterMap (outer xs : List α) :
    again key outer xs = xs.zipIdx.filterMap fun (x, i) =>
      ((outer ++ xs.take i).find? fun y => key y == key x).map fun first => (x, first) := by
  have hrun := eq_flatMap_zipIdx (fun before => again key (outer ++ before))
    (fun before x => (((outer ++ before).find? fun y => key y == key x).map fun first =>
      (x, first)).toList) (fun _ => rfl) ?_ [] xs
  · rw [List.append_nil] at hrun
    rw [hrun, List.filterMap_eq_flatMap_toList]
    rfl
  · intro before x xs
    rw [again, List.append_assoc]

/-- The same for elements that are made from others. -/
theorem again_flatMap {β : Type} (f : β → List α) (xs : List β) :
    again key [] (xs.flatMap f) = xs.zipIdx.flatMap fun (x, i) =>
      again key ((xs.take i).flatMap f) (f x) := by
  refine eq_flatMap_zipIdx (fun before xs => again key (before.flatMap f) (xs.flatMap f))
    (fun before x => again key (before.flatMap f) (f x)) (fun _ => rfl) ?_ [] xs
  intro before x xs
  rw [List.flatMap_cons, again_append, List.flatMap_append, List.flatMap_singleton]

/-- To keep the first element of each key is as good as to keep all. -/
theorem repeats_eq_again [LawfulBEq κ] (seen before xs : List α)
    (h : ∀ k, (seen.find? fun y => key y == k) = before.find? fun y => key y == k) :
    repeats key seen xs = again key before xs := by
  induction xs generalizing seen before with
  | nil => rfl
  | cons x xs ih =>
    rw [repeats, again, ← h]
    cases hfound : seen.find? fun y => key y == key x with
    | some first =>
      have hnext : ∀ k, (seen.find? fun y => key y == k) =
          (before ++ [x]).find? fun y => key y == k := by
        intro k
        rw [List.find?_append, ← h]
        by_cases hk : key x = k
        · subst hk
          rw [hfound]
          rfl
        · simp [hk]
      simp [ih _ _ hnext]
    | none =>
      have hnext : ∀ k, ((x :: seen).find? fun y => key y == k) =
          (before ++ [x]).find? fun y => key y == k := by
        intro k
        rw [List.find?_append, ← h]
        by_cases hk : key x = k
        · subst hk
          simp [hfound]
        · simp [beq_false_of_ne hk]
      simp [ih _ _ hnext]

end

namespace Grammar

/-! ## 2. Patterns -/

/-- The rules with the pattern of a rule further up, each with the first such rule. -/
def repeatedPatterns (state : String) (rules : List Rule) : List Finding :=
  rules.zipIdx.filterMap fun (r, j) =>
    ((rules.take j).findIdx? (·.pattern == r.pattern)).map fun i =>
      ⟨state, some j, .duplicatePattern i⟩

/-- Positions are numbered as they are. -/
theorem zipIdx_zipIdx {α : Type} (xs : List α) (n : Nat) :
    (xs.zipIdx n).zipIdx n = (xs.zipIdx n).map fun x => (x, x.2) := by
  induction xs generalizing n with
  | nil => rfl
  | cons x xs ih => simp [List.zipIdx_cons, ih]

theorem take_zipIdx {α : Type} (xs : List α) (n i : Nat) :
    (xs.zipIdx n).take i = (xs.take i).zipIdx n := by
  induction xs generalizing n i with
  | nil => simp
  | cons x xs ih => cases i <;> simp [List.zipIdx_cons, ih]

theorem lintPatterns_eq (state : String) (rules : List Rule) :
    lintPatterns state rules = repeatedPatterns state rules := by
  have hagain := again_eq_filterMap (fun x : Rule × Nat => x.1.pattern) [] rules.zipIdx
  rw [zipIdx_zipIdx, List.filterMap_map] at hagain
  rw [lintPatterns, repeats_eq_again _ [] [] _ fun _ => rfl, hagain, List.map_filterMap,
    repeatedPatterns]
  congr 1
  funext ⟨r, j⟩
  simp only [Function.comp_apply, List.nil_append, take_zipIdx, Option.map_map,
    List.findIdx?_eq_fst_find?_zipIdx]
  rfl

/-! ## 3. Words -/

/-- The rule lists the word, with the suffix. -/
def Lists (word suffix : String) (r : Rule) : Prop :=
  ∃ w, r.words = some w ∧ w.suffix = suffix ∧ word ∈ w.words

instance (word suffix : String) : DecidablePred (Lists word suffix) := fun r =>
  match h : r.words with
  | none => .isFalse fun ⟨_, hw, _⟩ => by simp [h] at hw
  | some w => decidable_of_iff (w.suffix = suffix ∧ word ∈ w.words) (by simp [Lists, h])

/-- The first rule that claims a word of the list of the rule `j`: a rule further up, or `j` itself
if the word is among `own`, the words that stand before it in the list. -/
def claimant? (rules : List Rule) (j : Nat) (own : List String) (word suffix : String) :
    Option Nat :=
  ((rules.take j).findIdx? fun r => Lists word suffix r).or (if word ∈ own then some j else none)

/-- The words that have been claimed, each with the first rule that claims it. -/
def repeatedWords (state : String) (rules : List Rule) : List Finding :=
  rules.zipIdx.flatMap fun (r, j) =>
    match r.words with
    | none => []
    | some w => w.words.zipIdx.filterMap fun (word, k) =>
      (claimant? rules j (w.words.take k) word w.suffix).map fun i =>
        ⟨state, some j, .shadowedWord word i⟩

/-- The words that the rule `j` lists. -/
def listClaims (words : List String) (suffix : String) (j : Nat) : List Claim :=
  words.map fun word => ⟨word, suffix, j⟩

/-- The claims that a rule makes, with its position. -/
def ruleClaims (x : Rule × Nat) : List Claim :=
  match x.1.words with
  | none => []
  | some w => listClaims w.words w.suffix x.2

theorem claims_eq_flatMap (rules : List Rule) : claims rules = rules.zipIdx.flatMap ruleClaims := rfl

theorem ruleClaims_of_none {r : Rule} (h : r.words = none) (j : Nat) : ruleClaims (r, j) = [] := by
  simp [ruleClaims, h]

theorem ruleClaims_of_some {r : Rule} {w : Words} (h : r.words = some w) (j : Nat) :
    ruleClaims (r, j) = listClaims w.words w.suffix j := by
  simp [ruleClaims, h]

/-- Among the claims of one list, each word is claimed by its rule. -/
theorem map_find?_own (words : List String) (word suffix suffix' : String) (j : Nat) :
    ((listClaims words suffix' j).find? fun c => (c.word, c.suffix) == (word, suffix)).map (·.rule) =
      if suffix' = suffix ∧ word ∈ words then some j else none := by
  unfold listClaims
  induction words with
  | nil => simp
  | cons first words ih =>
    rw [List.map_cons, List.find?_cons]
    by_cases hfirst : first = word ∧ suffix' = suffix
    · simp [hfirst]
    · have hne : ((first, suffix') == (word, suffix)) = false :=
        beq_false_of_ne fun h => hfirst (Prod.mk.inj h)
      have hmem : suffix' = suffix ∧ word ∈ first :: words ↔ suffix' = suffix ∧ word ∈ words := by
        rw [List.mem_cons]
        constructor
        · rintro ⟨hsuffix, rfl | hword⟩
          · exact absurd ⟨rfl, hsuffix⟩ hfirst
          · exact ⟨hsuffix, hword⟩
        · exact fun ⟨hsuffix, hword⟩ => ⟨hsuffix, Or.inr hword⟩
      rw [hne]
      simp only [ih, hmem]

/-- The first claim of a word is made by the first rule that lists it. -/
theorem map_find?_claims (rules : List Rule) (word suffix : String) :
    ((claims rules).find? fun c => (c.word, c.suffix) == (word, suffix)).map (·.rule) =
      rules.findIdx? fun r => Lists word suffix r := by
  rw [claims_eq_flatMap, List.find?_flatMap, List.map_findSome?, List.findIdx?_eq_findSome?_zipIdx]
  congr 1
  funext ⟨r, j⟩
  rw [Function.comp_apply]
  cases hw : r.words with
  | none => simp [ruleClaims_of_none hw, Lists, hw]
  | some w =>
    have hlists : Lists word suffix r ↔ w.suffix = suffix ∧ word ∈ w.words := by simp [Lists, hw]
    rw [ruleClaims_of_some hw, map_find?_own]
    simp only [hlists, decide_eq_true_eq]

/-- The words that a list repeats, or that rules further up list. -/
theorem again_ruleClaims (state : String) (rules : List Rule) {r : Rule} {w : Words}
    (hw : r.words = some w) (j : Nat) :
    ((again (fun c => (c.word, c.suffix)) (claims (rules.take j)) (ruleClaims (r, j))).map
      fun (later, first) =>
        (⟨state, some later.rule, .shadowedWord later.word first.rule⟩ : Finding)) =
      w.words.zipIdx.filterMap fun (word, k) =>
        (claimant? rules j (w.words.take k) word w.suffix).map fun i =>
          ⟨state, some j, .shadowedWord word i⟩ := by
  have hagain := again_eq_filterMap (fun c : Claim => (c.word, c.suffix))
    (claims (rules.take j)) (ruleClaims (r, j))
  have hclaimant : ∀ word k, claimant? rules j (w.words.take k) word w.suffix =
      ((claims (rules.take j) ++ (listClaims w.words w.suffix j).take k).find? fun c =>
        (c.word, c.suffix) == (word, w.suffix)).map (·.rule) := by
    intro word k
    have hown := map_find?_own (w.words.take k) word w.suffix w.suffix j
    simp only [true_and] at hown
    rw [claimant?, ← map_find?_claims, ← hown, List.find?_append, Option.map_or, listClaims,
      listClaims, List.map_take]
  rw [hagain, ruleClaims_of_some hw, listClaims, List.zipIdx_map, List.filterMap_map,
    List.map_filterMap, ← listClaims]
  congr 1
  funext ⟨word, k⟩
  simp only [Function.comp_apply, Prod.map, id, Option.map_map, hclaimant]
  rfl

theorem lintWords_eq (state : String) (rules : List Rule) :
    lintWords state rules = repeatedWords state rules := by
  have hagain := again_flatMap (fun c : Claim => (c.word, c.suffix)) ruleClaims rules.zipIdx
  rw [zipIdx_zipIdx, List.flatMap_map] at hagain
  rw [lintWords, repeats_eq_again _ [] [] _ fun _ => rfl, claims_eq_flatMap, hagain,
    List.map_flatMap, repeatedWords]
  congr 1
  funext ⟨r, j⟩
  dsimp only
  rw [take_zipIdx, ← claims_eq_flatMap]
  cases hw : r.words with
  | none => simp [ruleClaims_of_none hw, again]
  | some w => exact again_ruleClaims state rules hw j

/-! ## 4. What is reported -/

/-- `i` is the position of the first element with the property. -/
def IsFirst {α : Type} (p : α → Prop) (xs : List α) (i : Nat) : Prop :=
  (∃ x, xs[i]? = some x ∧ p x) ∧ ∀ i' < i, ∀ x, xs[i']? = some x → ¬ p x

theorem findIdx?_take_eq_some_iff {α : Type} {p : α → Prop} [DecidablePred p] {xs : List α}
    {i j : Nat} : ((xs.take j).findIdx? fun x => p x) = some i ↔ i < j ∧ IsFirst p xs i := by
  rw [List.findIdx?_eq_some_iff_getElem]
  constructor
  · rintro ⟨hi, hp, hbefore⟩
    have ⟨hij, hilen⟩ : i < j ∧ i < xs.length := Nat.lt_min.mp (by simpa using hi)
    rw [List.getElem_take] at hp
    refine ⟨hij, ⟨xs[i], List.getElem?_eq_getElem hilen, of_decide_eq_true hp⟩, ?_⟩
    intro i' hi' x hx hpx
    have hbefore := hbefore i' hi'
    obtain ⟨hlt, rfl⟩ := List.getElem?_eq_some_iff.mp hx
    rw [List.getElem_take] at hbefore
    exact hbefore (decide_eq_true hpx)
  · rintro ⟨hij, ⟨x, hx, hp⟩, hbefore⟩
    obtain ⟨hilen, rfl⟩ := List.getElem?_eq_some_iff.mp hx
    refine ⟨by simpa using Nat.lt_min.mpr ⟨hij, hilen⟩, by simpa using hp, fun i' hi' => ?_⟩
    have hnot := hbefore i' hi' _ (List.getElem?_eq_getElem (Nat.lt_trans hi' hilen))
    simpa using hnot

section

variable {state : String} {rules : List Rule} {f : Finding}

theorem mem_repeatedPatterns_iff : f ∈ repeatedPatterns state rules ↔
    ∃ j i, f = ⟨state, some j, .duplicatePattern i⟩ ∧ i < j ∧
      ∃ r, rules[j]? = some r ∧ IsFirst (·.pattern = r.pattern) rules i := by
  have hfirst : ∀ (r : Rule) (j i : Nat),
      ((rules.take j).findIdx? (·.pattern == r.pattern)) = some i ↔
        i < j ∧ IsFirst (·.pattern = r.pattern) rules i := by
    intro r j i
    exact findIdx?_take_eq_some_iff
  constructor
  · intro hf
    obtain ⟨⟨r, j⟩, hr, hf⟩ := List.mem_filterMap.mp hf
    obtain ⟨i, hi, rfl⟩ := Option.map_eq_some_iff.mp hf
    obtain ⟨hij, hi⟩ := (hfirst r j i).mp hi
    exact ⟨j, i, rfl, hij, r, List.mem_zipIdx_iff_getElem?.mp hr, hi⟩
  · rintro ⟨j, i, rfl, hij, r, hr, hi⟩
    refine List.mem_filterMap.mpr ⟨(r, j), List.mem_zipIdx_iff_getElem?.mpr hr, ?_⟩
    exact Option.map_eq_some_iff.mpr ⟨i, (hfirst r j i).mpr ⟨hij, hi⟩, rfl⟩

/-- A word is claimed first by a rule further up, or else by the rule itself. -/
theorem claimant?_eq_some_iff {j i : Nat} {own : List String} {word suffix : String} :
    claimant? rules j own word suffix = some i ↔
      (i < j ∧ IsFirst (Lists word suffix) rules i) ∨
      (i = j ∧ word ∈ own ∧ ∀ r ∈ rules.take j, ¬ Lists word suffix r) := by
  have hnone : ((rules.take j).findIdx? fun r => Lists word suffix r) = none ↔
      ∀ r ∈ rules.take j, ¬ Lists word suffix r := by
    rw [List.findIdx?_eq_none_iff]
    simp only [decide_eq_false_iff_not]
  have hown : (if word ∈ own then some j else none) = some i ↔ i = j ∧ word ∈ own := by
    by_cases h : word ∈ own <;> simp [h, eq_comm]
  rw [claimant?, Option.or_eq_some_iff, findIdx?_take_eq_some_iff, hnone, hown]
  constructor
  · rintro (h | ⟨hnot, hij, hword⟩)
    · exact Or.inl h
    · exact Or.inr ⟨hij, hword, hnot⟩
  · rintro (h | ⟨hij, hword, hnot⟩)
    · exact Or.inl h
    · exact Or.inr ⟨hnot, hij, hword⟩

theorem mem_repeatedWords_iff : f ∈ repeatedWords state rules ↔
    ∃ j word i, f = ⟨state, some j, .shadowedWord word i⟩ ∧
      ∃ r w k, rules[j]? = some r ∧ r.words = some w ∧ w.words[k]? = some word ∧
        claimant? rules j (w.words.take k) word w.suffix = some i := by
  constructor
  · intro hf
    obtain ⟨⟨r, j⟩, hr, hf⟩ := List.mem_flatMap.mp hf
    have hr := List.mem_zipIdx_iff_getElem?.mp hr
    dsimp only at hf
    split at hf
    · cases hf
    · rename_i w hw
      obtain ⟨⟨word, k⟩, hk, hf⟩ := List.mem_filterMap.mp hf
      obtain ⟨i, hi, rfl⟩ := Option.map_eq_some_iff.mp hf
      exact ⟨j, word, i, rfl, r, w, k, hr, hw, List.mem_zipIdx_iff_getElem?.mp hk, hi⟩
  · rintro ⟨j, word, i, rfl, r, w, k, hr, hw, hk, hi⟩
    refine List.mem_flatMap.mpr ⟨(r, j), List.mem_zipIdx_iff_getElem?.mpr hr, ?_⟩
    dsimp only
    rw [hw]
    refine List.mem_filterMap.mpr ⟨(word, k), List.mem_zipIdx_iff_getElem?.mpr hk, ?_⟩
    exact Option.map_eq_some_iff.mpr ⟨i, hi, rfl⟩

end

/-- Of lists that belong to different names, the one that belongs to a name. -/
theorem flatMap_filter_of_nodup {α β κ : Type} [DecidableEq κ] {name : α → κ} (f : α → List β)
    {xs : List α} (h : (xs.map name).Nodup) {x : α} (hx : x ∈ xs) :
    (xs.flatMap fun y => if name y = name x then f y else []) = f x := by
  induction xs with
  | nil => cases hx
  | cons y xs ih =>
    obtain ⟨hy, h⟩ := List.nodup_cons.mp h
    rw [List.flatMap_cons]
    rcases List.mem_cons.mp hx with rfl | hx
    · have hrest : ∀ y ∈ xs, (if name y = name x then f y else []) = [] := by
        intro y' hmem
        refine if_neg fun heq : name y' = name x => hy ?_
        exact heq ▸ List.mem_map_of_mem hmem
      rw [if_pos rfl, List.flatMap_eq_nil_iff.mpr hrest, List.append_nil]
    · have hne : name y ≠ name x := fun heq => hy (heq ▸ List.mem_map_of_mem hx)
      rw [if_neg hne, List.nil_append, ih h hx]

/-- What is reported of the rules of a state, patterns before words. -/
def repeated (state : String) (rules : List Rule) : List Finding :=
  repeatedPatterns state rules ++ repeatedWords state rules

theorem lint_eq_repeated (state : String) (rules : List Rule) :
    lintPatterns state rules ++ lintWords state rules = repeated state rules := by
  rw [lintPatterns_eq, lintWords_eq, repeated]

theorem rule_of_mem_repeated {state : String} {rules : List Rule} {f : Finding}
    (h : f ∈ repeated state rules) : f.state = state ∧ f.rule ≠ none := by
  rcases List.mem_append.mp h with h | h
  · obtain ⟨j, i, rfl, -⟩ := mem_repeatedPatterns_iff.mp h
    exact ⟨rfl, Option.some_ne_none j⟩
  · obtain ⟨j, word, i, rfl, -⟩ := mem_repeatedWords_iff.mp h
    exact ⟨rfl, Option.some_ne_none j⟩

/-- Findings about the rules of one state can be told from all others. -/
theorem filter_lint {g : Grammar} (h : (g.states.map (·.name)).Nodup) {s : State}
    (hs : s ∈ g.states) :
    (g.lint.filter fun f => f.state = s.name ∧ f.rule ≠ none) =
      repeated s.name (g.expand s.name) := by
  have hpart : ∀ s' : State,
      ((repeated s'.name (g.expand s'.name)).filter fun f => f.state = s.name ∧ f.rule ≠ none) =
        if s'.name = s.name then repeated s'.name (g.expand s'.name) else [] := by
    intro s'
    split
    · rename_i heq
      refine List.filter_eq_self.mpr fun f hf => ?_
      obtain ⟨hstate, hrule⟩ := rule_of_mem_repeated hf
      exact decide_eq_true ⟨hstate.trans heq, hrule⟩
    · rename_i hne
      refine List.filter_eq_nil_iff.mpr fun f hf h => hne ?_
      exact (rule_of_mem_repeated hf).1.symm.trans (of_decide_eq_true h).1
  have hunreachable : ((g.states.filter fun s => !g.reachable.contains s.name).map fun s =>
      (⟨s.name, none, .unreachableState⟩ : Finding)).filter
        (fun f => f.state = s.name ∧ f.rule ≠ none) = [] := by
    refine List.filter_eq_nil_iff.mpr fun f hf h => ?_
    obtain ⟨s', -, rfl⟩ := List.mem_map.mp hf
    exact (of_decide_eq_true h).2 rfl
  rw [lint, List.filter_append, hunreachable, List.append_nil, List.filter_flatMap]
  simp only [lint_eq_repeated, hpart]
  have hpick := flatMap_filter_of_nodup (fun s : State => repeated s.name (g.expand s.name)) h hs
  exact hpick

/-- **Findings about rules are told exactly.**  In a grammar without two states of one name, take a
declared state with its rules, includes written out.  What is reported of them are the repeated
patterns, in the order of the rules and once for each rule, and then the repeated words, in the order
of the rules and of their lists and once for each place in a list.  A pattern is reported just if a
rule further up has it, and a word just if a rule further up lists it with the suffix, with the first
such rule; and if there is none, but the word stands further up in its own list, it is reported with
its own rule. -/
theorem rule_findings_exact {g : Grammar} (h : (g.states.map (·.name)).Nodup) {s : State}
    (hs : s ∈ g.states) :
    (g.lint.filter fun f => f.state = s.name ∧ f.rule ≠ none) =
      repeatedPatterns s.name (g.expand s.name) ++ repeatedWords s.name (g.expand s.name) ∧
    (∀ j i, ⟨s.name, some j, .duplicatePattern i⟩ ∈ g.lint ↔
      i < j ∧ ∃ r, (g.expand s.name)[j]? = some r ∧
        IsFirst (·.pattern = r.pattern) (g.expand s.name) i) ∧
    ∀ j word i, ⟨s.name, some j, .shadowedWord word i⟩ ∈ g.lint ↔
      ∃ r w k, (g.expand s.name)[j]? = some r ∧ r.words = some w ∧ w.words[k]? = some word ∧
        ((i < j ∧ IsFirst (Lists word w.suffix) (g.expand s.name) i) ∨
          (i = j ∧ word ∈ w.words.take k ∧
            ∀ r' ∈ (g.expand s.name).take j, ¬ Lists word w.suffix r')) := by
  have hlint := filter_lint h hs
  have hmem : ∀ j kind, (⟨s.name, some j, kind⟩ : Finding) ∈ g.lint ↔
      (⟨s.name, some j, kind⟩ : Finding) ∈ repeatedPatterns s.name (g.expand s.name) ∨
      (⟨s.name, some j, kind⟩ : Finding) ∈ repeatedWords s.name (g.expand s.name) := by
    intro j kind
    rw [← List.mem_append, ← repeated, ← hlint, List.mem_filter]
    simp
  refine ⟨hlint, fun j i => ?_, fun j word i => ?_⟩
  · rw [hmem, mem_repeatedPatterns_iff, mem_repeatedWords_iff]
    constructor
    · rintro (⟨j', i', heq, hr⟩ | ⟨j', word, i', heq, -⟩)
      · cases heq
        exact hr
      · cases heq
    · intro hr
      exact Or.inl ⟨j, i, rfl, hr⟩
  · rw [hmem, mem_repeatedPatterns_iff, mem_repeatedWords_iff]
    simp only [← claimant?_eq_some_iff]
    constructor
    · rintro (⟨j', i', heq, -⟩ | ⟨j', word', i', heq, hr⟩)
      · cases heq
      · cases heq
        exact hr
    · intro hr
      exact Or.inr ⟨j, word, i, rfl, hr⟩

/-- Two states that include the same words, one of which stands in their list twice. -/
def forked : Grammar where
  name := "forked"
  states := [
    { name := "root", entries := [.include "left", .include "right"] },
    { name := "left", entries := [.include "words"] },
    { name := "right", entries := [.include "words"] },
    { name := "words", entries := [.rule (Words.rule ⟨["if", "in", "if"], "\\b"⟩ .keyword)] }]

theorem rule_findings_exact_forked :
    (forked.states.map (·.name)).Nodup ∧ forked.states[0] ∈ forked.states ∧
      (forked.lint.filter fun f => f.state = "root" ∧ f.rule ≠ none) =
        [⟨"root", some 1, .duplicatePattern 0⟩, ⟨"root", some 0, .shadowedWord "if" 0⟩,
          ⟨"root", some 1, .shadowedWord "if" 0⟩, ⟨"root", some 1, .shadowedWord "in" 0⟩,
          ⟨"root", some 1, .shadowedWord "if" 0⟩] := by
  have hnodup : (forked.states.map (·.name)).Nodup := by decide +kernel
  have hroot : forked.states[0] ∈ forked.states := List.mem_cons_self
  obtain ⟨hlist, -⟩ := rule_findings_exact hnodup hroot
  exact ⟨hnodup, hroot, hlist.trans (by decide +kernel)⟩

/-- A word that stands in a list twice, and in no other. -/
def doubled : Grammar where
  name := "doubled"
  states := [{ name := "root", entries := [.rule (Words.rule ⟨["a", "a"], ""⟩ .name)] }]

/-- A word is reported with its own rule, and no rule further up lists it. -/
theorem shadowedWord_own_rule :
    (doubled.states.map (·.name)).Nodup ∧
      ⟨"root", some 0, .shadowedWord "a" 0⟩ ∈ doubled.lint ∧
      ¬ ∃ earlier < 0, ∃ r, (doubled.expand "root")[earlier]? = some r ∧ Lists "a" "" r := by
  refine ⟨by decide +kernel, List.mem_append_left _ (by decide +kernel), ?_⟩
  rintro ⟨earlier, hlt, -⟩
  exact absurd hlt (Nat.not_lt_zero earlier)

end Grammar

end Highlighter
