/-
# What a match takes

`Pattern.Leads` goes from place to place and keeps count of characters and groups.  Most of what is
to be known of a match does not depend on where it begins: `Pattern.Takes` says which text a pattern
can take between the character before it and the text after it.

* **Whatever a match takes, the pattern can take** (`takes_of_match?`).
* A match takes only characters of the sets in its pattern (`Takes.forall_mem_sets`), and some that
  the pattern cannot do without (`Needs.exists_mem`); one of a list of words takes just a word of
  the list (`takes_anyOf`).
* How a match may begin can be read off the pattern (`Takes.mayBegin`).
-/
import Highlighter.Proofs.Regex.Paths

namespace Highlighter

/-! ## 1. The relation -/

/-- The last character of a text, or the one before it if the text is empty. -/
def lastChar? (before : Option Char) (text : List Char) : Option Char := text.getLast? <|> before

@[simp] theorem lastChar?_nil (before : Option Char) : lastChar? before [] = before := by
  cases before <;> rfl

theorem lastChar?_append (before : Option Char) (a b : List Char) :
    lastChar? before (a ++ b) = lastChar? (lastChar? before a) b := by
  cases b with
  | nil => simp
  | cons c b => simp [lastChar?, List.getLast?_append, List.getLast?_cons]

theorem lastChar?_cons (before : Option Char) (c : Char) (text : List Char) :
    lastChar? before (c :: text) = lastChar? (some c) text :=
  lastChar?_append before [c] text

/-- So many texts, one taken after the other. -/
inductive Repeats (R : Option Char → List Char → List Char → Prop) :
    Nat → Option Char → List Char → List Char → Prop where
  | none (before : Option Char) (after : List Char) : Repeats R 0 before [] after
  | more {n : Nat} {before : Option Char} {taken last after : List Char} :
    Repeats R n before taken (last ++ after) → R (lastChar? before taken) last after →
      Repeats R (n + 1) before (taken ++ last) after

theorem Repeats.mono {R S : Option Char → List Char → List Char → Prop}
    (h : ∀ before taken after, R before taken after → S before taken after) {n : Nat}
    {before : Option Char} {taken after : List Char} (hr : Repeats R n before taken after) :
    Repeats S n before taken after := by
  induction hr with
  | none => exact .none _ _
  | more _ hlast ih => exact .more ih (h _ _ _ hlast)

namespace Pattern

/-- The pattern can take the text `taken` between the character before it and the text after it. -/
def Takes : Pattern → (before : Option Char) → (taken after : List Char) → Prop
  | empty, _, taken, _ => taken = []
  | set s, _, taken, _ => ∃ c, s.contains c = true ∧ taken = [c]
  | look a, before, taken, after => taken = [] ∧ a.between before after.head? = true
  | seq a b, before, taken, after =>
    ∃ u v, taken = u ++ v ∧ a.Takes before u (v ++ after) ∧ b.Takes (lastChar? before u) v after
  | alt a b, before, taken, after => a.Takes before taken after ∨ b.Takes before taken after
  | repeated a min max _, before, taken, after =>
    ∃ n, min ≤ n ∧ (∀ m, max = some m → n ≤ Max.max min m) ∧ Repeats a.Takes n before taken after
  | group _ a, before, taken, after => a.Takes before taken after

end Pattern

/-! ## 2. From places to texts -/

/-- The second place comes after the first one, with the text `taken` between them. -/
structure Progress.Took (p : Progress) (taken : List Char) (q : Progress) : Prop where
  rest : p.place.rest = taken ++ q.place.rest
  before : q.place.before = lastChar? p.place.before taken
  index : q.index = p.index + taken.length

namespace Progress.Took

theorem refl (p : Progress) : p.Took [] p := ⟨rfl, (lastChar?_nil _).symm, rfl⟩

theorem trans {p q r : Progress} {a b : List Char} (h : p.Took a q) (h' : q.Took b r) :
    p.Took (a ++ b) r where
  rest := by rw [h.rest, h'.rest, List.append_assoc]
  before := by rw [h'.before, h.before, lastChar?_append]
  index := by rw [h'.index, h.index, List.length_append, Nat.add_assoc]

theorem next? {p : Progress} {c : Char} {place : Place} (h : p.place.next? = some (c, place)) :
    p.Took [c] { p with place } := by
  unfold Place.next? at h
  split at h
  · cases h
  · rename_i hrest
    obtain ⟨rfl, rfl⟩ := Prod.mk.inj (Option.some.inj h)
    exact ⟨hrest, rfl, rfl⟩

/-- Outcomes on the same way that have the same end are at the same place. -/
theorem place_eq {p q r : Progress} {a b : List Char} (hq : p.Took a q)
    (hr : p.Took b r) (hindex : q.index = r.index) : q.place = r.place := by
  have hsplit : a ++ q.place.rest = b ++ r.place.rest := hq.rest.symm.trans hr.rest
  have hlength : a.length = b.length := by
    have h := hq.index
    have h' := hr.index
    omega
  obtain ⟨rfl, hrest⟩ := List.append_inj hsplit hlength
  have hbefore := hq.before.trans hr.before.symm
  have hindex : q.place.index = r.place.index := hindex
  cases hplace : q.place
  cases hplace' : r.place
  simp_all

/-- An outcome took the text that ends where it does. -/
theorem of_index {p q : Progress} {taken taken' after : List Char} (h : p.Took taken' q)
    (hrest : p.place.rest = taken ++ after) (hindex : q.index = p.index + taken.length) :
    p.Took taken q := by
  have hlength : taken'.length = taken.length := by
    have h' := h.index
    omega
  exact List.append_inj_left (h.rest.symm.trans hrest) hlength ▸ h

theorem rest_eq {p q : Progress} {taken after : List Char} (h : p.Took taken q)
    (hrest : p.place.rest = taken ++ after) : q.place.rest = after :=
  List.append_cancel_left (h.rest.symm.trans hrest)

/-- From where a match began, the numbers of characters say what was taken. -/
theorem take_eq {before : Option Char} {rest taken : List Char} {q : Progress}
    (h : Took ⟨.start before rest, []⟩ taken q) :
    rest.take q.index = taken ∧ rest.drop q.index = q.place.rest := by
  have hrest : rest = taken ++ q.place.rest := h.rest
  have hindex : q.index = taken.length := h.index.trans (Nat.zero_add _)
  rw [hindex, hrest, List.take_left, List.drop_left]
  exact ⟨rfl, rfl⟩

end Progress.Took

namespace Pattern

/-- **What lies between a place and one that the pattern leads to, the pattern can take.**  By
induction on the pattern, one case per constructor. -/
theorem exists_takes_of_leads {a : Pattern} {p q : Progress} (h : a.Leads p q) :
    ∃ taken, p.Took taken q ∧ a.Takes p.place.before taken q.place.rest := by
  induction a generalizing p q with
  | empty =>
    obtain rfl : q = p := h
    exact ⟨[], .refl q, rfl⟩
  | set s =>
    obtain ⟨c, place, hnext, hc, rfl⟩ := h
    exact ⟨[c], .next? hnext, c, hc, rfl⟩
  | look a =>
    obtain ⟨ha, rfl⟩ := h
    exact ⟨[], .refl _, rfl, ha⟩
  | seq a b iha ihb =>
    obtain ⟨r, ha, hb⟩ := h
    obtain ⟨u, hu, ha⟩ := iha ha
    obtain ⟨v, hv, hb⟩ := ihb hb
    rw [hv.rest] at ha
    rw [hu.before] at hb
    exact ⟨u ++ v, hu.trans hv, u, v, rfl, ha, hb⟩
  | alt a b iha ihb =>
    rcases h with h | h
    · obtain ⟨taken, htook, h⟩ := iha h
      exact ⟨taken, htook, Or.inl h⟩
    · obtain ⟨taken, htook, h⟩ := ihb h
      exact ⟨taken, htook, Or.inr h⟩
  | repeated a min max greedy ih =>
    obtain ⟨n, hmin, hmax, hi⟩ := h
    have hrep : ∃ taken, p.Took taken q ∧
        Repeats a.Takes n p.place.before taken q.place.rest := by
      clear hmin hmax
      induction hi with
      | none p => exact ⟨[], .refl p, .none _ _⟩
      | more _ hr ih' =>
        obtain ⟨taken, htook, hrep⟩ := ih'
        obtain ⟨last, hlast, h⟩ := ih hr
        rw [hlast.rest] at hrep
        rw [htook.before] at h
        exact ⟨taken ++ last, htook.trans hlast, .more hrep h⟩
    obtain ⟨taken, htook, hrep⟩ := hrep
    exact ⟨taken, htook, n, hmin, hmax, hrep⟩
  | group i a ih =>
    obtain ⟨r, ha, rfl⟩ := h
    obtain ⟨taken, htook, htakes⟩ := ih ha
    exact ⟨taken, ⟨htook.rest, htook.before, htook.index⟩, htakes⟩

theorem exists_took_of_mem_ends {a : Pattern} {p q : Progress} (hq : q ∈ a.ends p) :
    ∃ taken, p.Took taken q := by
  obtain ⟨taken, htook, -⟩ := exists_takes_of_leads (leads_of_mem_ends hq)
  exact ⟨taken, htook⟩

/-- **What a match takes, its pattern can take.** -/
theorem takes_of_match? {a : Pattern} {before : Option Char} {rest : List Char} {m : Match}
    (h : a.match? before rest = some m) :
    a.Takes before (rest.take m.length) (rest.drop m.length) := by
  obtain ⟨q, hq, rfl⟩ := leads_of_match? h
  obtain ⟨taken, htook, htakes⟩ := exists_takes_of_leads hq
  obtain ⟨htake, hdrop⟩ := htook.take_eq
  dsimp only
  rwa [htake, hdrop]

/-! ## 3. The characters taken -/

/-- The sets of characters in a pattern. -/
def sets : Pattern → List CharSet
  | empty => []
  | set s => [s]
  | look _ => []
  | seq a b => a.sets ++ b.sets
  | alt a b => a.sets ++ b.sets
  | repeated a _ _ _ => a.sets
  | group _ a => a.sets

variable {a b : Pattern} {before : Option Char} {taken after : List Char}

/-- **Every character taken is in a set of the pattern.** -/
theorem Takes.forall_mem_sets (h : a.Takes before taken after) :
    ∀ c ∈ taken, ∃ s ∈ a.sets, s.contains c = true := by
  induction a generalizing before taken after with
  | empty => exact h ▸ fun _ hc => by cases hc
  | set s =>
    obtain ⟨c, hc, rfl⟩ := h
    exact List.forall_mem_singleton.mpr ⟨s, List.mem_singleton_self s, hc⟩
  | look a => exact h.1 ▸ fun _ hc => by cases hc
  | seq a b iha ihb =>
    obtain ⟨u, v, rfl, ha, hb⟩ := h
    refine List.forall_mem_append.mpr ⟨fun c hc => ?_, fun c hc => ?_⟩
    · obtain ⟨s, hs, hsc⟩ := iha ha c hc
      exact ⟨s, List.mem_append_left _ hs, hsc⟩
    · obtain ⟨s, hs, hsc⟩ := ihb hb c hc
      exact ⟨s, List.mem_append_right _ hs, hsc⟩
  | alt a b iha ihb =>
    intro c hc
    rcases h with h | h
    · obtain ⟨s, hs, hsc⟩ := iha h c hc
      exact ⟨s, List.mem_append_left _ hs, hsc⟩
    · obtain ⟨s, hs, hsc⟩ := ihb h c hc
      exact ⟨s, List.mem_append_right _ hs, hsc⟩
  | repeated a min max greedy ih =>
    obtain ⟨n, -, -, hrep⟩ := h
    induction hrep with
    | none => exact fun _ hc => by cases hc
    | more _ hlast ih' => exact List.forall_mem_append.mpr ⟨ih', ih hlast⟩
  | group i a ih => exact ih h

/-- Whatever the pattern takes, a character of it has the property `P`. -/
inductive Needs (P : Char → Prop) : Pattern → Prop where
  | set {s : CharSet} (h : ∀ c, s.contains c = true → P c) : Needs P (.set s)
  | first {a b : Pattern} (h : Needs P a) : Needs P (.seq a b)
  | second {a b : Pattern} (h : Needs P b) : Needs P (.seq a b)
  | alt {a b : Pattern} (ha : Needs P a) (hb : Needs P b) : Needs P (.alt a b)
  | repeated {a : Pattern} {min : Nat} {max : Option Nat} {greedy : Bool} (hmin : 0 < min)
      (h : Needs P a) : Needs P (.repeated a min max greedy)
  | group {index : Nat} {a : Pattern} (h : Needs P a) : Needs P (.group index a)

theorem needs_char {P : Char → Prop} {c : Char} (h : P c) : (char c).Needs P := by
  refine .set fun d hd => ?_
  rw [CharSet.contains_single, decide_eq_true_eq] at hd
  exact hd ▸ h

/-- **What a pattern takes has a character that the pattern needs.** -/
theorem Needs.exists_mem {P : Char → Prop} (hneeds : a.Needs P)
    (h : a.Takes before taken after) : ∃ c ∈ taken, P c := by
  induction hneeds generalizing before taken after with
  | set hs =>
    obtain ⟨c, hc, rfl⟩ := h
    exact ⟨c, List.mem_singleton_self c, hs c hc⟩
  | first _ ih =>
    obtain ⟨u, v, rfl, hu, -⟩ := h
    obtain ⟨c, hc, hP⟩ := ih hu
    exact ⟨c, List.mem_append_left v hc, hP⟩
  | second _ ih =>
    obtain ⟨u, v, rfl, -, hv⟩ := h
    obtain ⟨c, hc, hP⟩ := ih hv
    exact ⟨c, List.mem_append_right u hc, hP⟩
  | alt _ _ iha ihb =>
    rcases h with h | h
    · exact iha h
    · exact ihb h
  | repeated hmin _ ih =>
    obtain ⟨n, hn, -, hrep⟩ := h
    cases hrep with
    | none => omega
    | more _ hlast =>
      obtain ⟨c, hc, hP⟩ := ih hlast
      exact ⟨c, List.mem_append_right _ hc, hP⟩
  | group _ ih => exact ih h

/-! ## 4. Recurring forms -/

/-- Any number of characters of a set, as many as there are. -/
def many (s : CharSet) : Pattern := repeated (set s) 0 none true

/-- Characters of a set, as many as there are, but one at least. -/
def many1 (s : CharSet) : Pattern := repeated (set s) 1 none true

/-- The pattern, if it fits. -/
def optional (a : Pattern) : Pattern := repeated a 0 (some 1) true

/-- A text that stands for itself. -/
def literal (text : List Char) : Pattern := concat (text.map char)

/-- One of several texts. -/
def anyOf (words : List String) : Pattern := choice (words.map fun word => literal word.toList)

theorem takes_char {c : Char} : (char c).Takes before taken after ↔ taken = [c] := by
  simp only [char, Takes, CharSet.contains_single, decide_eq_true_eq, exists_eq_left]

theorem takes_concat_cons {as : List Pattern} :
    (concat (a :: as)).Takes before taken after ↔
      ∃ u v, taken = u ++ v ∧ a.Takes before u (v ++ after) ∧
        (concat as).Takes (lastChar? before u) v after := by
  cases as with
  | nil =>
    refine ⟨fun h => ⟨taken, [], (List.append_nil _).symm, h, rfl⟩, ?_⟩
    rintro ⟨u, v, rfl, h, rfl⟩
    rwa [List.append_nil]
  | cons b as => exact Iff.rfl

/-- **A text takes itself only.** -/
theorem takes_literal {text : List Char} :
    (literal text).Takes before taken after ↔ taken = text := by
  induction text generalizing before taken with
  | nil => exact Iff.rfl
  | cons c text ih =>
    refine takes_concat_cons.trans ⟨?_, fun h => ⟨[c], text, h, takes_char.mpr rfl, ih.mpr rfl⟩⟩
    rintro ⟨u, v, rfl, hu, hv⟩
    rw [takes_char.mp hu, ih.mp hv, List.singleton_append]

theorem takes_choice {as : List Pattern} (hne : as ≠ []) :
    (choice as).Takes before taken after ↔ ∃ a ∈ as, a.Takes before taken after := by
  induction as with
  | nil => exact absurd rfl hne
  | cons a as ih =>
    cases as with
    | nil => simp [choice]
    | cons b as =>
      refine (or_congr Iff.rfl (ih (List.cons_ne_nil b as))).trans ?_
      simp only [List.mem_cons, or_and_right, exists_or, exists_eq_left]

/-- **One of several texts takes one of them.** -/
theorem takes_anyOf {words : List String} (hne : words ≠ []) :
    (anyOf words).Takes before taken after ↔ ∃ word ∈ words, taken = word.toList := by
  rw [anyOf, takes_choice (by simpa using hne)]
  constructor
  · rintro ⟨a, ha, h⟩
    obtain ⟨word, hword, rfl⟩ := List.mem_map.mp ha
    exact ⟨word, hword, takes_literal.mp h⟩
  · rintro ⟨word, hword, h⟩
    exact ⟨literal word.toList, List.mem_map.mpr ⟨word, hword, rfl⟩, takes_literal.mpr h⟩

/-- Iterations of a set take characters of the set, one each. -/
theorem repeats_set_iff {s : CharSet} {n : Nat} : Repeats (set s).Takes n before taken after ↔
    taken.length = n ∧ ∀ c ∈ taken, s.contains c = true := by
  constructor
  · intro h
    induction h with
    | none => exact ⟨rfl, List.forall_mem_nil _⟩
    | more _ hlast ih =>
      obtain ⟨hlength, hall⟩ := ih
      obtain ⟨c, hc, rfl⟩ := hlast
      exact ⟨by rw [List.length_append, hlength, List.length_singleton],
        List.forall_mem_append.mpr ⟨hall, List.forall_mem_singleton.mpr hc⟩⟩
  · rintro ⟨hlength, hall⟩
    induction n generalizing taken after with
    | zero =>
      obtain rfl := List.eq_nil_of_length_eq_zero hlength
      exact .none _ _
    | succ n ih =>
      have hne : taken ≠ [] := List.ne_nil_of_length_eq_add_one hlength
      have hinit : taken.dropLast.length = n := by rw [List.length_dropLast, hlength]; rfl
      rw [← List.dropLast_concat_getLast hne]
      exact .more (ih hinit fun c hc => hall c ((List.dropLast_sublist taken).subset hc))
        ⟨_, hall _ (List.getLast_mem hne), rfl⟩

/-- **A repetition of a set takes characters of the set**, as many as the bounds allow. -/
theorem takes_repeated_set {s : CharSet} {min : Nat} {max : Option Nat} {greedy : Bool} :
    (repeated (set s) min max greedy).Takes before taken after ↔
      min ≤ taken.length ∧ (∀ m, max = some m → taken.length ≤ Max.max min m) ∧
        ∀ c ∈ taken, s.contains c = true := by
  constructor
  · rintro ⟨n, hmin, hmax, hrepeats⟩
    obtain ⟨rfl, hall⟩ := repeats_set_iff.mp hrepeats
    exact ⟨hmin, hmax, hall⟩
  · rintro ⟨hmin, hmax, hall⟩
    exact ⟨taken.length, hmin, hmax, repeats_set_iff.mpr ⟨rfl, hall⟩⟩

theorem takes_many {s : CharSet} :
    (many s).Takes before taken after ↔ ∀ c ∈ taken, s.contains c = true := by
  refine takes_repeated_set.trans ⟨fun h => h.2.2, fun h => ⟨Nat.zero_le _, ?_, h⟩⟩
  exact fun _ hm => by cases hm

theorem takes_many1 {s : CharSet} :
    (many1 s).Takes before taken after ↔ taken ≠ [] ∧ ∀ c ∈ taken, s.contains c = true := by
  refine takes_repeated_set.trans
    ⟨fun h => ⟨List.length_pos_iff.mp h.1, h.2.2⟩, fun h => ⟨List.length_pos_iff.mpr h.1, ?_, h.2⟩⟩
  exact fun _ hm => by cases hm

theorem takes_optional_nil (a : Pattern) : (optional a).Takes before [] after :=
  ⟨0, Nat.le_refl 0, fun _ _ => Nat.zero_le _, .none _ _⟩

/-! ## 5. How a match begins -/

/-- Whether the pattern, by its form, can take the empty text. -/
def mayBeEmpty : Pattern → Bool
  | empty => true
  | set _ => false
  | look _ => true
  | seq a b => a.mayBeEmpty && b.mayBeEmpty
  | alt a b => a.mayBeEmpty || b.mayBeEmpty
  | repeated a min _ _ => min == 0 || a.mayBeEmpty
  | group _ a => a.mayBeEmpty

/-- Whether the pattern, by its form, can take a text that begins with the character. -/
def mayBegin (c : Char) : Pattern → Bool
  | empty => false
  | set s => s.contains c
  | look _ => false
  | seq a b => a.mayBegin c || a.mayBeEmpty && b.mayBegin c
  | alt a b => a.mayBegin c || b.mayBegin c
  | repeated a _ _ _ => a.mayBegin c
  | group _ a => a.mayBegin c

theorem Takes.mayBeEmpty (h : a.Takes before [] after) : a.mayBeEmpty = true := by
  induction a generalizing before after with
  | empty => rfl
  | set s =>
    obtain ⟨c, -, hnil⟩ := h
    cases hnil
  | look a => rfl
  | seq a b iha ihb =>
    obtain ⟨u, v, hnil, ha, hb⟩ := h
    obtain ⟨rfl, rfl⟩ := List.append_eq_nil_iff.mp hnil.symm
    exact Bool.and_eq_true_iff.mpr ⟨iha ha, ihb hb⟩
  | alt a b iha ihb => exact Bool.or_eq_true_iff.mpr (h.imp iha ihb)
  | repeated a min max greedy ih =>
    obtain ⟨n, hmin, -, hrep⟩ := h
    refine Bool.or_eq_true_iff.mpr ?_
    generalize htaken : ([] : List Char) = taken at hrep
    cases hrep with
    | none => exact Or.inl (beq_iff_eq.mpr (Nat.le_zero.mp hmin))
    | more _ hlast =>
      obtain ⟨-, rfl⟩ := List.append_eq_nil_iff.mp htaken.symm
      exact Or.inr (ih hlast)
  | group i a ih => exact ih h

/-- **A text that the pattern takes begins as the pattern allows.** -/
theorem Takes.mayBegin {c : Char} (h : a.Takes before (c :: taken) after) :
    a.mayBegin c = true := by
  induction a generalizing before taken after with
  | empty => cases h
  | set s =>
    obtain ⟨d, hd, heq⟩ := h
    exact (List.cons.inj heq).1 ▸ hd
  | look a => cases h.1
  | seq a b iha ihb =>
    obtain ⟨u, v, heq, ha, hb⟩ := h
    refine Bool.or_eq_true_iff.mpr ?_
    cases u with
    | nil =>
      obtain rfl : c :: taken = v := heq
      exact Or.inr (Bool.and_eq_true_iff.mpr ⟨ha.mayBeEmpty, ihb hb⟩)
    | cons d u =>
      obtain ⟨rfl, -⟩ := List.cons.inj heq
      exact Or.inl (iha ha)
  | alt a b iha ihb => exact Bool.or_eq_true_iff.mpr (h.imp iha ihb)
  | repeated a min max greedy ih =>
    obtain ⟨n, -, -, hrep⟩ := h
    generalize htaken : c :: taken = text at hrep
    induction hrep generalizing taken with
    | none => cases htaken
    | @more _ _ earlier _ _ _ hlast ih' =>
      cases earlier with
      | nil =>
        obtain rfl : c :: taken = _ := htaken
        exact ih hlast
      | cons d earlier =>
        obtain ⟨rfl, -⟩ := List.cons.inj htaken
        exact ih' rfl
  | group i a ih => exact ih h

end Pattern

end Highlighter
