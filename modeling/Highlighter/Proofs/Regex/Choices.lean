/-
# What a pattern finds first

The laws of backtracking, put to use: with the text ahead known, they say which text a match takes.
Two judgements about a pattern and the text ahead carry this from the parts of a pattern to the
whole.

* `Pattern.Prefers`: where `taken ++ after` lies ahead, the pattern finds what comes of taking
  `taken`, if anything does.  It need not be the first outcome: those before it lead nowhere.
* `Pattern.Refuses`: with this text ahead the pattern finds nothing.

Of the repetitions, one of a set that takes as many characters as it can takes all that there are
(`prefers_many`), and a lazy one goes on to the first place from which what follows can go on
(`prefers_fewest`).
-/
import Highlighter.Proofs.Regex.Backtracking

namespace Highlighter

/-! ## 1. What comes first -/

section

variable {P : Char → Prop} {c : Char} {a b : List Char}

theorem forall_head?_nil : ∀ d ∈ ([] : List Char).head?, P d := fun _ hd => by cases hd

theorem forall_head?_cons (h : P c) : ∀ d ∈ (c :: a).head?, P d := by
  intro d hd
  exact Option.some.inj hd ▸ h

theorem forall_head?_append (ha : ∀ d ∈ a.head?, P d) (hb : ∀ d ∈ b.head?, P d) :
    ∀ d ∈ (a ++ b).head?, P d := by
  cases a with
  | nil => exact hb
  | cons c a => exact ha

theorem forall_head?_of_forall_mem (h : ∀ d ∈ a, P d) : ∀ d ∈ a.head?, P d :=
  fun d hd => h d (List.mem_of_head? hd)

end

namespace Pattern

/-! ## 2. The two judgements -/

/-- With this text ahead, the pattern finds nothing. -/
def Refuses (a : Pattern) (text : List Char) : Prop :=
  ∀ (α : Type) (i : Nat) (b : Option Char) (next : Place → Option α),
    a.find ⟨i, b, text⟩ next = none

/-- With `taken` and then `after` ahead, the pattern finds what comes of taking `taken`, if anything
does. -/
def Prefers (a : Pattern) (taken after : List Char) : Prop :=
  ∀ (α : Type) (i : Nat) (b : Option Char) (next : Place → Option α) (x : α),
    next ⟨i + taken.length, lastChar? b taken, after⟩ = some x →
      a.find ⟨i, b, taken ++ after⟩ next = some x

section

variable {a : Pattern} {before : Option Char} {rest taken after : List Char}

/-- The length of the match is what a pattern finds that nothing follows. -/
theorem map_length_match? (a : Pattern) (before : Option Char) (rest : List Char) :
    (a.match? before rest).map (·.length) = a.find (.start before rest) fun q => some q.index := by
  rw [find, match?, Option.map_map]
  cases a.ends ⟨.start before rest, []⟩ <;> rfl

theorem Refuses.match? (h : a.Refuses rest) (before : Option Char) :
    a.match? before rest = none := by
  have hnone := map_length_match? a before rest
  rw [Place.start, h] at hnone
  exact Option.map_eq_none_iff.mp hnone

/-- **The match takes the text that the pattern prefers.** -/
theorem Prefers.match? (h : a.Prefers taken after) (before : Option Char) :
    ∃ m, a.match? before (taken ++ after) = some m ∧ m.length = taken.length := by
  refine Option.map_eq_some_iff.mp ?_
  rw [map_length_match?]
  refine h _ 0 before _ _ ?_
  rw [Nat.zero_add]

/-- Where the pattern can take nothing of what lies ahead, it refuses. -/
theorem refuses_of_not_takes
    (h : ∀ before taken after, rest = taken ++ after → ¬ a.Takes before taken after) :
    a.Refuses rest := by
  intro α i b next
  cases hfind : a.find ⟨i, b, rest⟩ next with
  | none => rfl
  | some x =>
    obtain ⟨taken, after, hrest, htakes, -⟩ := exists_of_find hfind
    exact absurd htakes (h b taken after hrest)

/-- A pattern refuses a text that lacks what it needs. -/
theorem Needs.refuses {P : Char → Prop} (hneeds : a.Needs P) (h : ∀ c ∈ rest, ¬ P c) :
    a.Refuses rest := by
  refine refuses_of_not_takes fun before taken after hrest htakes => ?_
  obtain ⟨c, hc, hP⟩ := hneeds.exists_mem htakes
  exact h c (hrest ▸ List.mem_append_left after hc) hP

/-- A pattern refuses a text that does not begin as it must. -/
theorem refuses_of_mayBegin (hempty : a.mayBeEmpty = false)
    (h : ∀ c ∈ rest.head?, a.mayBegin c = false) : a.Refuses rest := by
  refine refuses_of_not_takes fun before taken after hrest htakes => ?_
  cases taken with
  | nil => exact Bool.eq_false_iff.mp hempty htakes.mayBeEmpty
  | cons c taken =>
    subst hrest
    exact Bool.eq_false_iff.mp (h c rfl) htakes.mayBegin

end

/-! ## 3. Forms of patterns -/

/-- One character further. -/
theorem place_after_cons (i : Nat) (b : Option Char) (c : Char) (taken after : List Char) :
    (⟨i + (c :: taken).length, lastChar? b (c :: taken), after⟩ : Place) =
      ⟨i + 1 + taken.length, lastChar? (some c) taken, after⟩ := by
  rw [lastChar?_cons, List.length_cons, Nat.add_comm taken.length, ← Nat.add_assoc]

section

variable {a b : Pattern} {taken after rest : List Char}

theorem prefers_set {s : CharSet} {c : Char} (h : s.contains c = true) (after : List Char) :
    (set s).Prefers [c] after := by
  intro α i b next x hnext
  rw [List.singleton_append, find_set_cons, if_pos h]
  exact hnext

theorem prefers_char (c : Char) (after : List Char) : (char c).Prefers [c] after :=
  prefers_set (by rw [CharSet.contains_single, decide_eq_true_eq]) after

theorem refuses_set_cons {s : CharSet} {c : Char} (h : s.contains c = false) (rest : List Char) :
    (set s).Refuses (c :: rest) := by
  intro α i b next
  rw [find_set_cons, h, if_neg Bool.false_ne_true]

theorem refuses_set_nil (s : CharSet) : (set s).Refuses [] := fun _ _ _ _ => rfl

theorem refuses_char {c d : Char} (h : d ≠ c) (rest : List Char) :
    (char c).Refuses (d :: rest) :=
  refuses_set_cons (by rw [CharSet.contains_single, decide_eq_false_iff_not]; exact h) rest

theorem Prefers.seq {u v : List Char} (ha : a.Prefers u (v ++ after)) (hb : b.Prefers v after) :
    (Pattern.seq a b).Prefers (u ++ v) after := by
  intro α i before next x hnext
  rw [find_seq, List.append_assoc]
  refine ha α i before _ x (hb α _ _ next x ?_)
  rwa [lastChar?_append, List.length_append, ← Nat.add_assoc] at hnext

theorem Refuses.seq (h : a.Refuses rest) (b : Pattern) : (Pattern.seq a b).Refuses rest := by
  intro α i before next
  rw [find_seq]
  exact h α i before _

/-- What comes after one character is refused. -/
theorem Refuses.seq_set (h : b.Refuses rest) (s : CharSet) (c : Char) :
    (Pattern.seq (Pattern.set s) b).Refuses (c :: rest) := by
  intro α i before next
  rw [find_seq, find_set_cons]
  split
  · exact h α _ _ next
  · rfl

theorem Prefers.group (h : a.Prefers taken after) (index : Nat) :
    (Pattern.group index a).Prefers taken after := by
  intro α i before next x hnext
  rw [find_group]
  exact h α i before next x hnext

theorem Refuses.group (h : a.Refuses rest) (index : Nat) :
    (Pattern.group index a).Refuses rest := by
  intro α i before next
  rw [find_group]
  exact h α i before next

theorem Prefers.alt_left (h : a.Prefers taken after) (b : Pattern) :
    (Pattern.alt a b).Prefers taken after := by
  intro α i before next x hnext
  rw [find_alt, h α i before next x hnext, Option.some_or]

theorem Prefers.alt_right (hb : b.Prefers taken after) (ha : a.Refuses (taken ++ after)) :
    (Pattern.alt a b).Prefers taken after := by
  intro α i before next x hnext
  rw [find_alt, ha, Option.none_or]
  exact hb α i before next x hnext

theorem Refuses.alt (ha : a.Refuses rest) (hb : b.Refuses rest) :
    (Pattern.alt a b).Refuses rest := by
  intro α i before next
  rw [find_alt, ha, hb, Option.or_none]

theorem Prefers.optional (h : a.Prefers taken after) :
    (Pattern.optional a).Prefers taken after := by
  intro α i before next x hnext
  rw [find_optional, h α i before next x hnext, Option.some_or]

theorem Refuses.optional (h : a.Refuses after) : (Pattern.optional a).Prefers [] after := by
  intro α i before next x hnext
  rw [lastChar?_nil] at hnext
  rw [find_optional, List.nil_append, h, Option.none_or]
  exact hnext

theorem Refuses.optional_seq (ha : a.Refuses rest) (hb : b.Refuses rest) :
    (Pattern.seq (Pattern.optional a) b).Refuses rest := by
  intro α i before next
  rw [find_seq, find_optional, ha, hb, Option.or_none]

/-- Patterns that find the same prefer the same. -/
theorem Prefers.congr (h : b.Prefers taken after)
    (hfind : ∀ (α : Type) (p : Place) (next : Place → Option α), a.find p next = b.find p next) :
    a.Prefers taken after := by
  intro α i before next x hnext
  rw [hfind]
  exact h α i before next x hnext

theorem Refuses.congr (h : b.Refuses rest)
    (hfind : ∀ (α : Type) (p : Place) (next : Place → Option α), a.find p next = b.find p next) :
    a.Refuses rest := by
  intro α i before next
  rw [hfind]
  exact h α i before next

end

/-! ## 4. Repetitions -/

/-- A pattern that needs a character consumes something. -/
theorem Needs.consumes {a : Pattern} {P : Char → Prop} (h : a.Needs P) : a.Consumes := by
  intro p q hq
  obtain ⟨taken, htook, htakes⟩ := exists_takes_of_leads (leads_of_mem_ends hq)
  obtain ⟨c, hc, -⟩ := h.exists_mem htakes
  have hpos := List.length_pos_of_mem hc
  have hindex := htook.index
  omega

theorem consumes_set (s : CharSet) : (set s).Consumes :=
  (Needs.set (P := fun _ => True) fun _ _ => trivial).consumes

/-- Characters of a set, as few as possible. -/
def fewest (s : CharSet) : Pattern := repeated (set s) 0 none false

section

variable {α : Type} {p : Place} {next : Place → Option α}

theorem find_many (s : CharSet) : (many s).find p next =
    ((set s).find p fun q => (many s).find q next).or (next p) :=
  find_greedy (consumes_set s)

theorem find_fewest (s : CharSet) : (fewest s).find p next =
    (next p).or ((set s).find p fun q => (fewest s).find q next) :=
  find_lazy (consumes_set s)

end

section

variable {a b : Pattern} {u v taken after rest : List Char}

/-- Another iteration is tried before what follows the repetition. -/
theorem find_seq_greedy {α : Type} {p : Place} {next : Place → Option α} (ha : a.Consumes) :
    (seq (repeated a 0 none true) b).find p next =
      (a.find p fun q => (seq (repeated a 0 none true) b).find q next).or (b.find p next) := by
  simp only [find_seq]
  exact find_greedy ha

/-- A repetition goes on with an iteration. -/
theorem Prefers.seq_more (ha : a.Consumes) (hu : a.Prefers u (v ++ after))
    (hv : (Pattern.seq (repeated a 0 none true) b).Prefers v after) :
    (Pattern.seq (repeated a 0 none true) b).Prefers (u ++ v) after := by
  intro α i before next x hnext
  rw [lastChar?_append, List.length_append, ← Nat.add_assoc] at hnext
  have hmore := hu α i before (fun q => (Pattern.seq (repeated a 0 none true) b).find q next) x
    (hv α _ _ next x hnext)
  rw [find_seq_greedy ha, List.append_assoc, hmore, Option.some_or]

/-- A repetition ends where there is no further iteration. -/
theorem Prefers.seq_stop (ha : a.Consumes) (hrefuses : a.Refuses (taken ++ after))
    (hb : b.Prefers taken after) :
    (Pattern.seq (repeated a 0 none true) b).Prefers taken after := by
  intro α i before next x hnext
  rw [find_seq_greedy ha, hrefuses, Option.none_or]
  exact hb α i before next x hnext

/-- A repetition comes to nothing if what follows it refuses the text, and also what an iteration
leaves. -/
theorem refuses_seq_greedy (ha : a.Consumes) (hb : b.Refuses rest)
    (hmore : ∀ before taken after, rest = taken ++ after → a.Takes before taken after →
      (Pattern.seq (repeated a 0 none true) b).Refuses after) :
    (Pattern.seq (repeated a 0 none true) b).Refuses rest := by
  intro α i before next
  rw [find_seq_greedy ha, hb, Option.or_none]
  cases hfind : a.find ⟨i, before, rest⟩ _ with
  | none => rfl
  | some x =>
    obtain ⟨taken, after, hrest, htakes, hnext⟩ := exists_of_find hfind
    exact hnext.symm.trans (hmore before taken after hrest htakes α _ _ next)

end

/-- **Of the characters of a set, all that there are.**  By induction on what is taken. -/
theorem prefers_many {s : CharSet} {taken after : List Char}
    (htaken : ∀ c ∈ taken, s.contains c = true)
    (hafter : ∀ c ∈ after.head?, s.contains c = false) : (many s).Prefers taken after := by
  intro α i b next x hnext
  induction taken generalizing i b with
  | nil =>
    have hrefuses : (set s).Refuses after := refuses_of_mayBegin rfl hafter
    rw [lastChar?_nil] at hnext
    rw [find_many, List.nil_append, hrefuses, Option.none_or]
    exact hnext
  | cons c taken ih =>
    obtain ⟨hc, htaken⟩ := List.forall_mem_cons.mp htaken
    rw [place_after_cons] at hnext
    have hmore := ih htaken (i + 1) (some c) hnext
    rw [find_many, List.cons_append, find_set_cons, if_pos hc, hmore, Option.some_or]

theorem prefers_many1 {s : CharSet} {taken after : List Char} (hne : taken ≠ [])
    (htaken : ∀ c ∈ taken, s.contains c = true)
    (hafter : ∀ c ∈ after.head?, s.contains c = false) : (many1 s).Prefers taken after := by
  intro α i b next x hnext
  rw [many1, find_repeated_one (consumes_set s)]
  have hmany := (prefers_set (htaken _ (List.head_mem hne)) (taken.tail ++ after)).seq
    (prefers_many (fun c hc => htaken c (List.mem_of_mem_tail hc)) hafter)
  rw [List.singleton_append, List.cons_head_tail] at hmany
  have hfind := hmany α i b next x hnext
  rwa [find_seq] at hfind

/-- Going through characters with none of which the next part can begin, a sequence comes to
nothing, if the next part refuses what is behind them. -/
theorem refuses_seq_many {s : CharSet} {a : Pattern} {text after : List Char}
    (hempty : a.mayBeEmpty = false) (htext : ∀ c ∈ text, a.mayBegin c = false)
    (hafter : ∀ c ∈ after.head?, s.contains c = false) (ha : a.Refuses after) :
    (seq (many s) a).Refuses (text ++ after) := by
  intro α i b next
  rw [find_seq]
  induction text generalizing i b with
  | nil =>
    have hset : (set s).Refuses after := refuses_of_mayBegin rfl hafter
    rw [find_many, List.nil_append, hset, Option.none_or, ha]
  | cons c text ih =>
    obtain ⟨hc, htext⟩ := List.forall_mem_cons.mp htext
    have hrefuses : a.Refuses (c :: (text ++ after)) :=
      refuses_of_mayBegin hempty (forall_head?_cons hc)
    rw [find_many, List.cons_append, find_set_cons, ih htext, ite_self, Option.none_or, hrefuses]

/-- **A lazy repetition goes on to the first place from which what follows can go on.**  By
induction on what it takes. -/
theorem prefers_fewest {s : CharSet} {a : Pattern} {taken last after : List Char}
    (htaken : ∀ c ∈ taken, s.contains c = true)
    (hearlier : ∀ u v, taken = u ++ v → v ≠ [] → a.Refuses (v ++ (last ++ after)))
    (hlast : a.Prefers last after) :
    (seq (fewest s) a).Prefers (taken ++ last) after := by
  intro α i b next x hnext
  rw [find_seq]
  induction taken generalizing i b with
  | nil => rw [find_fewest, List.nil_append, hlast α i b next x hnext, Option.some_or]
  | cons c taken ih =>
    obtain ⟨hc, htaken⟩ := List.forall_mem_cons.mp htaken
    have hrefuses := hearlier [] (c :: taken) rfl (List.cons_ne_nil c taken)
    rw [← List.append_assoc] at hrefuses
    rw [List.cons_append, place_after_cons] at hnext
    have hmore := ih htaken (fun u v huv => hearlier (c :: u) v (congrArg (c :: ·) huv)) (i + 1)
      (some c) hnext
    rw [find_fewest, hrefuses, Option.none_or, List.cons_append, List.cons_append, find_set_cons,
      if_pos hc]
    exact hmore

end Pattern

end Highlighter
