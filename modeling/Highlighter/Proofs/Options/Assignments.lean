/-
# What assignments come to

An assignment gives an option a value (`Assigns`): a name of the option stands before its first
equals sign, and the value behind it, both with blanks around them or not.  What gives no option a
value is rejected (`Rejected`).

* **An assignment changes the option that it names, or is rejected and changes nothing**
  (`run_change`).  This is said of options that are changed where they stand (`change`), since the
  value is only looked at when it is known which option it is for.
* **The last assignment to an option counts, and the first rejected one ends them all**
  (`comesTo_iff`).  The induction is along the list, with the options that are set so far
  (`comesTo_setAll`); nothing else can be meant, since each option has one last assignment
  (`ValueAfter.unique`).

A list of assignments in one text, with commas between them, comes to the same as the assignments
one by one, but for the blank ones, which are left out of it (`ofList_intercalate`).
-/
import Highlighter.Command.Run
import Highlighter.Proofs.Text.Digits

namespace Highlighter

namespace TextOptions

/-! ## 1. Options by their keys -/

namespace Key

/-- The values that an option can have. -/
abbrev Value : Key → Type
  | tabSize => Nat
  | stripNewlines | stripAll | ensureNewline | normalizeNewlines => Bool

/-- The names of an option. -/
def names : Key → List String
  | stripNewlines => ["strip_nl", "stripnl"]
  | stripAll => ["strip_all", "stripall"]
  | ensureNewline => ["ensure_nl", "ensurenl"]
  | normalizeNewlines => ["normalize_newlines"]
  | tabSize => ["tab_size", "tabsize"]

theorem ofName?_eq_some_iff {name : String} {k : Key} :
    ofName? name = some k ↔ name ∈ k.names := by
  constructor
  · intro h
    unfold ofName? at h
    split_ifs at h <;> cases h <;> simp_all [names]
  · intro h
    cases k <;> simp only [names, List.mem_cons, List.not_mem_nil, or_false] at h
    case normalizeNewlines =>
      subst h
      decide
    all_goals
      rcases h with rfl | rfl
      · decide
      · decide

end Key

/-- The value of an option. -/
def get (o : TextOptions) : (k : Key) → k.Value
  | .stripNewlines => o.stripNewlines
  | .stripAll => o.stripAll
  | .ensureNewline => o.ensureNewline
  | .normalizeNewlines => o.normalizeNewlines
  | .tabSize => o.tabSize

/-- The same options, but for the value of one. -/
def put (o : TextOptions) : (k : Key) → k.Value → TextOptions
  | .stripNewlines, b => { o with stripNewlines := b }
  | .stripAll, b => { o with stripAll := b }
  | .ensureNewline, b => { o with ensureNewline := b }
  | .normalizeNewlines, b => { o with normalizeNewlines := b }
  | .tabSize, n => { o with tabSize := n }

@[simp] theorem get_put_self (o : TextOptions) (k : Key) (v : k.Value) : (o.put k v).get k = v := by
  cases k <;> rfl

theorem get_put_of_ne (o : TextOptions) {k l : Key} (h : l ≠ k) (v : k.Value) :
    (o.put k v).get l = o.get l := by
  cases k <;> cases l <;> first | rfl | exact absurd rfl h

/-- Options are their values. -/
theorem eq_of_get {o o' : TextOptions} (h : ∀ k, o.get k = o'.get k) : o = o' := by
  have hstrip : o.stripNewlines = o'.stripNewlines := h .stripNewlines
  have hall : o.stripAll = o'.stripAll := h .stripAll
  have hensure : o.ensureNewline = o'.ensureNewline := h .ensureNewline
  have hnormalize : o.normalizeNewlines = o'.normalizeNewlines := h .normalizeNewlines
  have htabs : o.tabSize = o'.tabSize := h .tabSize
  cases o
  congr

/-- Values can be given to two options in either order. -/
theorem put_put_comm (o : TextOptions) {k l : Key} (h : k ≠ l) (v : k.Value) (w : l.Value) :
    (o.put k v).put l w = (o.put l w).put k v := by
  cases k <;> cases l <;> first | rfl | exact absurd rfl h

/-! ## 2. What an assignment says -/

/-- The words for a switch position. -/
def switchWords : Bool → List String
  | true => ["1", "true", "yes", "on"]
  | false => ["0", "false", "no", "off"]

/-- A word for a switch position, in capitals or not. -/
def IsSwitch (text : List Char) (b : Bool) : Prop :=
  String.ofList (text.map CharClass.asciiLower) ∈ switchWords b

theorem switch?_eq_some_iff {text : List Char} {b : Bool} :
    switch? text = some b ↔ IsSwitch (Text.trim text) b := by
  unfold switch? IsSwitch
  dsimp only
  generalize String.ofList ((Text.trim text).map CharClass.asciiLower) = word
  constructor
  · intro h
    split_ifs at h with htrue hfalse
    · obtain rfl := Option.some.inj h
      exact List.contains_iff_mem.mp htrue
    · obtain rfl := Option.some.inj h
      exact List.contains_iff_mem.mp hfalse
  · intro h
    cases b <;> simp only [switchWords, List.mem_cons, List.not_mem_nil, or_false] at h
    all_goals
      rcases h with rfl | rfl | rfl | rfl
      all_goals decide

/-- A text stands for a value of an option. -/
def Key.Reads : (k : Key) → List Char → k.Value → Prop
  | .tabSize, text, n => Digits.IsNatural maxTabSize text n
  | .stripNewlines, text, b | .stripAll, text, b | .ensureNewline, text, b
  | .normalizeNewlines, text, b => IsSwitch text b

/-- An assignment gives an option a value: what stands before its first equals sign is a name of the
option and what stands behind it is the value, blanks left aside. -/
def Assigns (assignment : List Char) (k : Key) (v : k.Value) : Prop :=
  ∃ name value, assignment = name ++ '=' :: value ∧ '=' ∉ name ∧
    String.ofList (Text.trim name) ∈ k.names ∧ k.Reads (Text.trim value) v

/-- The assignment gives no option a value. -/
def Rejected (assignment : List Char) : Prop := ∀ k v, ¬ Assigns assignment k v

/-- The value of an option that a text stands for. -/
def Key.value? : (k : Key) → List Char → Option k.Value
  | .tabSize, text => Digits.natural? maxTabSize (Text.trim text)
  | .stripNewlines, text | .stripAll, text | .ensureNewline, text | .normalizeNewlines, text =>
    switch? text

theorem Key.value?_eq_some_iff {k : Key} {text : List Char} {v : k.Value} :
    k.value? text = some v ↔ k.Reads (Text.trim text) v := by
  cases k with
  | tabSize => exact Digits.natural?_eq_some_iff
  | stripNewlines | stripAll | ensureNewline | normalizeNewlines => exact switch?_eq_some_iff

theorem assign?_eq (o : TextOptions) (k : Key) (text : List Char) :
    o.assign? k text = (k.value? text).map (o.put k) := by
  cases k <;> rfl

/-- An option, with a value for it. -/
structure Setting where
  key : Key
  value : key.Value

/-- What an assignment says. -/
def setting? (assignment : List Char) : Option Setting :=
  (Text.splitOnce? '=' assignment).bind fun (name, value) =>
    (Key.ofName? (String.ofList (Text.trim name))).bind fun key =>
      (key.value? value).map (Setting.mk key)

theorem setting?_eq_some_iff {a : List Char} {k : Key} {v : k.Value} :
    setting? a = some ⟨k, v⟩ ↔ Assigns a k v := by
  unfold setting? Assigns
  simp only [Option.bind_eq_some_iff, Option.map_eq_some_iff, Prod.exists,
    Text.splitOnce?_eq_some_iff, Key.ofName?_eq_some_iff]
  constructor
  · rintro ⟨name, value, ⟨ha, hname⟩, l, hl, w, hw, heq⟩
    cases heq
    exact ⟨name, value, ha, hname, hl, Key.value?_eq_some_iff.mp hw⟩
  · rintro ⟨name, value, ha, hname, hk, hv⟩
    exact ⟨name, value, ⟨ha, hname⟩, k, hk, v, Key.value?_eq_some_iff.mpr hv, rfl⟩

theorem setting?_eq_none_iff {a : List Char} : setting? a = none ↔ Rejected a := by
  rw [Option.eq_none_iff_forall_ne_some]
  constructor
  · intro h k v hkv
    exact h ⟨k, v⟩ (setting?_eq_some_iff.mpr hkv)
  · rintro h ⟨k, v⟩ hkv
    exact h k v (setting?_eq_some_iff.mp hkv)

/-! ## 3. One assignment -/

section

variable {o o' : TextOptions} {a : List Char} {k : Key} {v : k.Value}

theorem set_eq (o : TextOptions) (a : List Char) :
    o.set a = (setting? a).elim (.error ⟨a⟩) fun s => .ok (o.put s.key s.value) := by
  unfold set setting?
  simp only [assign?_eq]
  cases Text.splitOnce? '=' a with
  | none => rfl
  | some parts =>
    obtain ⟨name, value⟩ := parts
    cases hkey : Key.ofName? (String.ofList (Text.trim name)) with
    | none => simp [hkey]
    | some key => cases hvalue : key.value? value <;> simp [hkey, hvalue]

theorem set_of_assigns (o : TextOptions) (h : Assigns a k v) : o.set a = .ok (o.put k v) := by
  rw [set_eq, setting?_eq_some_iff.mpr h, Option.elim_some]

theorem set_of_rejected (o : TextOptions) (h : Rejected a) : o.set a = .error ⟨a⟩ := by
  rw [set_eq, setting?_eq_none_iff.mpr h, Option.elim_none]

theorem assigns_or_rejected (a : List Char) : (∃ k v, Assigns a k v) ∨ Rejected a := by
  by_cases h : ∃ k v, Assigns a k v
  · exact .inl h
  · exact .inr fun k v hkv => h ⟨k, v, hkv⟩

/-- An assignment says one thing. -/
theorem Assigns.unique {l : Key} {w : l.Value} (h : Assigns a k v) (h' : Assigns a l w) :
    Setting.mk k v = ⟨l, w⟩ :=
  Option.some.inj ((setting?_eq_some_iff.mpr h).symm.trans (setting?_eq_some_iff.mpr h'))

theorem Assigns.key_unique {l : Key} {w : l.Value} (h : Assigns a k v) (h' : Assigns a l w) :
    k = l :=
  congrArg Setting.key (h.unique h')

theorem Assigns.value_unique {w : k.Value} (h : Assigns a k v) (h' : Assigns a k w) : v = w := by
  cases h.unique h'
  rfl

/-- A change of options that can stop at an assignment.  What was changed before it stopped stays
changed. -/
abbrev Change (α : Type) := ExceptT InvalidAssignment (StateM TextOptions) α

/-- Something that an assignment has to have. -/
def required {α : Type} (assignment : List Char) : Option α → Change α
  | some x => pure x
  | none => throw ⟨assignment⟩

/-- Carry an assignment out in place. -/
def change (assignment : List Char) : Change Unit := do
  let (name, value) ← required assignment (Text.splitOnce? '=' assignment)
  match ← required assignment (Key.ofName? (String.ofList (Text.trim name))) with
  | .stripNewlines =>
    let b ← required assignment (switch? value)
    modify fun o => { o with stripNewlines := b }
  | .stripAll =>
    let b ← required assignment (switch? value)
    modify fun o => { o with stripAll := b }
  | .ensureNewline =>
    let b ← required assignment (switch? value)
    modify fun o => { o with ensureNewline := b }
  | .normalizeNewlines =>
    let b ← required assignment (switch? value)
    modify fun o => { o with normalizeNewlines := b }
  | .tabSize =>
    let n ← required assignment (Digits.natural? maxTabSize (Text.trim value))
    modify fun o => { o with tabSize := n }

/-- Where something is missing, nothing has been changed so far. -/
theorem run_required_bind {α β : Type} (a : List Char) (x : Option α) (f : α → Change β)
    (o : TextOptions) :
    (required a x >>= f).run.run o = x.elim (.error ⟨a⟩, o) fun y => (f y).run.run o := by
  cases x <;> rfl

/-- **An assignment is carried out, or nothing is changed.** -/
theorem run_change (o : TextOptions) (a : List Char) :
    (change a).run.run o =
      (setting? a).elim (.error ⟨a⟩, o) fun s => (.ok (), o.put s.key s.value) := by
  unfold change setting?
  rw [run_required_bind]
  cases Text.splitOnce? '=' a with
  | none => rfl
  | some parts =>
    obtain ⟨name, value⟩ := parts
    rw [Option.elim_some, run_required_bind]
    dsimp only [Option.bind_some]
    cases Key.ofName? (String.ofList (Text.trim name)) with
    | none => rfl
    | some key =>
      -- Whichever option it is for, its value is asked for first and put into its place then.
      have hvalue (x : Option key.Value) :
          (x.map (Setting.mk key)).elim (.error ⟨a⟩, o) (fun s => (.ok (), o.put s.key s.value)) =
            x.elim ((.error ⟨a⟩, o) : Except InvalidAssignment Unit × TextOptions)
              fun v => (.ok (), o.put key v) := by
        cases x <;> rfl
      rw [Option.elim_some, Option.bind_some, hvalue]
      cases key <;> exact run_required_bind a _ _ o

theorem run_change_of_assigns (o : TextOptions) (h : Assigns a k v) :
    (change a).run.run o = (.ok (), o.put k v) := by
  rw [run_change, setting?_eq_some_iff.mpr h, Option.elim_some]

theorem run_change_of_rejected (o : TextOptions) (h : Rejected a) :
    (change a).run.run o = (.error ⟨a⟩, o) := by
  rw [run_change, setting?_eq_none_iff.mpr h, Option.elim_none]

end

/-! ## 4. Assignments one after the other -/

/-- The value that an option has after assignments: the last one that was assigned to it, or else
the one that it had before. -/
inductive ValueAfter (as : List (List Char)) (k : Key) (old : k.Value) : k.Value → Prop
  | assigned (before : List (List Char)) {a after} {v : k.Value}
      (place : as = before ++ a :: after) (here : Assigns a k v)
      (last : ∀ b ∈ after, ∀ w, ¬ Assigns b k w) : ValueAfter as k old v
  | kept (never : ∀ a ∈ as, ∀ w, ¬ Assigns a k w) : ValueAfter as k old old

/-- What assignments come to, beginning with the options `o`: options in which each has the value
that it was assigned last, or the first assignment that is rejected. -/
inductive ComesTo (o : TextOptions) (as : List (List Char)) :
    Except InvalidAssignment TextOptions → Prop
  | settled {o' : TextOptions} (accepted : ∀ a ∈ as, ¬ Rejected a)
      (values : ∀ k, ValueAfter as k (o.get k) (o'.get k)) : ComesTo o as (.ok o')
  | stopped (before : List (List Char)) {a after} (place : as = before ++ a :: after)
      (accepted : ∀ b ∈ before, ¬ Rejected b) (here : Rejected a) : ComesTo o as (.error ⟨a⟩)

section

variable {o o' : TextOptions} {a : List Char} {as : List (List Char)} {k : Key} {v : k.Value}

theorem setAll_cons (o : TextOptions) (a : List Char) (as : List (List Char)) :
    o.setAll (a :: as) = o.set a >>= fun o' => o'.setAll as :=
  List.foldlM_cons

theorem setAll_append (o : TextOptions) (as bs : List (List Char)) :
    o.setAll (as ++ bs) = o.setAll as >>= fun o' => o'.setAll bs :=
  List.foldlM_append

theorem Assigns.not_rejected (h : Assigns a k v) : ¬ Rejected a := fun hrejected =>
  hrejected k v h

/-- The first of several assignments counts only for what is not assigned again. -/
theorem ValueAfter.cons {l : Key} {w : l.Value} (ha : Assigns a k v)
    (h : ValueAfter as l ((o.put k v).get l) w) : ValueAfter (a :: as) l (o.get l) w := by
  cases h with
  | assigned before place here last =>
    exact .assigned (a :: before) (congrArg (a :: ·) place) here last
  | kept never =>
    by_cases hkey : l = k
    · subst hkey
      rw [get_put_self]
      exact .assigned [] rfl ha never
    · rw [get_put_of_ne o hkey]
      refine .kept (List.forall_mem_cons.mpr ⟨fun w hw => ?_, never⟩)
      exact hkey (hw.key_unique ha)

theorem ComesTo.cons {outcome : Except InvalidAssignment TextOptions} (ha : Assigns a k v)
    (h : ComesTo (o.put k v) as outcome) : ComesTo o (a :: as) outcome := by
  cases h with
  | settled accepted values =>
    exact .settled (List.forall_mem_cons.mpr ⟨ha.not_rejected, accepted⟩) fun l =>
      (values l).cons ha
  | stopped before place accepted here =>
    exact .stopped (a :: before) (congrArg (a :: ·) place)
      (List.forall_mem_cons.mpr ⟨ha.not_rejected, accepted⟩) here

/-- **The last assignment to an option counts, and the first rejected one ends them all.** -/
theorem comesTo_setAll (o : TextOptions) (as : List (List Char)) : ComesTo o as (o.setAll as) := by
  induction as generalizing o with
  | nil =>
    exact .settled (List.forall_mem_nil _) fun k => .kept (List.forall_mem_nil _)
  | cons a as ih =>
    rw [setAll_cons]
    rcases assigns_or_rejected a with ⟨k, v, ha⟩ | ha
    · rw [set_of_assigns o ha]
      exact (ih (o.put k v)).cons ha
    · rw [set_of_rejected o ha]
      exact .stopped [] rfl (List.forall_mem_nil _) ha

/-- Of two assignments to an option, with no other behind either of them, none is behind the
other. -/
theorem ValueAfter.unique {old w : k.Value} (hv : ValueAfter as k old v)
    (hw : ValueAfter as k old w) : v = w := by
  cases hv with
  | @assigned before a after v place here last =>
    cases hw with
    | @assigned before' b after' w place' here' last' =>
      rcases List.append_eq_append_iff.mp (place.symm.trans place') with
        ⟨middle, -, hbehind⟩ | ⟨middle, -, hbehind⟩
      · cases middle with
        | nil => exact here.value_unique ((List.cons.inj hbehind).1 ▸ here')
        | cons c middle =>
          have hb : b ∈ after := (List.cons.inj hbehind).2 ▸ List.mem_append_cons_self
          exact absurd here' (last b hb w)
      · cases middle with
        | nil => exact here.value_unique ((List.cons.inj hbehind).1.symm ▸ here')
        | cons c middle =>
          have ha : a ∈ after' := (List.cons.inj hbehind).2 ▸ List.mem_append_cons_self
          exact absurd here (last' a ha v)
    | kept never => exact absurd here (never a (place ▸ List.mem_append_cons_self) v)
  | kept never =>
    cases hw with
    | @assigned before b after w place here last =>
      exact absurd here (never b (place ▸ List.mem_append_cons_self) w)
    | kept _ => rfl

/-- What is set is all that assignments come to. -/
theorem ComesTo.setAll_eq {outcome : Except InvalidAssignment TextOptions}
    (h : ComesTo o as outcome) : o.setAll as = outcome := by
  cases h with
  | settled accepted values =>
    generalize hset : o.setAll as = set
    have hcomes := comesTo_setAll o as
    rw [hset] at hcomes
    cases hcomes with
    | settled _ values' =>
      exact congrArg Except.ok (eq_of_get fun k => (values' k).unique (values k))
    | stopped _ place _ here => exact absurd here (accepted _ (place ▸ List.mem_append_cons_self))
  | @stopped before a after place accepted here =>
    generalize hset : o.setAll before = set
    have hcomes := comesTo_setAll o before
    rw [hset] at hcomes
    cases hcomes with
    | @settled o' _ _ =>
      rw [place, setAll_append, hset]
      exact (setAll_cons o' a after).trans (by rw [set_of_rejected o' here]; rfl)
    | stopped _ place' _ here' => exact absurd here' (accepted _ (place' ▸ List.mem_append_cons_self))

theorem comesTo_iff {outcome : Except InvalidAssignment TextOptions} :
    ComesTo o as outcome ↔ o.setAll as = outcome :=
  ⟨ComesTo.setAll_eq, fun h => h ▸ comesTo_setAll o as⟩

/-- Neighbours that are for two options can change places. -/
theorem setAll_swap {b : List Char} {l : Key} {w : l.Value} (ha : Assigns a k v)
    (hb : Assigns b l w) (h : k ≠ l) (o : TextOptions) (before after : List (List Char)) :
    o.setAll (before ++ a :: b :: after) = o.setAll (before ++ b :: a :: after) := by
  rw [setAll_append, setAll_append]
  congr 1
  funext o'
  calc o'.setAll (a :: b :: after)
      = ((o'.put k v).put l w).setAll after := by
        rw [setAll_cons, set_of_assigns o' ha]
        exact (setAll_cons _ b after).trans (by rw [set_of_assigns _ hb]; rfl)
    _ = ((o'.put l w).put k v).setAll after := by rw [put_put_comm o' h]
    _ = o'.setAll (b :: a :: after) := by
        rw [setAll_cons, set_of_assigns o' hb]
        exact ((setAll_cons _ a after).trans (by rw [set_of_assigns _ ha]; rfl)).symm

/-- Blanks, or nothing. -/
def isBlank (part : List Char) : Bool := (Text.trim part).isEmpty

/-- **Assignments in one text**, with commas between them, come to the same as one by one, but for
the blank ones. -/
theorem ofList_intercalate (h : ∀ a ∈ as, ',' ∉ a) :
    ofList ([','].intercalate as) = setAll {} (as.filter fun a => !isBlank a) := by
  unfold ofList
  by_cases hne : as = []
  · subst hne
    rfl
  · rw [Text.splitAt_intercalate hne h]
    rfl

/-- On the command line, the error holds the assignment that was rejected. -/
theorem readOptions_eq_iff {outcome : Except InvalidAssignment TextOptions} :
    Command.readOptions as = outcome.mapError (fun e => .invalidOption e.assignment) ↔
      setAll {} as = outcome := by
  unfold Command.readOptions
  generalize setAll {} as = settled
  constructor
  · intro h
    rcases settled with ⟨⟨a⟩⟩ | o <;> rcases outcome with ⟨⟨b⟩⟩ | o' <;> cases h <;> rfl
  · rintro rfl
    rfl

/-- **Of the assignments to an option the last one counts.**

An assignment that is carried out on options where they stand gives the option that it names its
value and changes no other; or it is rejected, is itself the error, and changes nothing.  What is
assigned on the command line, and what is assigned in one text with commas between the parts, comes
to options in which each has the value that it was assigned last, or its default value, or else to
the first assignment that is rejected.  So it makes no difference in which order two options are
assigned to. -/
theorem last_assignment_counts :
    (∀ (o : TextOptions) (a : List Char),
      (∃ k v, Assigns a k v ∧ o.set a = .ok (o.put k v) ∧
          (change a).run.run o = (.ok (), o.put k v) ∧
          (o.put k v).get k = v ∧ ∀ l, l ≠ k → (o.put k v).get l = o.get l) ∨
        Rejected a ∧ o.set a = .error ⟨a⟩ ∧ (change a).run.run o = (.error ⟨a⟩, o)) ∧
    (∀ as outcome, ComesTo {} as outcome ↔
      Command.readOptions as = outcome.mapError fun e => .invalidOption e.assignment) ∧
    (∀ as : List (List Char), (∀ a ∈ as, ',' ∉ a) → ∀ outcome,
      ComesTo {} (as.filter fun a => !isBlank a) outcome ↔
        ofList ([','].intercalate as) = outcome) ∧
    ∀ (o : TextOptions) (before after : List (List Char)) (a b : List Char) (k l : Key)
      (v : k.Value) (w : l.Value), Assigns a k v → Assigns b l w → k ≠ l →
        o.setAll (before ++ a :: b :: after) = o.setAll (before ++ b :: a :: after) := by
  refine ⟨fun o a => ?_, fun as outcome => ?_, fun as h outcome => ?_,
    fun o before after a b k l v w ha hb h => ?_⟩
  · rcases assigns_or_rejected a with ⟨k, v, ha⟩ | ha
    · exact .inl ⟨k, v, ha, set_of_assigns o ha, run_change_of_assigns o ha, get_put_self o k v,
        fun l hl => get_put_of_ne o hl v⟩
    · exact .inr ⟨ha, set_of_rejected o ha, run_change_of_rejected o ha⟩
  · rw [comesTo_iff]
    exact readOptions_eq_iff.symm
  · rw [ofList_intercalate h, comesTo_iff]
  · exact setAll_swap ha hb h o before after

/-- Tabs are assigned twice, with another option between and a blank part behind. -/
theorem last_assignment_counts_tabs :
    let tabs : List Char := "tab_size=8".toList
    let strip : List Char := " stripnl = ON ".toList
    let tabsAgain : List Char := "tabsize=+4".toList
    let blank : List Char := [' ']
    (∀ a ∈ [tabs, strip, tabsAgain, blank], ',' ∉ a) ∧
      Assigns strip .stripNewlines true ∧ Assigns tabsAgain .tabSize (4 : Nat) ∧
      Key.stripNewlines ≠ Key.tabSize ∧
      ComesTo {} [tabs, strip, tabsAgain]
        (ofList "tab_size=8, stripnl = ON ,tabsize=+4, ".toList) ∧
      ofList "tab_size=8, stripnl = ON ,tabsize=+4, ".toList =
        .ok { stripNewlines := true, tabSize := 4 } ∧
      setAll {} [tabs, strip, tabsAgain] = setAll {} [tabs, tabsAgain, strip] := by
  intro tabs strip tabsAgain blank
  have hcommas : ∀ a ∈ [tabs, strip, tabsAgain, blank], ',' ∉ a := by decide +kernel
  have hstrip : Assigns strip .stripNewlines true :=
    ⟨" stripnl ".toList, " ON ".toList, by decide +kernel, by decide +kernel, by decide +kernel,
      Key.value?_eq_some_iff.mp (by decide +kernel)⟩
  have htabs : Assigns tabsAgain .tabSize (4 : Nat) :=
    ⟨"tabsize".toList, "+4".toList, by decide +kernel, by decide +kernel, by decide +kernel,
      Key.value?_eq_some_iff.mp (by decide +kernel)⟩
  have hkeys : Key.stripNewlines ≠ Key.tabSize := by decide
  have hlist := (last_assignment_counts.2.2.1 [tabs, strip, tabsAgain, blank] hcommas _).mpr rfl
  have hfilter : [tabs, strip, tabsAgain, blank].filter (fun a => !isBlank a) =
      [tabs, strip, tabsAgain] := by decide +kernel
  have htext : [','].intercalate [tabs, strip, tabsAgain, blank] =
      "tab_size=8, stripnl = ON ,tabsize=+4, ".toList := by decide +kernel
  rw [hfilter, htext] at hlist
  exact ⟨hcommas, hstrip, htabs, hkeys, hlist, by decide +kernel,
    last_assignment_counts.2.2.2 {} [tabs] [] strip tabsAgain _ _ _ _ hstrip htabs hkeys⟩

end

end TextOptions

end Highlighter
