/-
# Errors

In the main state a character becomes an error just where no rule can begin with it
(`step_error_iff`).  That depends on the character alone but for quotes: a double quote is an error
if no other comes later, and a single one if no character literal closes behind it (`Degrades`).

* Where a character degrades, every rule refuses the text (`Degrades.refuses`).
* Where it does not, some rule can take something (`degrades_of_not_begins`), and so some rule fires.
  A rule that fires gives no error by itself; only the types before the name of a method are lexed
  by a lexer of their own, which may meet an error further on (`kind_ne_error_of_rule`).
-/
import Highlighter.Proofs.Shadow.Strings
import Highlighter.Proofs.Shadow.Signatures

namespace Highlighter

namespace Shadow

open Pattern (many many1 optional anyOf)

/-! ## 1. Where no rule begins -/

/-- What comes after the quote that opens a character literal: a character and a closing quote, the
character written down with a backslash, or by its number. -/
inductive CharEnd : List Char → Prop where
  | escape (c : Char) : CharEnd ['\\', c, '\'']
  | plain {c : Char} (hc : c ≠ '\\') : CharEnd [c, '\'']
  | code {digits : List Char} (hlength : digits.length = 4)
      (hdigits : ∀ d ∈ digits, hexSet.contains d = true) :
      CharEnd ('\\' :: 'u' :: (digits ++ ['\'']))

/-- No rule can begin with the character before the text `later`. -/
structure Degrades (c : Char) (later : List Char) : Prop where
  blank : isBlank c = false
  word : CharClass.isWord c = true → CharClass.isDigit c = true
  dollar : c ≠ '$'
  digit : CharClass.isAsciiDigit c = false
  operator : c ∉ operators
  punctuation : c ∉ punctuationMarks
  string : c = '"' → '"' ∉ later
  char : c = '\'' → ∀ text, text <+: later → ¬ CharEnd text

/-- The pattern for character literals. -/
def charLiteral : Pattern :=
  .choice [.concat [.char '\'', .char '\\', .set .all, .char '\''],
    .concat [.char '\'', .set (.compl (.single '\\')), .char '\''],
    .concat [.char '\'', .char '\\', .char 'u', .repeated (.set hexSet) 4 (some 4) true,
      .char '\'']]

/-- **A character literal is a quote and what closes it.** -/
theorem takes_charLiteral {before : Option Char} {taken after : List Char} :
    charLiteral.Takes before taken after ↔ ∃ text, taken = '\'' :: text ∧ CharEnd text := by
  constructor
  · rintro (h | h | h)
    · obtain ⟨_, _, rfl, h1, _, _, rfl, h2, _, _, rfl, ⟨c, -, rfl⟩, h4⟩ := h
      obtain rfl := Pattern.takes_char.mp h1
      obtain rfl := Pattern.takes_char.mp h2
      obtain rfl := Pattern.takes_char.mp h4
      exact ⟨_, rfl, .escape c⟩
    · obtain ⟨_, _, rfl, h1, _, _, rfl, ⟨c, hc, rfl⟩, h3⟩ := h
      obtain rfl := Pattern.takes_char.mp h1
      obtain rfl := Pattern.takes_char.mp h3
      exact ⟨_, rfl, .plain (by simpa [CharSet.contains_single] using hc)⟩
    · obtain ⟨_, _, rfl, h1, _, _, rfl, h2, _, _, rfl, h3, digits, _, rfl, h4, h5⟩ := h
      obtain rfl := Pattern.takes_char.mp h1
      obtain rfl := Pattern.takes_char.mp h2
      obtain rfl := Pattern.takes_char.mp h3
      obtain rfl := Pattern.takes_char.mp h5
      obtain ⟨hmin, hmax, hdigits⟩ := Pattern.takes_repeated_set.mp h4
      exact ⟨_, rfl, .code (Nat.le_antisymm (hmax 4 rfl) hmin) hdigits⟩
  · rintro ⟨text, rfl, h⟩
    have hchar : ∀ c before after, (Pattern.char c).Takes before [c] after := fun _ _ _ =>
      Pattern.takes_char.mpr rfl
    cases h with
    | escape c =>
      exact Or.inl ⟨_, _, rfl, hchar _ _ _, _, _, rfl, hchar _ _ _, _, _, rfl, ⟨c, rfl, rfl⟩,
        hchar _ _ _⟩
    | @plain c hc =>
      refine Or.inr (Or.inl ⟨_, _, rfl, hchar _ _ _, _, _, rfl, ⟨c, ?_, rfl⟩, hchar _ _ _⟩)
      simpa [CharSet.contains_single] using hc
    | code hlength hdigits =>
      refine Or.inr (Or.inr ⟨_, _, rfl, hchar _ _ _, _, _, rfl, hchar _ _ _, _, _, rfl,
        hchar _ _ _, _, _, rfl, Pattern.takes_repeated_set.mpr ⟨?_, ?_, hdigits⟩, hchar _ _ _⟩)
      · exact Nat.le_of_eq hlength.symm
      · exact fun m hm => hlength.trans_le (Nat.le_max_left 4 m)

section

variable {c : Char} {later : List Char}

theorem letterSet_contains_iff : letterSet.contains c = true ↔
    CharClass.isWord c = true ∧ CharClass.isDigit c = false := by
  have hdigit : (CharSet.property .digit).contains c = CharClass.isDigit c := rfl
  simp [letterSet, hdigit]

theorem digitSet_contains_iff : digitSet.contains c = true ↔
    c = '0' ∨ (CharSet.range '1' '9').contains c = true := by
  have hzero : c = '0' ↔ c.val.toNat = 48 := by
    rw [← Char.val_inj, ← UInt32.toNat_inj]
    rfl
  have hrange : ∀ lo hi : Char, (CharSet.range lo hi).contains c = true ↔
      lo.val.toNat ≤ c.val.toNat ∧ c.val.toNat ≤ hi.val.toNat := by
    intro lo hi
    simp [CharSet.contains, Char.le_def, UInt32.le_iff_toNat_le]
  have hdigits : '0'.val.toNat = 48 ∧ '1'.val.toNat = 49 ∧ '9'.val.toNat = 57 := by decide
  rw [digitSet, hrange, hrange, hzero]
  omega

/-- A word of a list begins with a letter. -/
theorem anyOf_refuses (hc : letterSet.contains c = false) {words : List String} {kind : Kind}
    (hkind : (words, kind) ∈ wordLists ++ announcements) : (anyOf words).Refuses (c :: later) := by
  have hlists : ∀ list ∈ wordLists ++ announcements, ∀ word ∈ list.1,
      word.toList.head?.any letterSet.contains = true := by decide +kernel
  refine Pattern.refuses_of_not_takes fun before taken after hrest htakes => ?_
  obtain ⟨word, hword, rfl⟩ := (Pattern.takes_anyOf (ne_nil_of_words hkind)).mp htakes
  obtain ⟨d, hd, hletter⟩ := (Option.any_eq_true _ _).mp (hlists _ hkind _ hword)
  obtain ⟨more, hmore⟩ := List.head?_eq_some_iff.mp hd
  rw [hmore] at hrest
  obtain ⟨rfl, -⟩ := List.cons.inj hrest
  cases hletter.symm.trans hc

namespace Degrades

variable (h : Degrades c later)

include h

theorem letterSet : letterSet.contains c = false := by
  refine Bool.eq_false_iff.mpr fun hletter => ?_
  obtain ⟨hword, hdigit⟩ := letterSet_contains_iff.mp hletter
  cases (h.word hword).symm.trans hdigit

theorem digitSet : digitSet.contains c = false := h.digit

theorem ne_mark {d : Char} (hd : d ∈ operators ++ punctuationMarks) : c ≠ d := by
  rintro rfl
  rcases List.mem_append.mp hd with hd | hd
  · exact h.operator hd
  · exact h.punctuation hd

theorem ne_zero : c ≠ '0' := by
  rintro rfl
  cases h.digit

theorem nameStart_refuses : nameStart.Refuses (c :: later) :=
  (Pattern.refuses_set_cons h.letterSet later).alt (Pattern.refuses_char h.dollar later)

theorem string_refuses : (Pattern.seq (.char '"') stringTail).Refuses (c :: later) := by
  by_cases hc : c = '"'
  · rw [hc]
    exact (stringTail_refuses (h.string hc)).seq_set _ '"'
  · exact (Pattern.refuses_char hc later).seq _

theorem charLiteral_refuses : charLiteral.Refuses (c :: later) := by
  refine Pattern.refuses_of_not_takes fun before taken after hrest htakes => ?_
  obtain ⟨text, rfl, hend⟩ := takes_charLiteral.mp htakes
  obtain ⟨hc, hlater⟩ := List.cons.inj hrest
  exact h.char hc text ⟨after, hlater.symm⟩ hend

/-- Nothing that begins with a digit is ahead. -/
theorem float_refuses : float.Refuses (c :: later) := by
  have hdigit : ∀ a, (Pattern.seq (.set Shadow.digitSet) a).Refuses (c :: later) :=
    (Pattern.refuses_set_cons h.digitSet later).seq
  have hdot : ∀ a, (Pattern.seq (.char '.') a).Refuses (c :: later) :=
    (Pattern.refuses_char (h.ne_mark (by decide)) later).seq
  have hzero : ∀ a, (Pattern.seq (.char '0') a).Refuses (c :: later) :=
    (Pattern.refuses_char h.ne_zero later).seq
  exact .alt ((((hdigit _).alt (hdot _)).group 1).seq _)
    ((hdigit _).alt ((hdigit _).alt (hzero _)))

/-- **Where a character degrades, every rule refuses the text.** -/
theorem refuses : ∀ r ∈ Compiled.rootRules, r.pattern.Refuses (c :: later) := by
  have hblanks : (many1 (.diff blankSet (.single '\n'))).Refuses (c :: later) := by
    refine Pattern.refuses_of_mayBegin rfl (forall_head?_cons ?_)
    have hc : blankSet.contains c = false := h.blank
    simp [many1, Pattern.mayBegin, hc]
  have hwords : ∀ words kind, (words, kind) ∈ wordLists →
      (wordPattern words).Refuses (c :: later) := fun words kind hkind =>
    (anyOf_refuses h.letterSet (List.mem_append_left _ hkind)).seq _
  have hannouncement : ∀ words kind, (words, kind) ∈ announcements →
      (Pattern.seq (.group 1 (anyOf words)) (.group 2 (many1 blankSet))).Refuses (c :: later) :=
    fun words kind hkind =>
      ((anyOf_refuses h.letterSet (List.mem_append_right _ hkind)).group 1).seq _
  have hmark : ∀ d ∈ operators ++ punctuationMarks, (Pattern.char d).Refuses (c :: later) :=
    fun d hd => Pattern.refuses_char (h.ne_mark hd) later
  have htypes : types.Refuses (c :: later) := by
    refine Pattern.refuses_of_mayBegin rfl (forall_head?_cons ?_)
    simp [types, typePart, nameStart, Pattern.mayBegin, Pattern.mayBeEmpty, Pattern.char,
      CharSet.contains_single, h.letterSet, h.dollar]
  have hzero : (Pattern.char '0').Refuses (c :: later) := Pattern.refuses_char h.ne_zero later
  simp only [Compiled.rootRules, List.forall_mem_cons]
  refine ⟨hblanks, (hmark '/' (by decide)).seq _, (hmark '/' (by decide)).seq _,
    hwords _ .keyword (by decide), (htypes.group 1).seq _, (hmark '[' (by decide)).seq _,
    hwords _ .keywordDeclaration (by decide), hwords _ .keywordType (by decide),
    hannouncement _ .keywordNamespace (by decide), hwords _ .keywordConstant (by decide),
    hannouncement _ .keywordDeclaration (by decide),
    hannouncement _ .keywordDeclaration (by decide),
    hannouncement _ .keywordNamespace (by decide), h.string_refuses, h.charLiteral_refuses,
    ((hmark '.' (by decide)).group 1).seq _, (h.nameStart_refuses.group 1).seq _,
    h.float_refuses, hzero.seq _, hzero.seq _, hzero.seq _, hzero.alt (.seq ?integer _),
    ?operator, ?punctuation, Pattern.refuses_char ?feed later, List.forall_mem_nil _⟩
  case integer =>
    refine Pattern.refuses_set_cons (Bool.eq_false_iff.mpr fun hc => ?_) later
    cases (digitSet_contains_iff.mpr (Or.inr hc)).symm.trans h.digit
  case operator =>
    refine Pattern.refuses_set_cons (Bool.eq_false_iff.mpr fun hc => ?_) later
    exact h.operator ((CharSet.contains_unions_single _ c).mp hc)
  case punctuation =>
    refine Pattern.refuses_set_cons (Bool.eq_false_iff.mpr fun hc => ?_) later
    exact h.punctuation ((CharSet.contains_unions_single _ c).mp hc)
  case feed =>
    rintro rfl
    cases h.blank

end Degrades

/-! ## 2. Where a rule begins -/

/-- The pattern of a rule of the main state can take something of the text. -/
def Begins (text : List Char) : Prop :=
  ∃ r ∈ Compiled.rootRules, ∃ taken after, text = taken ++ after ∧
    ∀ before, r.pattern.Takes before taken after

theorem begins_of_getElem? (count : Nat) {r : TableRule}
    (hr : Compiled.rootRules[count]? = some r) (taken : List Char) {after : List Char}
    (h : ∀ before, r.pattern.Takes before taken after) : Begins (taken ++ after) :=
  ⟨r, List.mem_of_getElem? hr, taken, after, rfl, h⟩

theorem begins_blank (hc : isBlank c = true) : Begins (c :: later) := by
  by_cases hfeed : c = '\n'
  · subst hfeed
    exact begins_of_getElem? 24 rfl ['\n'] fun _ => Pattern.takes_char.mpr rfl
  · refine begins_of_getElem? 0 rfl [c] fun _ =>
      Pattern.takes_many1.mpr ⟨List.cons_ne_nil c [], List.forall_mem_singleton.mpr ?_⟩
    have hblank : blankSet.contains c = true := hc
    simp [hblank, CharSet.contains_single, hfeed]

theorem begins_name (hc : letterSet.contains c = true ∨ c = '$') : Begins (c :: later) := by
  refine begins_of_getElem? 16 rfl [c] fun _ =>
    ⟨[c], [], rfl, ?_, Pattern.takes_many.mpr (List.forall_mem_nil _)⟩
  rcases hc with hc | rfl
  · exact Or.inl ⟨c, hc, rfl⟩
  · exact Or.inr (Pattern.takes_char.mpr rfl)

theorem begins_digit (hc : digitSet.contains c = true) : Begins (c :: later) := by
  refine begins_of_getElem? 21 rfl [c] fun _ => ?_
  rcases digitSet_contains_iff.mp hc with rfl | hc
  · exact Or.inl (Pattern.takes_char.mpr rfl)
  · exact Or.inr ⟨[c], [], rfl, ⟨c, hc, rfl⟩, [], [], rfl,
      Pattern.takes_many.mpr (List.forall_mem_nil _), [], [], rfl, Pattern.takes_optional_nil _,
      Pattern.takes_optional_nil _⟩

theorem begins_mark (hc : c ∈ operators ++ punctuationMarks) : Begins (c :: later) := by
  rcases List.mem_append.mp hc with hc | hc
  · exact begins_of_getElem? 22 rfl [c] fun _ =>
      ⟨c, (CharSet.contains_unions_single _ c).mpr hc, rfl⟩
  · exact begins_of_getElem? 23 rfl [c] fun _ =>
      ⟨c, (CharSet.contains_unions_single _ c).mpr hc, rfl⟩

/-- A string may end at the first quote, whatever hides it. -/
theorem begins_string (h : '"' ∈ later) : Begins ('"' :: later) := by
  obtain ⟨body, rest, rfl, hbody⟩ := List.eq_append_cons_of_mem h
  have hset : ∀ c ∈ body, (CharSet.compl (.single '"')).contains c = true := by
    intro c hc
    have hne : c ≠ '"' := fun heq => hbody (heq ▸ hc)
    simp [CharSet.contains_single, hne]
  have hsplit : '"' :: (body ++ '"' :: rest) = '"' :: (body ++ ['"']) ++ rest := by simp
  rw [hsplit]
  refine begins_of_getElem? 13 rfl ('"' :: (body ++ ['"'])) fun before => ?_
  have hunits :
      (Pattern.repeated stringUnit 0 none true).Takes (some '"') body (['"'] ++ rest) := by
    refine ⟨body.length, Nat.zero_le _, fun _ hm => (by cases hm), ?_⟩
    exact (Pattern.repeats_set_iff.mpr ⟨rfl, hset⟩).mono fun _ _ _ h => Or.inr (Or.inr h)
  exact ⟨['"'], body ++ ['"'], rfl, Pattern.takes_char.mpr rfl, body, ['"'], rfl, hunits,
    Pattern.takes_char.mpr rfl⟩

theorem begins_charLiteral {text : List Char} (hend : CharEnd text) (hlater : text <+: later) :
    Begins ('\'' :: later) := by
  obtain ⟨after, rfl⟩ := hlater
  exact begins_of_getElem? 14 rfl ('\'' :: text) fun _ =>
    takes_charLiteral.mpr ⟨text, rfl, hend⟩

/-- **Where no rule begins, the character degrades.** -/
theorem degrades_of_not_begins (h : ¬ Begins (c :: later)) : Degrades c later where
  blank := Bool.eq_false_iff.mpr fun hc => h (begins_blank hc)
  word hword := by
    by_contra hdigit
    exact h (begins_name (Or.inl (letterSet_contains_iff.mpr ⟨hword, by simpa using hdigit⟩)))
  dollar hc := h (begins_name (Or.inr hc))
  digit := Bool.eq_false_iff.mpr fun hc => h (begins_digit hc)
  operator hc := h (begins_mark (List.mem_append_left _ hc))
  punctuation hc := h (begins_mark (List.mem_append_right _ hc))
  string hc hlater := by
    subst hc
    exact h (begins_string hlater)
  char hc text hlater hend := by
    subst hc
    exact h (begins_charLiteral hend hlater)

end

/-! ## 3. The step -/

/-- A rule that has a form gives no error. -/
theorem Compiled.Form.error_notMem_kinds {r : TableRule} (h : Form r) :
    Kind.error ∉ r.action.kinds := by
  have hlists : ∀ list ∈ wordLists ++ announcements, list.2 ≠ .error := by decide
  have hmarks : ∀ list ∈ marks, list.2 ≠ .error := by decide
  have hnames : Kind.error ∉ nameKinds := by decide
  have hplain : Kind.error ∉ plainKinds := by decide
  intro hmem
  cases h with
  | blank => simp [token, Action.kinds] at hmem
  | words hkind =>
    exact hlists _ (List.mem_append_left _ hkind) (List.mem_singleton.mp hmem).symm
  | @announcement _ words kind _ hkind =>
    have hne : kind ≠ .error := hlists _ (List.mem_append_right _ hkind)
    have hmem : Kind.error ∈ [.text, kind, .text] := hmem
    simp [hne.symm] at hmem
  | mark hkind => exact hmarks _ hkind (List.mem_singleton.mp hmem).symm
  | name hkind => exact hnames (List.mem_singleton.mp hmem ▸ hkind)
  | member => exact absurd hmem (by decide)
  | plain hkind => exact hplain (List.mem_singleton.mp hmem ▸ hkind)

section

variable {s : Stream}

/-- Where a rule begins, a rule fires. -/
theorem Begins.exists_event {cursor : Cursor} (h : Begins cursor.rest)
    (htop : cursor.stack.top = table.initial) :
    ∃ r ∈ Compiled.rootRules, ∃ m, table.event cursor = .rule r m ∧
      r.match? cursor.before cursor.rest = some m := by
  have hempty : ∀ r ∈ Compiled.rootRules, r.pattern.mayBeEmpty = false := by decide +kernel
  obtain ⟨r, hr, taken, after, hrest, htakes⟩ := h
  have hmatch : r.match? cursor.before cursor.rest ≠ none := fun hnone =>
    (TableRule.match?_eq_none_iff (hempty r hr)).mp hnone taken after hrest (htakes _)
  cases hfirst : firstMatch? Compiled.rootRules cursor.before cursor.rest with
  | none =>
    have hnone := List.findSome?_eq_none_iff.mp hfirst r hr
    exact absurd (Option.map_eq_none_iff.mp hnone) hmatch
  | some found =>
    obtain ⟨r', m⟩ := found
    obtain ⟨hr', hm⟩ := firstMatch?_eq_some hfirst
    refine ⟨r', hr', m, Table.event_of_firstMatch? ?_, hm⟩
    rw [state_top (s := ⟨cursor, []⟩) htop]
    exact hfirst

/-- **A rule that fires gives no error**, unless a lexer for the types of a method head does; and
then it also gives the name of the method. -/
theorem kind_ne_error_of_rule {cursor : Cursor} {r : TableRule} (hr : r ∈ Compiled.rootRules)
    {m : Match} (hm : r.match? cursor.before cursor.rest = some m) (sub : Option SubLexer)
    {token : Token} (htoken : token ∈ cursor.emitted sub (.rule r m))
    (hkind : token.kind = .error) :
    (∃ name ∈ cursor.emitted sub (.rule r m), name.kind = .nameFunction) ∧
      ∃ lex ∈ sub, ∃ types, types <+: cursor.rest ∧
        token ∈ lex table.initial types cursor.offset := by
  rcases Compiled.form_of_mem_rootRules r hr with rfl | hform
  · obtain ⟨sig, htext, -, htokens⟩ := exists_signature hm
    have hemitted : cursor.emitted sub (.rule Compiled.method m) =
        Emission.ofGroup sub .text (.using 0) sig.types cursor.offset ++
          sig.ownTokens (cursor.offset + byteLength sig.types) := htokens sub .text cursor.offset
    have hname : ∃ name ∈ cursor.emitted sub (.rule Compiled.method m),
        name.kind = .nameFunction := by
      rw [hemitted]
      exact ⟨_, List.mem_append_right _ List.mem_cons_self, rfl⟩
    refine ⟨hname, ?_⟩
    rw [hemitted] at htoken
    rcases List.mem_append.mp htoken with htoken | htoken
    · cases sub with
      | none => cases hkind.symm.trans (Emission.kind_of_mem_piece htoken)
      | some lex =>
        have hinitial : table.initial = 0 := by rw [table_eq]; rfl
        refine ⟨lex, rfl, sig.types, ?_, hinitial ▸ htoken⟩
        have hprefix : sig.types <+: sig.text := by
          simp [Signature.text]
        exact hprefix.trans (htext ▸ List.take_prefix _ _)
    · rcases List.mem_cons.mp htoken with rfl | htoken
      · cases hkind
      · rcases List.mem_append.mp htoken with htoken | htoken
        · cases hkind.symm.trans (Emission.kind_of_mem_piece htoken)
        · obtain rfl := List.mem_singleton.mp htoken
          cases hkind
  · have hmem := Emission.kind_mem_kinds hform.targets_eq_nil htoken
    exact absurd (hkind ▸ hmem) hform.error_notMem_kinds

/-- **Where Shadow degrades**: in the main state a step gives an error just where no rule can begin,
and the error is the one character ahead.  Any other error among the tokens of a step is one that
the lexer for the types of a method head has met. -/
theorem step_error_iff (htop : s.cursor.stack.top = table.initial) {c : Char} {later : List Char}
    (hrest : s.cursor.rest = c :: later) (sub : Option SubLexer) :
    (∀ text, s.step table sub = s.give .error text ↔ text = [c] ∧ Degrades c later) ∧
    ∀ given, (s.step table sub).pending = s.pending ++ given →
      ∀ token ∈ given, token.kind = .error →
        (given = [⟨.error, [c], s.cursor.offset⟩] ∧ Degrades c later) ∨
          ∃ lex ∈ sub, ∃ types, types <+: c :: later ∧
            token ∈ lex table.initial types s.cursor.offset := by
  by_cases hbegins : Begins (c :: later)
  · have hbegins : Begins s.cursor.rest := hrest ▸ hbegins
    obtain ⟨r, hr, m, hevent, hm⟩ := hbegins.exists_event htop
    have hpending : (s.step table sub).pending = s.pending ++ s.cursor.emitted sub (.rule r m) := by
      rw [Stream.step, hevent]
    have hnested := fun token => @kind_ne_error_of_rule _ _ hr _ hm sub token
    have hnot : ¬ Degrades c later := by
      intro hdegrades
      have hnone := TableRule.match?_of_refuses (hdegrades.refuses r hr) s.cursor.before
      rw [← hrest, hm] at hnone
      cases hnone
    refine ⟨fun text => ⟨fun hgive => ?_, fun h => absurd h.2 hnot⟩, ?_⟩
    · -- The name of a method would be the only token as well.
      have hgiven : s.cursor.emitted sub (.rule r m) = [⟨.error, text, s.cursor.offset⟩] :=
        List.append_cancel_left (hpending.symm.trans (congrArg Stream.pending hgive))
      rw [hgiven] at hnested
      obtain ⟨⟨name, hname, hkind⟩, -⟩ := hnested _ (List.mem_singleton_self _) rfl
      rw [List.mem_singleton.mp hname] at hkind
      cases hkind
    · intro given hgiven token htoken hkind
      rw [hpending] at hgiven
      rw [← List.append_cancel_left hgiven] at htoken
      rw [← hrest]
      exact Or.inr (hnested token htoken hkind).2
  · have hdegrades := degrades_of_not_begins hbegins
    have hstep := step_eq_give_error htop hrest hdegrades.refuses sub
    rw [hstep]
    refine ⟨fun text => ⟨fun hgive => ⟨?_, hdegrades⟩, fun h => h.1 ▸ rfl⟩, ?_⟩
    · have hpending := congrArg Stream.pending hgive
      simpa [Stream.give, eq_comm] using hpending
    · intro given hgiven token _ _
      refine Or.inl ⟨?_, hdegrades⟩
      exact (List.append_cancel_left hgiven).symm

end

/-- A digit that is not an ASCII one, a quote that no character literal begins with, and one that
begins one. -/
theorem step_error_start :
    (Stream.start table.initial ['٣', 'a']).step table none =
        (Stream.start table.initial ['٣', 'a']).give .error ['٣'] ∧
      (Stream.start table.initial ['\'', 'a', 'b']).step table none =
        (Stream.start table.initial ['\'', 'a', 'b']).give .error ['\''] ∧
      ∀ text, (Stream.start table.initial ['\'', 'a', '\'']).step table none ≠
        (Stream.start table.initial ['\'', 'a', '\'']).give .error text := by
  refine ⟨?_, ?_, fun text hgive => ?_⟩
  · refine ((step_error_iff (Stream.top_start _ _) rfl none).1 _).mpr ⟨rfl, ?_⟩
    exact ⟨by decide +kernel, fun _ => by decide +kernel, by decide, by decide, by decide,
      by decide, fun h => absurd h (by decide), fun h => absurd h (by decide)⟩
  · refine ((step_error_iff (Stream.top_start _ _) rfl none).1 _).mpr ⟨rfl, ?_⟩
    refine ⟨by decide, fun h => absurd h (by decide), by decide, by decide, by decide, by decide,
      fun h => absurd h (by decide), fun _ text htext hend => ?_⟩
    cases hend <;> simp at htext
  · obtain ⟨-, hdegrades⟩ := ((step_error_iff (Stream.top_start _ _) rfl none).1 text).mp hgive
    exact hdegrades.char rfl ['a', '\''] (List.prefix_refl _) (.plain (by decide))

end Shadow

end Highlighter
