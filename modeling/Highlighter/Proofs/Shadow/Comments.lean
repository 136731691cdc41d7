/-
# Comments

Where two slashes lie ahead in the main state, the step takes the rest of the line with its line
feed, or the rest of the text if no line feed comes.  Where a slash and an asterisk do, it takes all
up to the first `*/` behind them; and if there is none, the slash is an operator (`step_comment`).

Both patterns go through the text with a lazy repetition of any character, so what they take ends at
the first place from which the end of the comment can go on (`Pattern.prefers_fewest`).
-/
import Highlighter.Proofs.Shadow.Steps

namespace Highlighter

namespace Shadow

open Pattern (fewest)

/-! ## 1. What the patterns take -/

/-- What ends a comment on one line. -/
def lineStop : Pattern := .alt (.char '\n') (.look .textEnd)

/-- What ends a comment over several lines. -/
def commentStop : Pattern := .literal ['*', '/']

def lineComment : Pattern := .concat [.char '/', .char '/', fewest .all, lineStop]

def longComment : Pattern := .concat [.char '/', .char '*', fewest .all, commentStop]

section

variable {line body rest later : List Char}

theorem lineStop_refuses {c : Char} (hc : c ≠ '\n') (rest : List Char) :
    lineStop.Refuses (c :: rest) :=
  (Pattern.refuses_char hc rest).alt fun _ _ _ _ => Pattern.find_look _

theorem lineStop_prefers_nil : lineStop.Prefers [] [] := by
  refine .alt_right ?_ (Pattern.refuses_set_nil _)
  intro α i b next x hnext
  rw [lastChar?_nil] at hnext
  exact (Pattern.find_look _).trans hnext

/-- **A comment on one line goes on to where its line stops**, with what stops it. -/
theorem lineComment_prefers {stop : List Char} (hline : '\n' ∉ line)
    (hstop : lineStop.Prefers stop rest) :
    lineComment.Prefers ('/' :: '/' :: (line ++ stop)) rest := by
  have hearlier : ∀ u v, line = u ++ v → v ≠ [] → lineStop.Refuses (v ++ (stop ++ rest)) := by
    intro u v huv hne
    obtain ⟨c, v, rfl⟩ := List.exists_cons_of_ne_nil hne
    refine lineStop_refuses (fun hc => hline ?_) _
    rw [huv, hc]
    exact List.mem_append_right u List.mem_cons_self
  exact (Pattern.prefers_char '/' _).seq ((Pattern.prefers_char '/' _).seq
    (Pattern.prefers_fewest (fun _ _ => rfl) hearlier hstop))

/-- **A comment over several lines goes on to the first `*/`.** -/
theorem longComment_prefers
    (hfirst : ∀ u v, body ++ '*' :: '/' :: rest = u ++ '*' :: '/' :: v → body.length ≤ u.length) :
    longComment.Prefers ('/' :: '*' :: (body ++ ['*', '/'])) rest := by
  have hearlier : ∀ u v, body = u ++ v → v ≠ [] →
      commentStop.Refuses (v ++ (['*', '/'] ++ rest)) := by
    intro u v huv hne
    refine Pattern.refuses_of_not_takes fun before taken after hafter htakes => ?_
    obtain rfl := Pattern.takes_literal.mp htakes
    have hsplit : body ++ '*' :: '/' :: rest = u ++ '*' :: '/' :: after := by
      rw [huv, List.append_assoc]
      exact congrArg (u ++ ·) hafter
    have hle := hfirst u after hsplit
    have hpos := List.length_pos_iff.mpr hne
    rw [huv, List.length_append] at hle
    omega
  have hstop : commentStop.Prefers ['*', '/'] rest :=
    (Pattern.prefers_char '*' _).seq (Pattern.prefers_char '/' _)
  exact (Pattern.prefers_char '/' _).seq ((Pattern.prefers_char '*' _).seq
    (Pattern.prefers_fewest (fun _ _ => rfl) hearlier hstop))

/-- A comment over several lines needs its end. -/
theorem longComment_refuses (hstop : ¬ ['*', '/'] <:+: later) :
    longComment.Refuses ('/' :: '*' :: later) := by
  have htail : (Pattern.seq (fewest .all) commentStop).Refuses later := by
    refine Pattern.refuses_of_not_takes fun before taken after hafter htakes => hstop ?_
    obtain ⟨u, v, rfl, -, hv⟩ := htakes
    obtain rfl := Pattern.takes_literal.mp hv
    exact ⟨u, after, hafter.symm⟩
  exact (htail.seq_set _ '*').seq_set _ '/'

end

/-! ## 2. The step -/

section

variable {s : Stream}

/-- The rules before the comments. -/
theorem refuses_before_comments (rest : List Char) :
    ∀ r ∈ Compiled.rootRules.take 1, r.pattern.Refuses ('/' :: rest) :=
  forall_refuses (by decide +kernel) rest

theorem step_lineComment (htop : s.cursor.stack.top = table.initial) {line stop rest : List Char}
    (hrest : s.cursor.rest = '/' :: '/' :: (line ++ (stop ++ rest))) (hline : '\n' ∉ line)
    (hstop : lineStop.Prefers stop rest) (sub : Option SubLexer) :
    s.step table sub = s.give .commentSingle ('/' :: '/' :: (line ++ stop)) := by
  have hsplit : s.cursor.rest = '/' :: '/' :: (line ++ stop) ++ rest := by
    rw [hrest, List.cons_append, List.cons_append, List.append_assoc]
  exact step_eq_give htop 1 rfl rfl rfl hsplit (refuses_before_comments _)
    (lineComment_prefers hline hstop) (List.cons_ne_nil _ _) sub

/-- With an asterisk ahead, the rule for comments on one line is out of the question as well. -/
theorem refuses_before_longComment (rest : List Char) :
    ∀ r ∈ Compiled.rootRules.take 2, r.pattern.Refuses ('/' :: '*' :: rest) := by
  have hsingle : lineComment.Refuses ('/' :: '*' :: rest) :=
    ((Pattern.refuses_char (by decide) rest).seq _).seq_set _ '/'
  have hrules : Compiled.rootRules.take 2 = Compiled.rootRules.take 1 ++
      [Compiled.token "//.*?(?:\\n|\\z)" lineComment .commentSingle] := rfl
  rw [hrules]
  exact List.forall_mem_append.mpr
    ⟨refuses_before_comments _, List.forall_mem_singleton.mpr hsingle⟩

theorem step_longComment (htop : s.cursor.stack.top = table.initial) {body rest : List Char}
    (hrest : s.cursor.rest = '/' :: '*' :: (body ++ '*' :: '/' :: rest))
    (hfirst : ∀ u v, body ++ '*' :: '/' :: rest = u ++ '*' :: '/' :: v → body.length ≤ u.length)
    (sub : Option SubLexer) :
    s.step table sub = s.give .commentMultiline ('/' :: '*' :: (body ++ ['*', '/'])) := by
  have hsplit : s.cursor.rest = '/' :: '*' :: (body ++ ['*', '/']) ++ rest := by
    rw [hrest, List.cons_append, List.cons_append, List.append_assoc]
    rfl
  exact step_eq_give htop 2 rfl rfl rfl hsplit (refuses_before_longComment _)
    (longComment_prefers hfirst) (List.cons_ne_nil _ _) sub

/-- A slash and an asterisk that begin no comment. -/
theorem step_slash (htop : s.cursor.stack.top = table.initial) {later : List Char}
    (hrest : s.cursor.rest = '/' :: '*' :: later) (hstop : ¬ ['*', '/'] <:+: later)
    (sub : Option SubLexer) : s.step table sub = s.give .operator ['/'] := by
  have hearlier : ∀ r ∈ Compiled.rootRules.take 22, r.pattern.Refuses ('/' :: '*' :: later) := by
    have hrules : Compiled.rootRules.take 22 = Compiled.rootRules.take 2 ++
        Compiled.token "/\\*.*?\\*/" longComment .commentMultiline ::
          (Compiled.rootRules.take 22).drop 3 := rfl
    rw [hrules]
    exact List.forall_mem_append.mpr ⟨refuses_before_longComment _, List.forall_mem_cons.mpr
      ⟨longComment_refuses hstop, forall_refuses (by decide +kernel) _⟩⟩
  exact step_eq_give htop 22 rfl rfl rfl hrest hearlier (Pattern.prefers_set (by decide) _)
    (List.cons_ne_nil _ _) sub

/-- **Comments**: with two slashes ahead, a step takes the line through its line feed, or the whole
text if there is none; with a slash and an asterisk, all through the first `*/` after them, and if
there is none, only the slash, as an operator. -/
theorem step_comment (htop : s.cursor.stack.top = table.initial) (sub : Option SubLexer)
    (later : List Char) :
    (s.cursor.rest = '/' :: '/' :: later →
      (∀ line rest, later = line ++ '\n' :: rest → '\n' ∉ line →
        s.step table sub = s.give .commentSingle ('/' :: '/' :: (line ++ ['\n']))) ∧
      ('\n' ∉ later → s.step table sub = s.give .commentSingle ('/' :: '/' :: later))) ∧
    (s.cursor.rest = '/' :: '*' :: later →
      (∀ body rest, later = body ++ '*' :: '/' :: rest →
        (∀ u v, later = u ++ '*' :: '/' :: v → body.length ≤ u.length) →
        s.step table sub = s.give .commentMultiline ('/' :: '*' :: (body ++ ['*', '/']))) ∧
      (¬ ['*', '/'] <:+: later → s.step table sub = s.give .operator ['/'])) := by
  constructor
  · intro hrest
    constructor
    · rintro line rest rfl hline
      exact step_lineComment htop hrest hline ((Pattern.prefers_char '\n' rest).alt_left _) sub
    · intro hlater
      have hnil : s.cursor.rest = '/' :: '/' :: (later ++ ([] ++ [])) := by
        rw [hrest, List.append_nil, List.append_nil]
      have hstep := step_lineComment htop hnil hlater lineStop_prefers_nil sub
      rwa [List.append_nil] at hstep
  · intro hrest
    constructor
    · rintro body rest rfl hfirst
      exact step_longComment htop hrest hfirst sub
    · intro hstop
      exact step_slash htop hrest hstop sub

end

/-- A line that ends, one at the end of the text, a comment over several lines that begins with
`/*/`, and a slash that begins no comment. -/
theorem step_comment_start :
    (Stream.start table.initial ['/', '/', '\r', '\n', 'b']).step table none =
        (Stream.start table.initial ['/', '/', '\r', '\n', 'b']).give .commentSingle
          ['/', '/', '\r', '\n'] ∧
      (Stream.start table.initial ['/', '/']).step table none =
        (Stream.start table.initial ['/', '/']).give .commentSingle ['/', '/'] ∧
      (Stream.start table.initial ['/', '*', '/', '*', '/', '*', '/']).step table none =
        (Stream.start table.initial ['/', '*', '/', '*', '/', '*', '/']).give .commentMultiline
          ['/', '*', '/', '*', '/'] ∧
      (Stream.start table.initial ['/', '*', '/']).step table none =
        (Stream.start table.initial ['/', '*', '/']).give .operator ['/'] := by
  refine ⟨?_, ?_, ?_, ?_⟩
  · exact ((step_comment (Stream.top_start _ _) none _).1 rfl).1 ['\r'] ['b'] rfl (by decide)
  · exact ((step_comment (Stream.top_start _ _) none _).1 rfl).2 (by decide)
  · refine ((step_comment (Stream.top_start _ _) none _).2 rfl).1 ['/'] ['*', '/'] rfl ?_
    intro u v huv
    rcases u with - | ⟨c, u⟩
    · simp at huv
    · simp
  · exact ((step_comment (Stream.top_start _ _) none _).2 rfl).2 (by decide)

end Shadow

end Highlighter
