/-
# Tables over code points

A property of characters that takes few values is stored as RUNS: a list of code points, each with
the value that holds from there up to the next one.  `Runs` is the search tree over such a list, and
`Runs.valueAt` the value at a code point.
-/

namespace Highlighter

/-- A search tree over code points: below `start` the left part answers, from `start` on the right
part. -/
inductive Runs (α : Type) where
  | leaf (value : α)
  | fork (start : Nat) (below above : Runs α)

namespace Runs

variable {α β : Type}

/-- The value that holds at a code point. -/
def valueAt (code : Nat) : Runs α → α
  | leaf value => value
  | fork start below above => if code < start then below.valueAt code else above.valueAt code

/-- The tree over a sorted list of runs, with the value `first` before the first of them.  `depth`
bounds the height; the length of the list is always enough. -/
def build : (depth : Nat) → (first : α) → List (Nat × α) → Runs α
  | 0, first, _ => leaf first
  | depth + 1, first, runs =>
    match runs.splitAt (runs.length / 2) with
    | (below, (start, value) :: above) =>
      fork start (build depth first below) (build depth value above)
    | (_, []) => leaf first

/-- The tree over a sorted list of runs, with the value `first` before the first of them. -/
def ofList (first : α) (runs : List (Nat × α)) : Runs α :=
  build runs.length first runs

end Runs

end Highlighter
