import Zpl.Sequence.Search

/-!
# Parts of sequences

A sequence falls into words between blanks, or into lines; and it is made longer by padding.

## Main definitions

* `Sequence.words`, `wordsLast` — the words between blanks.
* `Sequence.lines` — the lines between line ends.
* `Sequence.stripLeft`, `stripRight`, `strip` — a sequence without some items at its ends.
* `Sequence.centered`, `aligned` — padding.
* `Sequence.expandTabs` — tabs as blanks.
-/

namespace Zpl.Sequence

variable {α : Type}

/-! ### Words -/

/-- The words between blanks; after `limit` words the rest is taken together. -/
def words (blank : α → Bool) : (limit : Nat) → List α → List (List α)
  | 0, s =>
    match s.dropWhile blank with
    | [] => []
    | rest => [rest]
  | limit + 1, s =>
    match s.dropWhile blank with
    | [] => []
    | rest =>
      rest.takeWhile (fun a => !blank a) :: words blank limit (rest.dropWhile fun a => !blank a)

/-- The words between blanks, taken from the back. -/
def wordsLast (blank : α → Bool) (limit : Nat) (s : List α) : List (List α) :=
  ((words blank limit s.reverse).map List.reverse).reverse

/-! ### Lines -/

/-- How lines end: at certain items, and at certain pairs of them. -/
structure LineEnds (α : Type) where
  ends : α → Bool
  isPair : α → α → Bool

/-- The lines of a sequence, with their ends if they are kept. `line` is the part of the current
line that was read already, last item first. -/
def linesFrom (e : LineEnds α) (keep : Bool) (line : List α) : List α → List (List α)
  | [] => if line.isEmpty then [] else [line.reverse]
  | [a] => [(if e.ends a && !keep then line else a :: line).reverse]
  | a :: b :: rest =>
    if e.isPair a b then
      (if keep then b :: a :: line else line).reverse :: linesFrom e keep [] rest
    else if e.ends a then
      (if keep then a :: line else line).reverse :: linesFrom e keep [] (b :: rest)
    else linesFrom e keep (a :: line) (b :: rest)

/-- The lines of a sequence, with their ends if they are kept. -/
def lines (e : LineEnds α) (keep : Bool) (s : List α) : List (List α) := linesFrom e keep [] s

/-! ### Ends -/

def stripLeft (drop : α → Bool) (s : List α) : List α := s.dropWhile drop

def stripRight (drop : α → Bool) (s : List α) : List α := (s.reverse.dropWhile drop).reverse

def strip (drop : α → Bool) (s : List α) : List α := stripRight drop (stripLeft drop s)

/-! ### Padding -/

/-- Where a sequence stands in the room that it is given. -/
inductive Side where
  | left
  | right
  deriving DecidableEq

/-- A sequence at one side of a given room. -/
def aligned (side : Side) (fill : α) (width : Nat) (s : List α) : List α :=
  let gap := List.replicate (width - s.length) fill
  match side with
  | .left => s ++ gap
  | .right => gap ++ s

/-- A sequence in the middle of a given room. Of an odd gap the greater part comes first in an odd
room, and last in an even one. -/
def centered (fill : α) (width : Nat) (s : List α) : List α :=
  let gap := width - s.length
  let first := gap / 2 + gap % 2 * (width % 2)
  List.replicate first fill ++ s ++ List.replicate (gap - first) fill

/-- A sequence in which tabs are filled up with blanks to the next column that is a multiple of a
size; `column` is that of the first item. -/
def expandTabs (isTab endsLine : α → Bool) (blank : α) (size : Nat) (column : Nat) :
    List α → List α
  | [] => []
  | a :: rest =>
    if isTab a then
      let gap := if size = 0 then 0 else size - column % size
      List.replicate gap blank ++ expandTabs isTab endsLine blank size (column + gap) rest
    else a :: expandTabs isTab endsLine blank size (if endsLine a then 0 else column + 1) rest

@[simp] theorem aligned_of_le (side : Side) (fill : α) {width : Nat} {s : List α}
    (h : width ≤ s.length) : aligned side fill width s = s := by
  cases side <;> simp [aligned, Nat.sub_eq_zero_of_le h]

end Zpl.Sequence
