import Zpl.Sequence.Merge

/-!
# Sorting sequences

A sequence is cut into runs, which ascend, or descend and are turned round. Runs that are too short
are lengthened: the items that follow are put into them one by one, each behind the items that it
does not precede. The border between two runs has a power, which says how deep it lies in a tree
over all places of the sequence, and runs at deeper borders are merged first.

So items of which neither precedes the other keep their order. When two items cannot be compared,
sorting ends there, and the sequence keeps the order that it has reached.

## Main definitions

* `Sequence.sorted` — a sequence in order, or as far as it could be ordered.

## Main statements

* `Sequence.perm_insertIdx_append` — putting an item into a run only moves items.
-/

namespace Zpl.Sequence

variable {α ε : Type}

/-! ### Runs -/

/-- A run of a sequence: where it starts, its items, and the power of the border behind it. -/
structure Run (α : Type) where
  start : Nat
  items : List α
  power : Nat := 0

namespace Run

def length (r : Run α) : Nat := r.items.length

/-- The items of runs, the last of which comes first. -/
def all (runs : List (Run α)) : List α := (runs.reverse.map Run.items).flatten

end Run

section

variable (precedes : α → α → Except ε Bool)

/-- How many items in a row continue a run after an item: each precedes the one before it, or none
does. -/
def runLength (descending : Bool) : α → List α → Except ε Nat
  | _, [] => .ok 0
  | last, a :: rest => do
    if (← precedes a last) = descending then
      let n ← runLength descending a rest
      return n + 1
    else return 0

/-- How long the run at the front of a sequence is, and whether it descends. -/
def leadingRun : List α → Except ε (Nat × Bool)
  | first :: second :: rest => do
    let descending ← precedes second first
    let n ← runLength precedes descending second rest
    return (n + 2, descending)
  | as => .ok (as.length, false)

/-- The place of an item in a run, behind the items that it does not precede. -/
def placeIn (run : List α) (a : α) : Except ε Nat :=
  let items := run.toArray
  halve (holdsAt (fun item => do return !(← precedes a item)) items) 0 run.length

/-- Puts items into a run one by one. -/
def settle (run : List α) : List α → Except (Stopped α ε) (List α)
  | [] => .ok run
  | a :: rest => do
    let place ← stoppingAt (run ++ a :: rest) (placeIn precedes run a)
    settle (run.insertIdx place a) rest

/-- Putting an item into a run only moves items. -/
theorem perm_insertIdx_append (run rest : List α) (a : α) {place : Nat} (h : place ≤ run.length) :
    (run.insertIdx place a ++ rest).Perm (run ++ a :: rest) :=
  ((List.perm_insertIdx a run h).append_right rest).trans List.perm_middle.symm

/-- The run at the front of a sequence, turned round if it descends and lengthened if it is shorter
than the least length, and the rest of the sequence. -/
def nextRun (least : Nat) (as : List α) : Except (Stopped α ε) (List α × List α) := do
  let (n, descending) ← stoppingAt as (leadingRun precedes as)
  let run := if descending then (as.take n).reverse else as.take n
  let rest := as.drop n
  match settle precedes run (rest.take (least - n)) with
  | .ok run => return (run, rest.drop (least - n))
  | .error stopped =>
    throw { stopped with reached := stopped.reached ++ rest.drop (least - n) }

end

/-! ### Lengths and powers -/

/-- The least length of a run in a sequence of a given length, which is halved until it is below
64. Whether an odd length was halved adds one. -/
def leastRun (wasOdd : Bool) (length : Nat) : Nat :=
  if length < 64 then length + wasOdd.toNat
  else leastRun (wasOdd || length % 2 == 1) (length / 2)

/-- The depth, counted from one, at which two numbers below twice a bound fall apart when the
interval from zero to the bound is halved again and again. -/
def depthBetween (bound : Nat) : (fuel a b : Nat) → Nat
  | 0, _, _ => 0
  | fuel + 1, a, b =>
    if bound ≤ a then depthBetween bound fuel (2 * (a - bound)) (2 * (b - bound)) + 1
    else if bound ≤ b then 1
    else depthBetween bound fuel (2 * a) (2 * b) + 1

/-- The power of the border between a run and one of a given length behind it: the depth at which
the middles of the two fall apart. -/
def borderPower (total : Nat) (r : Run α) (next : Nat) : Nat :=
  let middle := 2 * r.start + r.length
  depthBetween total (total + 1) middle (middle + r.length + next)

/-! ### Merging runs -/

/-- A stack of runs, the last of which comes first, and the patience of the merger. -/
structure Pending (α : Type) where
  runs : List (Run α) := []
  patience : Nat := leastSkip

section

variable (precedes : α → α → Except ε Bool)

/-- Merges two runs that stand above some others and below some more. -/
def mergeAt (patience : Nat) (above : List (Run α)) (right left : Run α) (below : List (Run α)) :
    Except (Stopped α ε) (Pending α) :=
  match merge precedes patience left.items right.items with
  | .ok (items, patience) =>
    .ok { runs := above ++ { left with items := items } :: below, patience := patience }
  | .error stopped =>
    .error { stopped with reached := Run.all below ++ (stopped.reached ++ Run.all above) }

/-- Merges the last two runs for as long as the border in front of them has more than a given
power. `fuel` bounds how many runs there are. -/
def mergeDeeper (power : Nat) : (fuel : Nat) → Pending α → Except (Stopped α ε) (Pending α)
  | 0, p => .ok p
  | fuel + 1, p =>
    match p.runs with
    | right :: left :: below =>
      if power < left.power then do
        let p ← mergeAt precedes p.patience [] right left below
        mergeDeeper power fuel p
      else .ok p
    | _ => .ok p

/-- Merges all runs: the last two, unless the one before them is shorter than the last. `fuel`
bounds how many runs there are. -/
def mergeAll : (fuel : Nat) → Pending α → Except (Stopped α ε) (Pending α)
  | 0, p => .ok p
  | fuel + 1, p =>
    match p.runs with
    | last :: second :: third :: below =>
      if third.length < last.length then do
        let p ← mergeAt precedes p.patience [last] second third below
        mergeAll fuel p
      else do
        let p ← mergeAt precedes p.patience [] last second (third :: below)
        mergeAll fuel p
    | [last, second] => do
      let p ← mergeAt precedes p.patience [] last second []
      mergeAll fuel p
    | _ => .ok p

/-- Adds a run of some items behind the others. -/
def push (total start : Nat) (items : List α) (p : Pending α) :
    Except (Stopped α ε) (Pending α) := do
  match p.runs with
  | [] => return { p with runs := [{ start := start, items := items }] }
  | last :: _ =>
    let power := borderPower total last items.length
    let p ← mergeDeeper precedes power p.runs.length p
    match p.runs with
    | [] => return { p with runs := [{ start := start, items := items }] }
    | last :: below =>
      return { p with
        runs := { start := start, items := items } :: { last with power := power } :: below }

/-- Cuts a sequence into runs and adds them to those that are pending. `fuel` bounds the number of
items. -/
def pushAll (least total : Nat) :
    (fuel start : Nat) → Pending α → List α → Except (Stopped α ε) (Pending α)
  | 0, _, p, _ => .ok p
  | _ + 1, _, p, [] => .ok p
  | fuel + 1, start, p, as =>
    match nextRun precedes least as with
    | .error stopped => .error { stopped with reached := Run.all p.runs ++ stopped.reached }
    | .ok (run, rest) =>
      match push precedes total start run p with
      | .error stopped =>
        .error { stopped with reached := stopped.reached ++ (run ++ rest) }
      | .ok p => pushAll least total fuel (start + run.length) p rest

/-- The runs of a sequence merged into one. -/
def sortedRun (as : List α) : Except (Stopped α ε) (List α) := do
  if as.length < 2 then return as
  let least := leastRun false as.length
  let p ← pushAll precedes least as.length as.length 0 {} as
  let p ← mergeAll precedes p.runs.length p
  return Run.all p.runs

/-- The items of a sequence in order, or as far as they could be ordered, and why not further. Where
they are to be reversed, too, items of which neither precedes the other keep their order. -/
def sorted (reversed : Bool) (as : List α) : List α × Option ε :=
  let turned (as : List α) := if reversed then as.reverse else as
  match sortedRun precedes (turned as) with
  | .ok as => (turned as, none)
  | .error stopped => (turned stopped.reached, some stopped.fault)

end

end Zpl.Sequence
