import Zpl.Sequence.Gallop

/-!
# Merging sorted runs

Two sorted runs, one behind the other, are merged into one. Items of which neither precedes the
other keep their order. The items are taken one by one, until one of the runs has won several times
in a row; from then on the place of each next item is searched for in the other run, and everything
in front of it is taken at once. How many wins it takes is the merger's patience: it shrinks while
searching pays off, and grows when it does not.

The shorter run decides the direction: a shorter left run is merged from the front, and a shorter
right one from the back. When two items cannot be compared, merging ends there, and what is merged,
what is left of the left run and what is left of the right one stay behind each other.

## Main definitions

* `Sequence.Stopped` — why ordering ended, and the order reached until then.
* `Sequence.Front` — where a merge stands.
* `Sequence.merge` — merges two runs.

## Main statements

* `Front.perm_takeLeft`, `Front.perm_takeRight` — taking an item keeps all items.
-/

namespace Zpl.Sequence

variable {α ε : Type}

/-- Why ordering ended, and the order reached until then. -/
structure Stopped (α ε : Type) where
  fault : ε
  reached : List α

/-- A failure together with the order reached until then. -/
def stoppingAt {β : Type} (reached : List α) : Except ε β → Except (Stopped α ε) β
  | .ok b => .ok b
  | .error fault => .error ⟨fault, reached⟩

/-- Where a merge stands: what is merged, and what is left of the two runs. Each part has the item
first that is dealt with next, or was dealt with last. -/
structure Front (α : Type) where
  merged : List α := []
  left : List α
  right : List α

namespace Front

/-- All items, where a merge from the front stands. -/
def forward (f : Front α) : List α := f.merged.reverse ++ (f.left ++ f.right)

/-- All items, where a merge from the back stands. -/
def backward (f : Front α) : List α := f.left.reverse ++ (f.right.reverse ++ f.merged)

/-- Takes some items of the left run. -/
def takeLeft (f : Front α) (n : Nat) : Front α :=
  { f with merged := (f.left.take n).reverse ++ f.merged, left := f.left.drop n }

/-- Takes some items of the right run. -/
def takeRight (f : Front α) (n : Nat) : Front α :=
  { f with merged := (f.right.take n).reverse ++ f.merged, right := f.right.drop n }

/-- Taking items of the left run keeps all items. -/
theorem perm_takeLeft (f : Front α) (n : Nat) : (f.takeLeft n).forward.Perm f.forward := by
  rw [forward, forward, takeLeft]
  simp only [List.reverse_append, List.reverse_reverse, List.append_assoc]
  refine List.Perm.append_left f.merged.reverse ?_
  rw [← List.append_assoc, List.take_append_drop]

/-- Taking items of the right run keeps all items. -/
theorem perm_takeRight (f : Front α) (n : Nat) : (f.takeRight n).forward.Perm f.forward := by
  rw [forward, forward, takeRight]
  simp only [List.reverse_append, List.reverse_reverse, List.append_assoc]
  refine List.Perm.append_left f.merged.reverse ?_
  refine (List.perm_append_comm_assoc (f.right.take n) f.left (f.right.drop n)).trans ?_
  rw [List.take_append_drop]

end Front

/-- How a merge goes on: one by one, after each run has won so many times in a row, or by
searching. -/
inductive Pace where
  | stepping (left right : Nat)
  | searching

/-- The number of items that a search has to skip in order to pay off. -/
def leastSkip : Nat := 7

/-- The patience at the beginning of a round of searching. -/
def eased (patience : Nat) : Nat := if 1 < patience then patience - 1 else patience

variable (precedes : α → α → Except ε Bool)

/-- The merger's steps from the front. The last item of the left run goes behind whatever is left of
the right one. The result are all items, and the patience that is left. -/
def mergeForward : (fuel : Nat) → (patience : Nat) → Pace → Front α →
    Except (Stopped α ε) (List α × Nat)
  | 0, patience, _, f => .ok (f.forward, patience)
  | fuel + 1, patience, pace, f =>
    match f.left, f.right, pace with
    | [a], right, _ => .ok (f.merged.reverse ++ (right ++ [a]), patience)
    | a :: _, b :: _, .stepping m n =>
      if patience ≤ m ∨ patience ≤ n then mergeForward fuel (patience + 1) .searching f
      else do
        if ← stoppingAt f.forward (precedes b a) then
          mergeForward fuel patience (.stepping 0 (n + 1)) (f.takeRight 1)
        else mergeForward fuel patience (.stepping (m + 1) 0) (f.takeLeft 1)
    | _ :: _, b :: _, .searching => do
      let patience := eased patience
      let m ← stoppingAt f.forward (placeAfter precedes b f.left.toArray 0)
      let f := f.takeLeft m
      match f.left with
      | [a] => return (f.merged.reverse ++ (f.right ++ [a]), patience)
      | [] => return (f.forward, patience)
      | a :: _ =>
        let f := f.takeRight 1
        if f.right.isEmpty then return (f.forward, patience)
        else
          let n ← stoppingAt f.forward (placeBefore precedes a f.right.toArray 0)
          let f := f.takeRight n
          if f.right.isEmpty then return (f.forward, patience)
          else
            let pace := if leastSkip ≤ m ∨ leastSkip ≤ n then .searching else .stepping 0 0
            let later := match pace with
              | .searching => patience
              | .stepping .. => patience + 1
            match (f.takeLeft 1).left with
            | [last] =>
              return ((f.takeLeft 1).merged.reverse ++ (f.right ++ [last]), patience)
            | _ => mergeForward fuel later pace (f.takeLeft 1)
    | _, _, _ => .ok (f.forward, patience)

/-- The merger's steps from the back, where both runs have their last item first. The first item of
the right run goes in front of whatever is left of the left one. -/
def mergeBackward : (fuel : Nat) → (patience : Nat) → Pace → Front α →
    Except (Stopped α ε) (List α × Nat)
  | 0, patience, _, f => .ok (f.backward, patience)
  | fuel + 1, patience, pace, f =>
    match f.left, f.right, pace with
    | left, [b], _ => .ok (b :: (left.reverse ++ f.merged), patience)
    | a :: _, b :: _, .stepping m n =>
      if patience ≤ m ∨ patience ≤ n then mergeBackward fuel (patience + 1) .searching f
      else do
        if ← stoppingAt f.backward (precedes b a) then
          mergeBackward fuel patience (.stepping (m + 1) 0) (f.takeLeft 1)
        else mergeBackward fuel patience (.stepping 0 (n + 1)) (f.takeRight 1)
    | _ :: _, b :: _, .searching => do
      let patience := eased patience
      let place ← stoppingAt f.backward
        (placeAfter precedes b f.left.reverse.toArray (f.left.length - 1))
      let m := f.left.length - place
      let f := f.takeLeft m
      match f.left with
      | [] => return (f.backward, patience)
      | a :: _ =>
        let f := f.takeRight 1
        match f.right with
        | [b] => return (b :: (f.left.reverse ++ f.merged), patience)
        | _ =>
          let place ← stoppingAt f.backward
            (placeBefore precedes a f.right.reverse.toArray (f.right.length - 1))
          let n := f.right.length - place
          let f := f.takeRight n
          match f.right with
          | [b] => return (b :: (f.left.reverse ++ f.merged), patience)
          | [] => return (f.backward, patience)
          | _ =>
            let pace := if leastSkip ≤ m ∨ leastSkip ≤ n then .searching else .stepping 0 0
            let later := match pace with
              | .searching => patience
              | .stepping .. => patience + 1
            let f := f.takeLeft 1
            if f.left.isEmpty then return (f.backward, patience)
            else mergeBackward fuel later pace f
    | _, _, _ => .ok (f.backward, patience)

/-- Merges two runs of which neither is in place as it is: the first item of the right run precedes
that of the left one, and the last item of the left run follows that of the right one. -/
def mergeOverlap (patience : Nat) (left right : List α) : Except (Stopped α ε) (List α × Nat) :=
  let fuel := 2 * (left.length + right.length)
  if left.length ≤ right.length then
    mergeForward precedes fuel patience (.stepping 0 0)
      (Front.takeRight { left := left, right := right } 1)
  else
    mergeBackward precedes fuel patience (.stepping 0 0)
      (Front.takeLeft { left := left.reverse, right := right.reverse } 1)

/-- Merges two runs. What stands in front of the first item of the right run, or behind the last
item of the left one, stays in its place. -/
def merge (patience : Nat) (left right : List α) : Except (Stopped α ε) (List α × Nat) := do
  let all := left ++ right
  match right.head? with
  | none => return (all, patience)
  | some first =>
    let before ← stoppingAt all (placeAfter precedes first left.toArray 0)
    match left.getLast?, left.drop before with
    | none, _ | _, [] => return (all, patience)
    | some last, left' =>
      let after ← stoppingAt all (placeBefore precedes last right.toArray (right.length - 1))
      if after = 0 then return (all, patience)
      else
        match mergeOverlap precedes patience left' (right.take after) with
        | .ok (items, patience) =>
          return (left.take before ++ (items ++ right.drop after), patience)
        | .error stopped =>
          throw { stopped with
            reached := left.take before ++ (stopped.reached ++ right.drop after) }

end Zpl.Sequence
