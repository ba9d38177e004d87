/-!
# Searching sorted sequences

Two searches find the place of a key in a sorted sequence: in front of all items that the key does
not follow, or behind all items that it does not precede. Both start from a place where the key is
likely to be, step away from it at growing distance until the key is passed, and halve what lies
between the last two steps. What compares keys may fail, and the search fails with it.

## Main definitions

* `Sequence.halve` — the first place of a range at which something does not hold.
* `Sequence.placeBefore`, `placeAfter` — the place of a key, found from a likely one.
-/

namespace Zpl.Sequence

variable {α ε : Type}

/-- The first place from `low` on at which something does not hold, or else `high`, provided that it
holds at no place beyond one at which it does not. It is found by halving. -/
def halve (holds : Nat → Except ε Bool) (low high : Nat) : Except ε Nat :=
  if _ : low < high then
    let middle := low + (high - low) / 2
    do
      if ← holds middle then halve holds (middle + 1) high else halve holds low middle
  else .ok low
termination_by high - low

/-- Steps away at growing distance, below a bound, for as long as something holds. The result are
the last distance at which it did and the first at which it did not, which is at most the bound. -/
def stride (holds : Nat → Except ε Bool) (bound : Nat) :
    (fuel last distance : Nat) → Except ε (Nat × Nat)
  | 0, last, distance => .ok (last, min distance bound)
  | fuel + 1, last, distance =>
    if distance < bound then do
      if ← holds distance then stride holds bound fuel distance (2 * distance + 1)
      else return (last, distance)
    else .ok (last, bound)

/-- Whether something holds of the item at a place; of none it does not. -/
def holdsAt (holds : α → Except ε Bool) (as : Array α) (n : Nat) : Except ε Bool :=
  match as[n]? with
  | some a => holds a
  | none => .ok false

/-- The number of items of a sequence at the front of which something holds, found from a likely
place. -/
def frontLength (holds : α → Except ε Bool) (as : Array α) (likely : Nat) : Except ε Nat := do
  if ← holdsAt holds as likely then
    let bound := as.size - likely
    let (last, distance) ← stride (fun n => holdsAt holds as (likely + n)) bound bound 0 1
    halve (holdsAt holds as) (likely + last + 1) (likely + distance)
  else
    let bound := likely + 1
    let passes (n : Nat) : Except ε Bool := do return !(← holdsAt holds as (likely - n))
    let (last, distance) ← stride passes bound bound 0 1
    halve (holdsAt holds as) (likely + 1 - distance) (likely - last)

/-- The place of a key in front of all items that it does not follow. -/
def placeBefore (precedes : α → α → Except ε Bool) (key : α) (as : Array α) (likely : Nat) :
    Except ε Nat :=
  frontLength (fun a => precedes a key) as likely

/-- The place of a key behind all items that it does not precede. -/
def placeAfter (precedes : α → α → Except ε Bool) (key : α) (as : Array α) (likely : Nat) :
    Except ε Nat :=
  frontLength (fun a => do return !(← precedes key a)) as likely

end Zpl.Sequence
