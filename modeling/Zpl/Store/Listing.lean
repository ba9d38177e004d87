import Zpl.Fault.Incident
import Zpl.Store.Layout

/-!
# Lists and rows

A list is an object of its own. Whoever holds it sees what anyone else does to it, so an operation
on a list puts the changed list in the place of the old one. A row stays as it is and can only be
searched.

A place in a list is counted from its end when it is negative. Where a new item goes is moved into
the list when it lies outside; an item that is taken out has to be there.

## Main definitions

* `Listing.append`, `extend`, `insert` — adding items.
* `Listing.take`, `remove`, `clear` — taking items out.
* `Listing.placeAmong?`, `countAmong` — looking for items.
-/

namespace Zpl.Listing

open Zpl.Action

/-- The items of a list. -/
def items (r : Ref) : Action (List Value) := do demand ((← get).items? r)

/-- Gives a list other items. -/
def replace (r : Ref) (vs : List Value) : Action Unit := put r (.content (.list vs))

/-- Changes the items of a list. -/
def modify (r : Ref) (f : List Value → List Value) : Action Unit := do
  let vs ← items r
  replace r (f vs)

/-- The whole number that tells a place. -/
def placeOf (v : Value) : Except Fault Int :=
  match Incident.placeObstacle? v, v.integer? with
  | some fault, _ => .error fault
  | none, some n => .ok n
  | none, none => .error .wrongType

/-- A place counted from the end if it is negative, and moved into a sequence of a given length. -/
def within (length : Nat) (n : Int) : Nat :=
  min (if n < 0 then n + length else n).toNat length

/-- A whole number of thirty-two bits. -/
def small (v : Value) : Except Fault Int :=
  match v.integer? with
  | some n =>
    if -0x80000000 ≤ n ∧ n < 0x80000000 then .ok n
    else .error (Incident.refusal "OverflowError" "Python int too large to convert to C int")
  | none => .error (.notCounting (v.kindName .empty))

/-- A number of thirty-two bits that says yes or no. -/
def flag (v : Value) : Except Fault Bool := do
  let n ← small v
  return n != 0

/-! ### Adding items -/

def append (r : Ref) (v : Value) : Action Unit := modify r (· ++ [v])

/-- Adds whatever a value hands out. -/
def extend (r : Ref) (v : Value) : Action Unit := do
  let ws ← elements v
  modify r (· ++ ws)

/-- Adds an item in front of the one at a place. -/
def insert (r : Ref) (place v : Value) : Action Unit := do
  let n ← placeOf place
  modify r fun vs => vs.insertIdx (within vs.length n) v

/-! ### Looking for items -/

/-- The place of the first item that equals a value. -/
def placeAmong? (s : Store) (v : Value) : List Value → Except Fault (Option Nat)
  | [] => .ok none
  | item :: rest => do
    if ← Store.partsAgree s.agree item v then return some 0
    else
      let place ← placeAmong? s v rest
      return place.map (· + 1)

/-- How many items equal a value. -/
def countAmong (s : Store) (v : Value) : List Value → Except Fault Nat
  | [] => .ok 0
  | item :: rest => do
    let one := if ← Store.partsAgree s.agree item v then 1 else 0
    let others ← countAmong s v rest
    return one + others

/-- The end of a stretch of a sequence. A number that is too large lies beyond every sequence. -/
def stretchEnd (length : Nat) (v : Value) : Except Fault Nat :=
  match v.integer? with
  | some n => .ok (within length n)
  | none => .error .wrongType

/-- The place of the first item that equals a value, between two places. -/
def place (vs : List Value) (v start stop : Value) (absent : Action Fault) : Action Value := do
  let start ← stretchEnd vs.length start
  let stop ← stretchEnd vs.length stop
  match ← placeAmong? (← get) v ((vs.take stop).drop start) with
  | some n => return .int (start + n : Nat)
  | none => throw (← absent)

/-- The fault that a value is no item of a list. -/
def absentFromList (v : Value) : Action Fault := return .notListed (some (← quoted v))

/-- The fault that a value is no item of a row. -/
def absentFromRow : Action Fault :=
  return Incident.refusal "ValueError" "tuple.index(x): x not in tuple"

/-! ### Taking items out -/

/-- Takes out the item at a place, and answers with it. -/
def take (r : Ref) (place : Value) : Action Value := do
  let n ← placeOf place
  let vs ← items r
  if vs.isEmpty then throw .emptyList
  let n := if n < 0 then n + vs.length else n
  if n < 0 then throw (.indexOutOfRange (some "pop"))
  match vs[n.toNat]? with
  | some v =>
    replace r (vs.eraseIdx n.toNat)
    return v
  | none => throw (.indexOutOfRange (some "pop"))

/-- Takes out the first item that equals a value. -/
def remove (r : Ref) (v : Value) : Action Unit := do
  let vs ← items r
  match ← placeAmong? (← get) v vs with
  | some place => replace r (vs.eraseIdx place)
  | none => throw (.notListed none)

def clear (r : Ref) : Action Unit := modify r fun _ => []

@[simp] theorem within_le (length : Nat) (n : Int) : within length n ≤ length :=
  Nat.min_le_right _ _

end Zpl.Listing
