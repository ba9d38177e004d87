import Zpl.Sequence.Digest
import Zpl.Store.Equality
import Zpl.Store.Field

/-!
# Sets

A set holds values that can be keys, no two of which are equal. It is an object of its own, and
whoever holds it sees its members change. Views of the keys and of the entries of a record are
compared with sets and can be taken from each other like sets, which makes a new set.

Members are handed out in the order of the places that their imprints give them. Numbers of one size
have one imprint, that of a text or of bytes is a digest, and that of a row follows from those of
its parts; other values have none, and take the next place.

## Main definitions

* `Store.imprint?` — the imprint of a value.
* `Collection.join`, `Collection.part` — a set with what a value hands out, and without it.
* `Collection.difference?` — what is left of a value when another one is taken from it.
-/

namespace Zpl

namespace Store

/-- Whether a value is a set. -/
def isSet (s : Store) : Value → Bool
  | .object r => s.isSetAt r
  | _ => false

/-- Whether a value is a view that is compared as a set. -/
def isSetView (s : Store) (v : Value) : Bool :=
  match v with
  | .object r => (s.members? r).isSome && !s.isSet v
  | _ => false

/-! ### Imprints -/

/-- The number that the imprints of numbers are remainders by. -/
def imprintBound : Nat := Nat.pow 2 61 - 1

/-- The imprint of a number of a size and a sign. No imprint is that of minus one. -/
def signedImprint (negative : Bool) (size : Nat) : UInt64 :=
  if !negative then UInt64.ofNat size
  else if size = 1 then 0 - 2
  else 0 - UInt64.ofNat size

/-- The imprint of a number. Halving goes on around the circle of remainders. -/
def numberImprint? : Number → Option UInt64
  | .int n => some (signedImprint (n < 0) (n.natAbs % imprintBound))
  | .float (.finite negative mantissa exponent) =>
    let turns := (Int.emod exponent 61).toNat
    some (signedImprint negative (mantissa * Nat.pow 2 turns % imprintBound))
  | .float (.infinity negative) => some (signedImprint negative 314159)
  | .float (.nan _) => none

/-- The imprint that a word stands for. None is that of minus one. -/
def imprintOf (w : UInt64) : UInt64 := if w = 0 - 1 then 0 - 2 else w

/-- The bytes of a text for its digest: as many for each code point as the largest one takes, the
lowest first. -/
def bytesOf (t : Text) : List UInt8 :=
  let codes := t.map CodePoint.code
  let width := if codes.all (· < 256) then 1 else if codes.all (· < 65536) then 2 else 4
  codes.flatMap fun code => (List.range width).map fun n => UInt8.ofNat (code >>> (8 * n))

/-- The imprint of a row of parts with imprints. -/
def rowImprint (parts : List UInt64) : UInt64 :=
  let mixed : UInt64 := parts.foldl
    (fun mixed part =>
      let sum := mixed + part * 14029467366897019727
      (sum <<< 31 ||| sum >>> 33) * 11400714785074694791)
    (2870177450012600261 : UInt64)
  let sum := mixed + (UInt64.ofNat parts.length ^^^ (2870177450012600261 ^^^ 3527539))
  if sum = 0 - 1 then 1546275796 else sum

/-- The imprint of a value; `fuel` bounds rows within rows. -/
def imprintWithin? (s : Store) : (fuel : Nat) → Value → Option UInt64
  | 0, _ => none
  | fuel + 1, v =>
    match v.opened s.directory with
    | .tuple vs => (vs.mapM (s.imprintWithin? fuel)).map rowImprint
    | .text t => some (imprintOf (Digest.ofBytes (bytesOf t)))
    | .bytes bs => some (imprintOf (Digest.ofBytes bs))
    | v => v.number?.bind numberImprint?

/-- The imprint of a value, if it has one. -/
def imprint? (s : Store) (v : Value) : Option UInt64 := s.imprintWithin? s.depth v

/-! ### Members -/

/-- The place of a member that a value equals. -/
def placeOf? (s : Store) (v : Value) (seats : Seats Value) : Except Fault (Option Nat) :=
  s.entryUnder? v
    (seats.row.zipIdx.filterMap fun (seat, n) => seat.member?.map fun member => (member, n))

/-- A set with a value as a member. -/
def seat (s : Store) (v : Value) (seats : Seats Value) : Except Fault (Seats Value) := do
  match ← s.placeOf? v seats with
  | some _ => return seats
  | none =>
    let imprint := ((s.imprint? v).map UInt64.toNat).getD seats.filled
    return seats.insert imprint v

/-- A set without a value as a member. -/
def unseat (s : Store) (v : Value) (seats : Seats Value) : Except Fault (Seats Value) := do
  match ← s.placeOf? v seats with
  | some place => return seats.remove place
  | none => return seats

end Store

namespace Collection

open Zpl.Action

/-- What a value hands out one by one. -/
def parts (v : Value) : Action (List Value) := do v.elements (← directory)

/-- A new set. -/
def make (seats : Seats Value) : Action Value := return .object (← add (.set seats))

/-- The places of a value that is a set. -/
def seats? (s : Store) : Value → Option (Seats Value)
  | .object r =>
    match s.thing? r with
    | some (.set seats) => some seats
    | _ => none
  | _ => none

/-- How a set changes by one value. -/
abbrev Change := Store → Value → Seats Value → Except Fault (Seats Value)

/-- Changes a set by some values one after the other. What was done before a failure is kept, as
`keep` does. -/
def changeBy (keep : Seats Value → Action Unit) (change : Change) (seats : Seats Value)
    (vs : List Value) : Action (Seats Value) :=
  vs.foldlM
    (fun seats v => do
      let seats ← change (← get) v seats
      keep seats
      return seats)
    seats

/-! ### Putting in and taking out -/

/-- The keys of a value that is a record. -/
def keysOf? (s : Store) : Value → Option (List Value)
  | .object r =>
    match s.content? r with
    | some (.record keys _) => some keys
    | _ => none
  | .record keys _ => some keys
  | _ => none

/-- A set with what a value hands out. For a set or a record room is made at once. -/
def join (keep : Seats Value → Action Unit) (seats : Seats Value) (v : Value) :
    Action (Seats Value) := do
  let s ← get
  match seats? s v, keysOf? s v with
  | some others, _ =>
    if others.count = 0 then return seats
    else
      let seats := seats.withRoom others.count
      if seats.filled = 0 then return seats.filledFrom others
      else changeBy keep Store.seat seats others.members
  | none, some keys => changeBy keep Store.seat (seats.withRoom keys.length) keys
  | none, none => changeBy keep Store.seat seats (← parts v)

/-- Nothing is kept of a set that is not there yet. -/
def forget (_ : Seats Value) : Action Unit := return ()

/-- A set of what a value hands out. -/
def collect (v : Value) : Action (Seats Value) := join forget {} v

/-- A set without what a value hands out. -/
def part (keep : Seats Value → Action Unit) (seats : Seats Value) (v : Value) :
    Action (Seats Value) := do
  let seats ← changeBy keep Store.unseat seats (← parts v)
  return seats.tidied

/-- The members of a set that are among others, or those that are not. -/
def select (wanted : Bool) (members : List Value) (among : Value → Action Bool) :
    Action (Seats Value) :=
  members.foldlM
    (fun seats v => do
      if (← among v) == wanted then (← get).seat v seats else return seats)
    {}

/-- Whether a value is a member of a set. -/
def holds (seats : Seats Value) (v : Value) : Action Bool := do
  let place ← (← get).placeOf? v seats
  return place.isSome

/-- A new set without what another one holds, or a record. Where there is much less of that, it is
taken out of a copy. -/
def remaining (seats : Seats Value) (v : Value) : Action (Seats Value) := do
  let s ← get
  let copied : Action (Seats Value) := do
    let copy := if seats.count = 0 then {} else (({} : Seats Value).withRoom seats.count).filledFrom
      seats
    part forget copy v
  match seats? s v, keysOf? s v with
  | some others, _ =>
    if others.count < seats.count / 4 then copied
    else select false seats.members (holds others)
  | none, some keys =>
    if keys.length < seats.count / 4 then copied
    else select false seats.members fun v => do (← get).among v keys
  | none, none => copied

/-! ### Subtraction -/

/-- A set of what a value hands out. A view of keys stands for its record. -/
def collectView (v : Value) : Action (Seats Value) := do
  match v with
  | .object r =>
    match (← get).thing? r with
    | some (.view record .keys) => collect (.object record)
    | _ => collect v
  | _ => collect v

/-- What is left of what a value hands out when all that another one hands out is taken from it, as
a new set. There is such a set if one of the two is a view, or both are sets. -/
def difference? (v w : Value) : Action (Option Value) := do
  let s ← get
  match seats? s v, seats? s w with
  | some seats, some _ => return some (← make (← remaining seats w))
  | _, _ =>
    if s.isSetView v || s.isSetView w then
      return some (← make (← part forget (← collectView v) w))
    else return none

/-- As `difference?`, except that a set from which another one is taken stays the set that it
is. -/
def subtractFrom? (v w : Value) : Action (Option Value) := do
  let s ← get
  match v, seats? s v, seats? s w with
  | .object r, some seats, some _ =>
    if v.same w then put r (.set seats.emptied)
    else put r (.set (← part (fun seats => put r (.set seats)) seats w))
    return some v
  | _, _, _ => difference? v w

end Collection

end Zpl
