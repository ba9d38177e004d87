/-!
# Seats

The members of a set sit in a row of places. Each member has an imprint, a number that equal members
share, and its place is the one that the remainder of the imprint tells, or a neighbour of that, or
else one that depends on what is left of the imprint. A member that leaves gives its place up. Who
comes by it on the way to a free place takes it instead. All are seated anew when the row gets full
or when many have left.

## Main definitions

* `Seats` — a row of places.
* `Seats.insert`, `Seats.remove`, `Seats.takeNext?` — a member comes or goes.
* `Seats.resized` — all members are seated anew.

## Main statements

* `Seats.size_settle` — who comes takes a place that is there.
* `Seats.count_remove_le` — who goes brings nobody.
-/

namespace Zpl

/-- A place for a member. -/
inductive Seat (α : Type) where
  | free
  /-- Somebody sat here. -/
  | givenUp
  | taken (imprint : Nat) (a : α)
  deriving Repr

namespace Seat

variable {α : Type}

def entry? : Seat α → Option (Nat × α)
  | .taken imprint a => some (imprint, a)
  | _ => none

def member? (s : Seat α) : Option α := s.entry?.map (·.2)

def isFree : Seat α → Bool
  | .free => true
  | _ => false

def isGivenUp : Seat α → Bool
  | .givenUp => true
  | _ => false

end Seat

/-- A row of places. -/
structure Seats (α : Type) where
  row : List (Seat α) := List.replicate 8 .free
  /-- Where the next member is looked for that is to leave. -/
  next : Nat := 0
  deriving Repr

namespace Seats

variable {α : Type} (s : Seats α)

/-- The members with their imprints, in the order of their places. -/
def entries : List (Nat × α) := s.row.filterMap Seat.entry?

/-- The members in the order of their places. -/
def members : List α := s.row.filterMap Seat.member?

/-- How many members there are. -/
def count : Nat := s.members.length

/-- How many places are not free. -/
def filled : Nat := (s.row.filter fun seat => !seat.isFree).length

def size : Nat := s.row.length

/-! ### Finding a place -/

/-- The places that are tried after one, if there are so many. -/
def neighbours : Nat := 9

/-- A free place: a given one or one of its neighbours, or else one that depends on what is left of
a number. With it comes the last of the places on the way to it that were given up. `fuel` bounds
how often neighbours are tried. -/
def placeFrom (row : Array (Seat α)) :
    (fuel : Nat) → (place left : Nat) → (givenUp : Option Nat) → Nat × Option Nat
  | 0, place, _, givenUp => (place, givenUp)
  | fuel + 1, place, left, givenUp =>
    let tried := List.range' place (if place + neighbours < row.size then neighbours + 1 else 1)
    let passed := tried.takeWhile fun n => !row[n]?.any Seat.isFree
    let givenUp := (passed.findRev? fun n => row[n]?.any Seat.isGivenUp).or givenUp
    match tried.find? fun n => row[n]?.any Seat.isFree with
    | some free => (free, givenUp)
    | none =>
      let left := left / 32
      placeFrom row fuel ((5 * place + 1 + left) % row.size) left givenUp

/-- The free place for a member with an imprint, and one that was given up. -/
def placeFor (imprint : Nat) : Nat × Option Nat :=
  placeFrom s.row.toArray (s.size + 16) (imprint % s.size) imprint none

/-- Gives a place to somebody. -/
def settle (place imprint : Nat) (a : α) : Seats α :=
  { s with row := s.row.set place (.taken imprint a) }

/-- Who comes takes a place that is there. -/
@[simp] theorem size_settle (place imprint : Nat) (a : α) :
    (s.settle place imprint a).size = s.size := by
  simp [settle, size]

/-! ### Seating anew -/

/-- How many places there are, if there have to be more than some. -/
def sizeBeyond (least : Nat) : Nat := max 8 (Nat.pow 2 (Nat.log2 least + 1))

/-- There are places for nobody, and for more than some. -/
theorem eight_le_sizeBeyond (least : Nat) : 8 ≤ sizeBeyond least := Nat.le_max_left _ _

/-- Gives places to some members in an empty row. -/
def seatAll (row : Seats α) (entries : List (Nat × α)) : Seats α :=
  entries.foldl (fun row (imprint, a) => row.settle (row.placeFor imprint).1 imprint a) row

/-- The members in a row of more places than some. -/
def resized (least : Nat) : Seats α :=
  seatAll { row := List.replicate (sizeBeyond least) .free, next := s.next } s.entries

/-- How many places there have to be when all are seated anew: the more, the fewer members there
are. -/
def ample : Nat := if 50000 < s.count then 2 * s.count else 4 * s.count

/-- Whether some further members would leave too few places free. -/
def isTight (more : Nat) : Bool := 3 * (s.size - 1) ≤ 5 * (s.filled + more)

/-- Takes somebody in who is no member yet. -/
def insert (imprint : Nat) (a : α) : Seats α :=
  match s.placeFor imprint with
  | (_, some givenUp) => s.settle givenUp imprint a
  | (free, none) =>
    let s := s.settle free imprint a
    if s.isTight 0 then s.resized s.ample else s

/-- Makes room for some further members. -/
def withRoom (more : Nat) : Seats α :=
  if s.isTight more then s.resized (2 * (s.count + more)) else s

/-- The members of another row in this one, in which nobody ever sat. -/
def filledFrom (other : Seats α) : Seats α :=
  if s.size = other.size ∧ other.filled = other.count then { s with row := other.row }
  else s.seatAll other.entries

/-! ### Leaving -/

/-- Nobody stays. Where the next member is looked for is kept. -/
def emptied : Seats α := { next := s.next }

@[simp] theorem members_emptied : s.emptied.members = [] := rfl

/-- The row of another one, with the next member looked for where it was. -/
def replacedBy (other : Seats α) : Seats α := { other with next := s.next }

/-- Lets the member at a place go. -/
def remove (place : Nat) : Seats α := { s with row := s.row.set place .givenUp }

/-- Seats all anew if more than a quarter of the places was given up. -/
def tidied : Seats α :=
  if s.filled - s.count ≤ (s.size - 1) / 4 then s else s.resized s.ample

/-- Lets the next member go. -/
def takeNext? : Option (α × Seats α) :=
  let from_ := s.next % s.size
  let places := List.range' from_ (s.size - from_) ++ List.range from_
  places.findSome? fun place =>
    (s.row[place]?.bind Seat.member?).map fun a => (a, { s.remove place with next := place + 1 })

/-- Who goes brings nobody. -/
theorem count_remove_le (place : Nat) : (s.remove place).count ≤ s.count := by
  unfold remove count members
  generalize s.row = row
  induction row generalizing place with
  | nil => simp
  | cons seat rest ih =>
    cases place with
    | zero =>
      cases seat <;> simp [List.filterMap_cons, Seat.member?, Seat.entry?]
    | succ place =>
      have h := ih place
      simp only [List.set_cons_succ, List.filterMap_cons]
      cases seat.member? <;> simp [h]

end Seats

end Zpl
