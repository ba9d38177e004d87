import Zpl.Store.Key

/-!
# Equality

Values are equal by what they hold: rows and lists by their parts, records by their entries in any
order, and sets by their members. Entries of records are found by keys that are equal.

## Main definitions

* `Store.agree` — whether two values are equal as they stand.
* `Store.entryUnder?` — what stands under a key.
* `Store.among`, `Store.has` — whether a value is a key or a member.
-/

namespace Zpl.Store

/-- Whether two parts of values are one and the same, or agree otherwise. A not-a-number is the same
as itself and equal to nothing. -/
def partsAgree (agree : Value → Value → Except Fault Bool) (v w : Value) : Except Fault Bool :=
  if v.sharesNan w then .ok true else agree v w

/-- Whether two rows of parts agree, up to the first two that do not. -/
def rowsAgree (agree : Value → Value → Except Fault Bool) :
    List Value → List Value → Except Fault Bool
  | [], [] => .ok true
  | v :: vs, w :: ws => do
    if ← partsAgree agree v w then rowsAgree agree vs ws else return false
  | _, _ => .ok false

/-- What stands under a key among some entries. -/
def lookUp {α : Type} (agree : Value → Value → Except Fault Bool) (key : Value) :
    List (Value × α) → Except Fault (Option α)
  | [] => .ok none
  | (other, a) :: rest => do
    if ← partsAgree agree other key then return some a else lookUp agree key rest

/-- Whether each of some entries agrees with the one of the same key among others. -/
def entriesAgree (agree : Value → Value → Except Fault Bool) (others : List (Value × Value)) :
    List (Value × Value) → Except Fault Bool
  | [] => .ok true
  | (key, v) :: rest => do
    match ← lookUp agree key others with
    | none => return false
    | some w => if ← partsAgree agree v w then entriesAgree agree others rest else return false

/-- Whether two objects that are not the same stand for one method of one owner, or of one kind as
a whole. All handlers tell of warnings in the same way. -/
def sameMethod (s : Store) (r q : Ref) : Bool :=
  match s.thing? r, s.thing? q with
  | some (.method m), some (.method n) =>
    m.name == n.name && m.shared == n.shared && (m.shared.isSome || m.owner.same n.owner)
  | some .handler, some .handler => true
  | _, _ => false

/-- What stands under a key among some entries; only what can be a key is looked for. -/
def findUnder? {α : Type} (s : Store) (agree : Value → Value → Except Fault Bool) (key : Value)
    (entries : List (Value × α)) : Except Fault (Option α) := do
  s.demandKey key
  lookUp agree key entries

/-- Whether a value is a member of what is compared as a set. A member of a view of entries is a key
with what stands under it. -/
def hasMember (s : Store) (agree : Value → Value → Except Fault Bool) (r : Ref) (v : Value) :
    Except Fault Bool :=
  match s.thing? r with
  | some (.view record .entries) =>
    match s.content? record, v.opened s.directory with
    | some (.record keys values), .tuple [key, value] => do
      match ← s.findUnder? agree key (keys.zip values) with
      | some found => partsAgree agree found value
      | none => return false
    | _, _ => .ok false
  | _ => do
    let place ← s.findUnder? agree v ((s.members? r).getD []).zipIdx
    return place.isSome

/-- Whether an object is a set. -/
def isSetAt (s : Store) (r : Ref) : Bool :=
  match s.thing? r with
  | some (.set _) => true
  | _ => false

/-- Whether two objects that are not the same are equal: sets by their members. Of a set and a view
it is the view whose members are looked for. -/
def objectsAgree (s : Store) (agree : Value → Value → Except Fault Bool) (r q : Ref) :
    Except Fault Bool :=
  match s.members? r, s.members? q with
  | some vs, some ws =>
    if vs.length ≠ ws.length then .ok false
    else if s.isSetAt r then ws.allM (s.hasMember agree r)
    else vs.allM (s.hasMember agree q)
  | _, _ => .ok (s.sameMethod r q)

/-- Whether two values are equal as they stand: rows and lists by their parts, sets by their
members, and records by their entries in any order. `fuel` bounds values within values. -/
def agreeWithin (s : Store) : (fuel : Nat) → Value → Value → Except Fault Bool
  | 0, _, _ => .error .endlessComparison
  | fuel + 1, v, w =>
    if v.same w then .ok true
    else
      match v.opened s.directory, w.opened s.directory with
      | .tuple vs, .tuple ws => rowsAgree (s.agreeWithin fuel) vs ws
      | .list vs, .list ws =>
        if vs.length = ws.length then rowsAgree (s.agreeWithin fuel) vs ws else .ok false
      | .record keys vs, .record others ws =>
        if keys.length = others.length then
          entriesAgree (s.agreeWithin fuel) (others.zip ws) (keys.zip vs)
        else .ok false
      | .object r, .object q => s.objectsAgree (s.agreeWithin fuel) r q
      | _, _ => .ok false

/-- Whether two values are equal as they stand. -/
def agree (s : Store) (v w : Value) : Except Fault Bool := s.agreeWithin s.depth v w

/-! ### Keys and members -/

/-- What stands under a key among some entries. -/
def entryUnder? {α : Type} (s : Store) (key : Value) (entries : List (Value × α)) :
    Except Fault (Option α) := s.findUnder? s.agree key entries

/-- Whether a value is among some keys. -/
def among (s : Store) (v : Value) (keys : List Value) : Except Fault Bool := do
  let place ← s.entryUnder? v keys.zipIdx
  return place.isSome

/-- Whether a value is a member of what is compared as a set. -/
def has (s : Store) (r : Ref) (v : Value) : Except Fault Bool := s.hasMember s.agree r v

end Zpl.Store
