import Zpl.Fault.Incident
import Zpl.Store.Collection
import Zpl.Store.Method.Basic
import Zpl.Store.Spelling

/-!
# Methods of sets

Methods of sets take whatever hands out its parts for a set. Some of them make a new set, and others
change the set itself.

## Main definitions

* `Collection.methods` — the methods of sets.
* `Collection.viewMethods` — the methods of what is compared as a set.
-/

namespace Zpl.Collection

open Zpl.Action

/-- The members of what is compared as a set. -/
def members (r : Ref) : Action (List Value) := do demand ((← get).members? r)

/-- The places of a set. -/
def seats (r : Ref) : Action (Seats Value) := do demand (seats? (← get) (.object r))

/-- Gives a set other places. -/
def replace (r : Ref) (seats : Seats Value) : Action Unit := put r (.set seats)

/-- Another set with the members of a set. -/
def copied (r : Ref) : Action (Seats Value) := collect (.object r)

/-! ### What methods do with another value -/

/-- The members that a set shares with what a value hands out. The larger of two sets is asked. -/
def common (seats : Seats Value) (v : Value) : Action (Seats Value) := do
  match seats? (← get) v with
  | some others =>
    if seats.count < others.count then select true seats.members (holds others)
    else select true others.members (holds seats)
  | none => select true (← parts v) (holds seats)

/-- Takes some values out of a set if they are members, and puts them in if they are not. -/
def toggle (keep : Seats Value → Action Unit) (seats : Seats Value) (vs : List Value) :
    Action (Seats Value) :=
  changeBy keep
    (fun s v seats => do
      match ← s.placeOf? v seats with
      | some place => return seats.remove place
      | none => s.seat v seats)
    seats vs

/-- Takes from a set what a value hands out. From itself nothing is left. -/
def partFrom (keep : Seats Value → Action Unit) (r : Ref) (seats : Seats Value) (v : Value) :
    Action (Seats Value) :=
  if v.same (.object r) then return seats.emptied else part keep seats v

/-! ### Kinds of methods -/

/-- A method that is asked about a set and several values. -/
def manifold (name : String) (f : Ref → List Value → Action Value) : Method Ref where
  name := name
  signature := { gathers := true }
  run r given :=
    match given with
    | [.list others] => f r others
    | _ => throw .wrongType

/-- A method that changes a set by several values one after the other. -/
def absorbing (name : String)
    (f : (Seats Value → Action Unit) → Ref → Seats Value → Value → Action (Seats Value)) :
    Method Ref :=
  manifold name fun r others => do
    others.forM fun other => do replace r (← f (replace r) r (← seats r) other)
    return .none

/-- The members that a set shares with several values. -/
def commonTo (r : Ref) : List Value → Action (Seats Value)
  | [] => copied r
  | first :: others => do
    let shared ← if first.same (.object r) then copied r else common (← seats r) first
    others.foldlM common shared

/-- The members of a set that several values do not hand out. -/
def remainingOf (r : Ref) : List Value → Action (Seats Value)
  | [] => copied r
  | first :: others => do
    let rest ← remaining (← seats r) first
    others.foldlM (part forget) rest

/-- A method that compares a set with another value. -/
def comparing (name : String) (f : Ref → Value → Action Bool) : Method Ref :=
  .asking name (.row 1) fun r other => return .bool (← f r other)

/-- A method that changes a set by one value. -/
def changing (name : String) (f : Ref → Value → Action Unit) : Method Ref :=
  .procedure name (.row 1) fun r vs =>
    match vs with
    | [v] => f r v
    | _ => throw .wrongType

/-! ### The methods -/

/-- Whether a set has no member in common with what a value hands out. A view that is compared with
a larger set is looked for in that. -/
def isDisjoint (r : Ref) (other : Value) : Action Bool := do
  let s ← get
  let own ← members r
  if other.same (.object r) then return own.isEmpty
  else
    let lacks (q : Ref) (vs : List Value) : Except Fault Bool := do
      let shared ← vs.anyM (s.has q)
      return !shared
    match other with
    | .object q =>
      match s.members? q with
      | some others =>
        if !s.isSetAt r && own.length < others.length then lacks q own else lacks r others
      | none => lacks r (← parts other)
    | _ => lacks r (← parts other)

/-- Whether all members of a set are among what a value hands out. -/
def isWithin (r : Ref) (other : Value) : Action Bool := do
  let others ← collect other
  (← members r).allM (holds others)

/-- Whether all that a value hands out is in a set. -/
def embraces (r : Ref) (other : Value) : Action Bool := do
  let s ← get
  let own ← members r
  (← parts other).allM fun v => s.among v own

def addTo (r : Ref) (v : Value) : Action Unit := do
  replace r (← (← get).seat v (← seats r))

/-- Takes a value out of a set, if it is there. No set is a member of a set. -/
def drop (r : Ref) (v : Value) : Action Unit := do
  let s ← get
  if s.isSet v then return () else replace r (← s.unseat v (← seats r))

/-- Takes a value out of a set; it has to be there. -/
def remove (r : Ref) (v : Value) : Action Unit := do
  let s ← get
  let found ← if s.isSet v then pure false else holds (← seats r) v
  if found then drop r v else throw (.missingKey (← quoted v))

/-- Takes a member out of a set, and answers with it. -/
def take (r : Ref) : Action Value := do
  match (← seats r).takeNext? with
  | none => throw (.missingKey (Text.quoted "pop from an empty set"))
  | some (v, rest) =>
    replace r rest
    return v

/-- What is in one of two sets only: a value's own set changes by the members of the other one. -/
def exclusive (r : Ref) (v : Value) : Action (Seats Value) := do
  toggle forget (← collect v) (← seats r).members

/-- Keeps of a set and another one what is in one of them only. -/
def excludeFrom (r : Ref) (v : Value) : Action Unit := do
  let s ← get
  if v.same (.object r) then replace r (← seats r).emptied
  else
    let others ←
      match seats? s v, keysOf? s v with
      | some others, _ => pure others.members
      | none, some keys => pure keys
      | none, none => do pure (← collect v).members
    replace r (← toggle (replace r) (← seats r) others)

/-- The methods of what is compared as a set. -/
def viewMethods : List (Method Ref) := [comparing "isdisjoint" isDisjoint]

/-- The methods of sets. -/
def methods : List (Method Ref) :=
  [changing "add" addTo, changing "discard" drop, changing "remove" remove, .query "pop" take,
    .procedure "clear" {} fun r _ => do replace r (← seats r).emptied,
    .query "copy" fun r => do make (← copied r),
    manifold "union" fun r others => do
      let others := others.filter fun other => !other.same (.object r)
      make (← others.foldlM (join forget) (← copied r)),
    manifold "intersection" fun r others => do make (← commonTo r others),
    manifold "difference" fun r others => do make (← remainingOf r others),
    .asking "symmetric_difference" (.row 1) fun r other => do make (← exclusive r other),
    absorbing "update" fun keep r seats other =>
      if other.same (.object r) then return seats else join keep seats other,
    manifold "intersection_update" fun r others => do
      replace r ((← seats r).replacedBy (← commonTo r others))
      return .none,
    absorbing "difference_update" partFrom,
    changing "symmetric_difference_update" excludeFrom,
    comparing "issubset" isWithin, comparing "issuperset" embraces]
    ++ viewMethods

end Zpl.Collection
