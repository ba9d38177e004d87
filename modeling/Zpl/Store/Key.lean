import Zpl.Store.Basic

/-!
# Keys

Entries of records are told apart by their keys, and sets hold values that could be keys. A key is
anything that cannot change: no list, no record and no set is one, nor a row with one of them in it.

## Main definitions

* `Store.obstacle?` — what keeps a value from being a key.
* `Store.demandKey` — fails for what cannot be a key.
-/

namespace Zpl.Store

/-- The first of some parts that cannot be a key, by its kind. -/
def firstObstacle? (obstacle? : Value → Except Fault (Option String)) :
    List Value → Except Fault (Option String)
  | [] => .ok none
  | v :: vs => do
    match ← obstacle? v with
    | some kind => return some kind
    | none => firstObstacle? obstacle? vs

/-- What keeps a value from being a key, by its kind: itself or a part of it that may change. `fuel`
bounds rows within rows. -/
def obstacleWithin? (s : Store) : (fuel : Nat) → Value → Except Fault (Option String)
  | 0, _ => .error .tooDeep
  | fuel + 1, v =>
    match v.opened s.directory with
    | .list _ => .ok (some "list")
    | .record .. => .ok (some (v.kindName s.directory))
    | .tuple vs => firstObstacle? (s.obstacleWithin? fuel) vs
    | .object r =>
      match s.thing? r with
      | some (.view _ side) => .ok (if side = .values then none else some side.kindName)
      | some (.set _) => .ok (some "set")
      | _ => .ok none
    | _ => .ok none

/-- What keeps a value from being a key, by its kind. -/
def obstacle? (s : Store) (v : Value) : Except Fault (Option String) :=
  s.obstacleWithin? s.depth v

/-- Whether a value can be a key. -/
def canName (s : Store) (v : Value) : Except Fault Bool := do
  let obstacle ← s.obstacle? v
  return obstacle.isNone

/-- Fails for what cannot be a key. -/
def demandKey (s : Store) (v : Value) : Except Fault Unit := do
  match ← s.obstacle? v with
  | some kind => throw (.unsuited (Text.ofString ("unhashable type: '" ++ kind ++ "'")))
  | none => return ()

end Zpl.Store
