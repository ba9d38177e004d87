import Zpl.Store.Method.Basic
import Zpl.Store.Record
import Zpl.Store.Sorting

/-!
# Methods of lists, rows and records

These methods take their values in a row, as their parameters have no names. Only sorting is told by
name what to sort by; what that is may be a method, which is then called for each item.

## Main definitions

* `Listing.methods`, `Row.methods`, `Record.methods`.
-/

namespace Zpl

/-! ### Lists -/

namespace Listing

/-- A method that takes one value in a row and answers with nothing. -/
def adding (name : String) (f : Ref → Value → Action Unit) : Method Ref :=
  .procedure name (.row 1) fun r vs =>
    match vs with
    | [v] => f r v
    | _ => throw .wrongType

/-- The greatest place. -/
def lastPlace : Value := .int (Value.countBound - 1)

def sortSignature : Signature :=
  { parameters := [{ name := "key", default? := some .none, giving := .byName },
      { name := "reverse", default? := some (.bool false), giving := .byName }] }

/-- Sorts a list, by what a method answers about its items if one is given. -/
def sort (r : Ref) (key reversed : Value) : Action Unit := do
  let reversed ← flag reversed
  match key with
  | .none => sortBy pure r reversed
  | key => sortBy (fun v => Action.invoke key { inRow := [v] }) r reversed

def methods : List (Method Ref) :=
  [adding "append" append, adding "extend" extend,
    .procedure "insert" (.row 2) fun r vs =>
      match vs with
      | [place, v] => insert r place v
      | _ => throw .wrongType,
    .asking "pop" (.row 0 [.int (-1)]) take,
    adding "remove" remove,
    .procedure "clear" {} fun r _ => clear r,
    .procedure "reverse" {} fun r _ => modify r List.reverse,
    .procedure "sort" sortSignature fun r vs =>
      match vs with
      | [key, reversed] => sort r key reversed
      | _ => throw .wrongType,
    .query "copy" fun r => return .list (← items r),
    { name := "index"
      signature := .row 1 [.int 0, lastPlace]
      run := fun r vs => do
        match vs with
        | [v, start, stop] => place (← items r) v start stop (absentFromList v)
        | _ => throw .wrongType },
    .asking "count" (.row 1) fun r v => do
      let n ← countAmong (← get) v (← items r)
      return .int n]

end Listing

/-! ### Rows -/

namespace Row

def methods : List (Method (List Value)) :=
  [{ name := "index"
     signature := .row 1 [.int 0, Listing.lastPlace]
     run := fun vs given =>
      match given with
      | [v, start, stop] => Listing.place vs v start stop Listing.absentFromRow
      | _ => throw .wrongType },
    .asking "count" (.row 1) fun vs v => do
      let n ← Listing.countAmong (← get) v vs
      return .int n]

end Row

/-! ### Records -/

namespace Record

/-- A method that takes a key, and another value that is nothing if it is left out. -/
def keyed (name : String) (f : Ref → Value → Value → Action Value) : Method Ref where
  name := name
  signature := .row 1 [.none]
  run r vs :=
    match vs with
    | [key, v] => f r key v
    | _ => throw .wrongType

/-- A method that answers with a view. -/
def viewing (name : String) (side : RecordSide) : Method Ref :=
  .query name fun r => return .object (← Action.add (.view r side))

/-- The methods that look at a record and leave it as it is. -/
def readers : List (Method Ref) :=
  [keyed "get" getD, .query "copy" copy,
    viewing "keys" .keys, viewing "values" .values, viewing "items" .entries]

def methods : List (Method Ref) :=
  [keyed "setdefault" getOrPut,
    { keyed "fromkeys" fun _ keys v => ofKeys keys v with isShared := true },
    { name := "pop"
      signature := { Signature.row 1 with gathers := true }
      run := fun r vs =>
        match vs with
        | [key, .list []] => take r key none
        | [key, .list [v]] => take r key (some v)
        | _ => throw .wrongType },
    .query "popitem" takeLast,
    .procedure "update" { gathers := true, gathersNamed := true } fun r vs =>
      match vs with
      | [.list [], named] => update r named
      | [.list [other], named] => do
        update r other
        update r named
      | _ => throw .wrongType,
    .procedure "clear" {} fun r _ => clear r] ++ readers

end Record

end Zpl
