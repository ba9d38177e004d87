import Zpl.Store.Record

/-!
# Elements

What stands at a place of a sequence, or under a key of a record, is an element of it. Nothing else
has elements.

## Main definitions

* `Action.element` — an element of a value.
-/

namespace Zpl.Action

/-- What is said of a place in a sequence that is told by a value of another kind. -/
def unfitPlace (sequence : String) (quotes : Bool) (kind : String) : Fault :=
  let shown := if quotes then "'" ++ kind ++ "'" else kind
  let expected := if quotes then " indices must be integers, not "
    else " indices must be integers or slices, not "
  .unsuited (Text.ofString (sequence ++ expected ++ shown))

/-- An element of a sequence, counted from the end if the index is negative. `sequence` is what
messages call it if they name it, and `unfit` the fault of an index that is no whole number. -/
def pickFrom {α : Type} (sequence : Option String) (unfit : Fault) (items : List α)
    (index : Value) : Except Fault α :=
  match index.integer? with
  | none => .error unfit
  | some i =>
    let place := if i < 0 then i + items.length else i
    if !Value.isCount i then .error .indexTooLarge
    else if place < 0 then .error (.indexOutOfRange sequence)
    else
      match items[place.toNat]? with
      | some a => .ok a
      | none => .error (.indexOutOfRange sequence)

/-- What stands at a place of a sequence, or under a key of a record. -/
def element (v index : Value) : Action Value := do
  let d ← directory
  let kind := index.kindName d
  match v.opened d with
  | .text t =>
    let c ← (pickFrom (some "string") (unfitPlace "string" true kind) t index : Except Fault _)
    return .text [c]
  | .bytes bs =>
    let b ← (pickFrom none (unfitPlace "byte" false kind) bs index : Except Fault _)
    return .int b.toNat
  | .tuple vs => pickFrom (some "tuple") (unfitPlace "tuple" false kind) vs index
  | .list vs => pickFrom (some "list") (unfitPlace "list" false kind) vs index
  | .record keys vs => entryOf keys vs index
  | _ =>
    throw (.unsuited (Text.ofString ("'" ++ v.kindName d ++ "' object is not subscriptable")))

end Zpl.Action
