import Zpl.Fault.Incident
import Zpl.Store.Equality
import Zpl.Store.Layout

/-!
# Records

A record is an object of its own, and whoever holds it sees its entries change. Entries keep the
order in which their keys were first put in.

## Main definitions

* `Action.entryOf` — the value under a key.
* `Record.put`, `update` — changing entries.
* `Record.take`, `takeLast`, `clear` — taking entries out.
-/

namespace Zpl

namespace Record

open Zpl.Action

/-- The keys of a record and their values. -/
def entries (r : Ref) : Action (List Value × List Value) := do
  match (← get).content? r with
  | some (.record keys values) => return (keys, values)
  | _ => throw .missingAttribute

/-- Gives a record other entries. -/
def replace (r : Ref) (keys values : List Value) : Action Unit :=
  Action.put r (.content (.record keys values))

/-- The value under a key, if there is one. -/
def lookUp? (r : Ref) (key : Value) : Action (Option Value) := do
  let (keys, values) ← entries r
  (← get).entryUnder? key (keys.zip values)

/-- The value under a key, or another one. -/
def getD (r : Ref) (key alternative : Value) : Action Value :=
  return (← lookUp? r key).getD alternative

/-- The place of a key. -/
def placeOf? (r : Ref) (key : Value) : Action (Option Nat) := do
  let (keys, _) ← entries r
  (← get).entryUnder? key keys.zipIdx

/-! ### Changing entries -/

/-- Puts a value under a key: in the place of the one that is there, or else at the end. -/
def put (r : Ref) (key v : Value) : Action Unit := do
  let place ← placeOf? r key
  let (keys, values) ← entries r
  match place with
  | some n => replace r keys (values.set n v)
  | none => replace r (keys ++ [key]) (values ++ [v])

/-- The value under a key; where there is none, another one is put there first. -/
def getOrPut (r : Ref) (key v : Value) : Action Value := do
  match ← lookUp? r key with
  | some present => return present
  | none =>
    put r key v
    return v

/-- A fault of an entry that is no pair. -/
def unpaired (place length : Nat) : Fault :=
  Incident.refusal "ValueError"
    s!"dictionary update sequence element #{place} has length {length}; 2 is required"

/-- A fault of an entry that hands out nothing. -/
def inseparable (place : Nat) : Fault :=
  .unsuited (Text.ofString
    ("cannot convert dictionary update sequence element #" ++ toString place ++ " to a sequence"))

/-- Puts in pairs of keys and values, counting them from a given number. -/
def putPairs (r : Ref) : (place : Nat) → List Value → Action Unit
  | _, [] => pure ()
  | place, pair :: rest => do
    match pair.elements (← directory) with
    | .ok [key, v] => put r key v
    | .ok parts => throw (unpaired place parts.length)
    | .error _ => throw (inseparable place)
    putPairs r (place + 1) rest

/-- Puts in the entries of a record, or pairs of keys and values. -/
def update (r : Ref) (other : Value) : Action Unit := do
  match other.opened (← directory) with
  | .record keys values => (keys.zip values).forM fun (key, v) => put r key v
  | other => putPairs r 0 (← elements other)

/-! ### Taking entries out -/

/-- Takes out the entry of a key, and answers with its value, or else with another one if that is
given. -/
def take (r : Ref) (key : Value) (alternative? : Option Value) : Action Value := do
  let (keys, values) ← entries r
  match keys, alternative? with
  | [], some v => return v
  | [], none => throw (.missingKey (Incident.quoted key))
  | _, _ =>
    match ← placeOf? r key with
    | some n =>
      replace r (keys.eraseIdx n) (values.eraseIdx n)
      return values.getD n .none
    | none =>
      match alternative? with
      | some v => return v
      | none => throw (.missingKey (Incident.quoted key))

/-- Takes out the entry that was put in last, and answers with its key and its value. -/
def takeLast (r : Ref) : Action Value := do
  let (keys, values) ← entries r
  match keys.getLast?, values.getLast? with
  | some key, some v =>
    replace r keys.dropLast values.dropLast
    return .tuple [key, v]
  | _, _ => throw (.missingKey (Text.quoted "popitem(): dictionary is empty"))

def clear (r : Ref) : Action Unit := replace r [] []

/-! ### Other records -/

/-- A record of the same entries. -/
def copy (r : Ref) : Action Value := do
  let (keys, values) ← entries r
  return .record keys values

/-- A record with one value under each key that another value hands out. -/
def ofKeys (keys v : Value) : Action Value := do
  let r ← Action.add (.content (.record [] []))
  (← elements keys).forM fun key => put r key v
  return .object r

end Record

namespace Action

/-- The entry of a record that a value names. -/
def entryOf (keys values : List Value) (name : Value) : Action Value := do
  match ← (← get).entryUnder? name (keys.zip values) with
  | some v => return v
  | none => throw (.missingKey (Incident.quoted name))

end Action

end Zpl
