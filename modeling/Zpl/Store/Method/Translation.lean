import Zpl.Store.Element
import Zpl.Store.Method.Basic

/-!
# Translating texts

A text is translated code point by code point. What takes the place of a code point stands under its
number in a table, which may be anything that has elements; a code point without an entry stays.

## Main definitions

* `Translation.translated` — a text translated by a table.
* `Translation.tableOf` — a table made from texts or from a record.
-/

namespace Zpl.Translation

/-! ### Translating -/

/-- What stands under a number in a table, if anything does. -/
def entry? (table : Value) (code : Nat) : Action (Option Value) := do
  try
    let v ← Action.element table (.int code)
    return some v
  catch
    | .missingKey _ => return none
    | .indexOutOfRange _ => return none
    | fault => throw fault

/-- The code point of a number. -/
def codePoint (n : Int) : Except Fault CodePoint :=
  if 0 ≤ n ∧ n < 0x110000 then .ok (CodePoint.ofCode n.toNat)
  else .error (Incident.refusal "ValueError" "character mapping must be in range(0x110000)")

/-- What takes the place of a code point, when its entry is there. -/
def replacement (v : Value) : Except Fault Text :=
  match v with
  | .none => .ok []
  | .text t => .ok t
  | v =>
    match v.integer? with
    | some n => do
      let c ← codePoint n
      return [c]
    | none => .error (.unsuited "character mapping must return integer, None or str")

/-- What takes the place of a code point. -/
def substitute (table : Value) (c : CodePoint) : Action Text := do
  match ← entry? table c.code with
  | none => return [c]
  | some v => replacement v

/-- A text translated by a table. -/
def translated (table : Value) (t : Text) : Action Text := do
  let parts ← t.mapM (substitute table)
  return parts.flatten

/-! ### Tables -/

/-- Entries of a table in the order of their keys. -/
abbrev Entries := List (Value × Value)

/-- Puts a value under a key: in the place of the one that is there, or else at the end. -/
def put (entries : Entries) (key v : Value) : Entries :=
  if entries.any fun entry => entry.1.same key then
    entries.map fun entry => if entry.1.same key then (entry.1, v) else entry
  else entries ++ [(key, v)]

/-- The key of a code point. -/
def keyOf (c : CodePoint) : Value := .int c.code

/-- The key that stands for a key of a record. -/
def tableKey (key : Value) : Except Fault Value :=
  match key with
  | .text [c] => .ok (keyOf c)
  | .text _ =>
    .error (Incident.refusal "ValueError"
      "string keys in translate table must be of length 1")
  | key =>
    match key.integer? with
    | some _ => .ok key
    | none => .error (.unsuited "keys in translate table must be strings or integers")

/-- The entries of a record, with numbers for keys. -/
def entriesOf (record : Value) : Except Fault Entries :=
  match record with
  | .record keys values =>
    (keys.zip values).foldlM (fun entries (key, v) => return put entries (← tableKey key) v) []
  | _ =>
    .error (.unsuited "if you give only one argument to maketrans it must be a dict")

/-- A text that is told at a place. -/
def told (place : Nat) (v : Value) : Except Fault Text :=
  match v with
  | .text t => .ok t
  | v =>
    .error (.unsuited (Text.ofString ("maketrans() argument " ++ toString place
      ++ " must be str, not " ++ v.kindName .empty)))

/-- The entries that put the code points of one text in the place of those of another one. -/
def entriesBetween (v : Value) (new : Text) : Except Fault Entries :=
  match v with
  | .text old =>
    if old.length = new.length then
      .ok ((old.zip new).foldl (fun entries (c, d) => put entries (keyOf c) (keyOf d)) [])
    else
      .error (Incident.refusal "ValueError"
        "the first two maketrans arguments must have equal length")
  | _ =>
    .error (.unsuited "first maketrans argument must be a string if there is a second argument")

/-- Entries as a record. -/
def recordOf (entries : Entries) : Value := .record (entries.map (·.1)) (entries.map (·.2))

/-- A table made from a record, from two texts, or from two texts and one of what is left out. -/
def tableOf (v : Value) (others : List Value) : Action Value := do
  match others with
  | [] =>
    let entries ← entriesOf (v.opened (← Action.directory))
    return recordOf entries
  | [new] =>
    let entries ← entriesBetween v (← told 2 new)
    return recordOf entries
  | [new, dropped] =>
    let new ← told 2 new
    let dropped ← told 3 dropped
    let entries ← entriesBetween v new
    return recordOf (dropped.foldl (fun entries c => put entries (keyOf c) .none) entries)
  | _ => throw .wrongType

/-- The methods of texts that translate. -/
def methods : List (Method Text) :=
  [.asking "translate" (.row 1) fun t table => return .text (← translated table t),
    { name := "maketrans"
      signature := { Signature.row 1 with gathers := true }
      isShared := true
      run := fun _ vs =>
        match vs with
        | [v, .list others] => tableOf v others
        | _ => throw .wrongType }]

end Zpl.Translation
