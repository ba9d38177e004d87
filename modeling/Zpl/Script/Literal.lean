import Zpl.Signature
import Zpl.Store.Basic

/-!
# Names and literals

A script writes its values down as literals, and refers to earlier results by the names that it
gave them. Each list and each record that is written down is one of its own, so evaluating a literal
adds them to the store; and each not-a-number is one of its own.

Names are kept in the order in which they were first given. A name that is given again keeps its
place, and an object goes by the first name that stands for it.

## Main definitions

* `Scope` — names with their values.
* `Literal` — a value as a script writes it.
* `Literal.value` — the value of a literal.

## Main statements

* `Scope.lookup_bind_self`, `Scope.lookup_bind_of_ne` — the values of names after one is given.
-/

namespace Zpl

/-- Names with their values, in the order in which the names were first given. -/
abbrev Scope := List (String × Value)

namespace Scope

/-- Gives a name to a value. A name given before keeps its place. -/
def bind (scope : Scope) (name : String) (v : Value) : Scope :=
  match scope with
  | [] => [(name, v)]
  | (other, w) :: rest =>
    if name = other then (name, v) :: rest else (other, w) :: bind rest name v

/-- The name that an object goes by: the first one that stands for it. -/
def nameOf? (scope : Scope) (r : Ref) : Option String :=
  scope.findSome? fun (name, v) =>
    match v with
    | .object q => if q = r then some name else none
    | _ => none

theorem lookup_cons_of_ne {name other : String} (h : other ≠ name) (v : Value) (scope : Scope) :
    List.lookup other ((name, v) :: scope) = scope.lookup other := by
  simp [List.lookup_cons, beq_false_of_ne h]

theorem lookup_bind_self (scope : Scope) (name : String) (v : Value) :
    (scope.bind name v).lookup name = some v := by
  induction scope with
  | nil => simp [bind]
  | cons entry rest ih =>
    obtain ⟨other, w⟩ := entry
    by_cases h : name = other
    · simp [bind, h]
    · rw [bind, if_neg h, lookup_cons_of_ne h, ih]

theorem lookup_bind_of_ne {name other : String} (h : other ≠ name) (scope : Scope) (v : Value) :
    (scope.bind name v).lookup other = scope.lookup other := by
  induction scope with
  | nil => simp [bind, h]
  | cons entry rest ih =>
    obtain ⟨first, w⟩ := entry
    by_cases hn : name = first
    · subst hn
      rw [bind, if_pos rfl, lookup_cons_of_ne h, lookup_cons_of_ne h]
    · rw [bind, if_neg hn]
      by_cases hf : other = first
      · simp [hf]
      · rw [lookup_cons_of_ne hf, lookup_cons_of_ne hf, ih]

end Scope

/-- A value as a script writes it. -/
inductive Literal where
  | none
  | bool (b : Bool)
  | int (n : Int)
  | float (x : Binary64)
  | text (t : Text)
  | bytes (bs : List UInt8)
  | list (items : List Literal)
  | record (keys : List Text) (values : List Literal)
  /-- What a name stands for. -/
  | name (name : String)
  deriving Repr

namespace Literal

instance : Inhabited Literal := ⟨.none⟩

mutual

/-- The value of a literal where nothing is named and nothing is shared. -/
def snapshot : Literal → Value
  | .none => .none
  | .bool b => .bool b
  | .int n => .int n
  | .float x => .float x
  | .text t => .text t
  | .bytes bs => .bytes bs
  | .list items => .list (snapshots items)
  | .record keys values => .ofFields (keys.zip (snapshots values))
  | .name _ => .none

def snapshots : List Literal → List Value
  | [] => []
  | item :: items => snapshot item :: snapshots items

end

/-- The value of a name. -/
def named (scope : Scope) (name : String) : Except Fault Value :=
  match scope.lookup name with
  | some v => .ok v
  | Option.none => .error (.missingKey (Text.quoted (Text.ofString name)))

mutual

/-- The value of a literal. -/
def value (scope : Scope) : Literal → Action Value
  | .none => return .none
  | .bool b => return .bool b
  | .int n => return .int n
  | .float x => Action.made (.float x)
  | .text t => return .text t
  | .bytes bs => return .bytes bs
  | .list items => do
    let vs ← values scope items
    return .object (← Action.add (.content (.list vs)))
  | .record keys entries => do
    let vs ← values scope entries
    return .object (← Action.add (.content (.ofFields (keys.zip vs))))
  | .name n => named scope n

def values (scope : Scope) : List Literal → Action (List Value)
  | [] => return []
  | item :: items => do
    let v ← value scope item
    let vs ← values scope items
    return v :: vs

end

end Literal

/-- The values that an operation is called with, as a script writes them. -/
structure LiteralCall where
  inRow : List Literal := []
  named : List (Text × Literal) := []
  deriving Repr

namespace LiteralCall

/-- The values of a call where nothing is named and nothing is shared. -/
def snapshot (c : LiteralCall) : Call :=
  { inRow := Literal.snapshots c.inRow
    named := c.named.map fun (name, v) => (name, v.snapshot) }

/-- The values of a call. -/
def value (scope : Scope) (c : LiteralCall) : Action Call := do
  let inRow ← Literal.values scope c.inRow
  let named ← Literal.values scope (c.named.map (·.2))
  return { inRow := inRow, named := (c.named.map (·.1)).zip named }

end LiteralCall

end Zpl
