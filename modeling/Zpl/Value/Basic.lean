import Zpl.Number

/-!
# Values

Whoever composes a label may hand over anything as a position, a size or an identifier, and most
of it is stored as given and printed later. A `Value` is such a thing. Numbers and truth values
mix in arithmetic and comparison, where `true` counts as one.

## Main definitions

* `Ref` — the name of an object in a store.
* `Value` — anything that can be handed over.
* `Value.number?` — the number a value counts as.
* `Value.same` — equality of values without parts, across the kinds of numbers.
* `Value.sharesNan` — what makes two equal parts of values where `same` does not.
-/

namespace Zpl

/-- The name of an object in a store: its place there. -/
abbrev Ref := Nat

/-- Anything that can be handed over, stored or answered. -/
inductive Value where
  | none
  | bool (b : Bool)
  | int (n : Int)
  | float (x : Binary64)
  | text (t : Text)
  | bytes (bs : List UInt8)
  /-- A row of values. Rows, lists and records that are handed around are kept in a store, as
  objects, where each is one of its own; here they stand by themselves. -/
  | tuple (vs : List Value)
  | list (vs : List Value)
  | record (keys values : List Value)
  | object (r : Ref)
  deriving Repr

namespace Value

instance : Inhabited Value := ⟨.none⟩

instance : OfNat Value n := ⟨.int n⟩

instance : Coe String Value := ⟨fun s => .text s⟩

instance : Coe Text Value := ⟨.text⟩

def ofNumber : Number → Value
  | .int n => .int n
  | .float x => .float x

/-- The number a value counts as: truth values are zero and one. -/
def number? : Value → Option Number
  | .bool b => some (.int (if b then 1 else 0))
  | .int n => some (.int n)
  | .float x => some (.float x)
  | _ => Option.none

/-- The integer a value counts as; no binary64 value counts as one. -/
def integer? : Value → Option Int
  | .bool b => some (if b then 1 else 0)
  | .int n => some n
  | _ => Option.none

/-- A number proper, as a count of dots must be: truth values are none. -/
def dots? : Value → Option Number
  | .int n => some (.int n)
  | .float x => some (.float x)
  | _ => Option.none

def isNumber (v : Value) : Bool := v.dots?.isSome

/-- Whether a value counts as a number of the given size. -/
def sameNumber (a : Number) (w : Value) : Bool :=
  match w.number? with
  | some b => a.compare? b == some .eq
  | Option.none => false

/-- Whether two values without parts are equal. Numbers are compared by size whatever their kind,
and objects by identity; a value with parts equals none. -/
def same : Value → Value → Bool
  | .text s, .text t => s == t
  | .bytes a, .bytes b => a == b
  | .none, .none => true
  | .object r, .object s => r == s
  | .bool a, w => sameNumber (.int (if a then 1 else 0)) w
  | .int n, w => sameNumber (.int n) w
  | .float x, w => sameNumber (.float x) w
  | _, _ => false

/-- Whether two values are one and the same not-a-number, which equals nothing, not even itself. -/
def sharesNan : Value → Value → Bool
  | .float (.nan p), .float (.nan q) => p == q
  | _, _ => false

/-- A row of fields with values, as a record. -/
def ofFields (fields : List (Text × Value)) : Value :=
  .record (fields.map fun field => .text field.1) (fields.map (·.2))

/-- The value stored in a record under a text. -/
def lookup? (key : Text) : Value → Option Value
  | .record keys values => ((keys.zip values).find? fun entry => entry.1.same (.text key)).map (·.2)
  | _ => Option.none

@[simp] theorem dots?_int (n : Int) : dots? (.int n) = some (.int n) := rfl

@[simp] theorem number?_ofNumber (a : Number) : (ofNumber a).number? = some a := by
  cases a <;> rfl

@[simp] theorem dots?_ofNumber (a : Number) : (ofNumber a).dots? = some a := by
  cases a <;> rfl

/-- Whole numbers are equal by size. -/
theorem same_int (m n : Int) : same (.int m) (.int n) = decide (m = n) := by
  change (some (compare m n) == some .eq) = _
  rw [Bool.eq_iff_iff]
  simp

end Value

end Zpl
