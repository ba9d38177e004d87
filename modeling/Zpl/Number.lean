import Zpl.Binary64.Basic
import Zpl.Binary64.Shortest

/-!
# Numbers

A number is an integer of any size or a binary64 value. Arithmetic between integers is exact; as
soon as one operand is a binary64 value the other is rounded to one as well, which fails for an
integer past the largest of them. Comparison never rounds.

## Main definitions

* `Number` — an integer or a binary64 value.
* `Number.add`, `sub`, `mul`, `floorDiv` — arithmetic; the result says why there is none.
* `Number.truncDiv` — division rounding toward zero.
* `Number.truncate` — the integer part.
-/

namespace Zpl

/-- A number of dots, inches or copies. -/
inductive Number where
  | int (n : Int)
  | float (x : Binary64)
  deriving DecidableEq, Repr

/-- Why an arithmetic operation has no result. -/
inductive ArithmeticFault where
  /-- The integer lies outside the range of binary64 values. -/
  | tooLarge
  | divisionByZero
  /-- Not-a-number has no integer part. -/
  | notANumber
  /-- An infinity has no integer part. -/
  | infinite
  deriving DecidableEq, Repr

namespace Number

instance : OfNat Number n := ⟨.int n⟩

instance : Coe Int Number := ⟨.int⟩

/-- The nearest binary64 value. -/
def toBinary64 : Number → Except ArithmeticFault Binary64
  | .int n =>
    match Binary64.ofInt n with
    | .infinity _ => .error .tooLarge
    | x => .ok x
  | .float x => .ok x

/-- An operation that is exact on integers and rounded elsewhere. -/
def combine (onInts : Int → Int → Int) (onFloats : Binary64 → Binary64 → Binary64) :
    Number → Number → Except ArithmeticFault Number
  | .int a, .int b => .ok (.int (onInts a b))
  | a, b => do
    let x ← a.toBinary64
    let y ← b.toBinary64
    return .float (onFloats x y)

def add : Number → Number → Except ArithmeticFault Number := combine (· + ·) Binary64.add

def sub : Number → Number → Except ArithmeticFault Number := combine (· - ·) Binary64.sub

def mul : Number → Number → Except ArithmeticFault Number := combine (· * ·) Binary64.mul

def neg : Number → Number
  | .int n => .int (-n)
  | .float x => .float x.neg

def abs : Number → Number
  | .int n => .int n.natAbs
  | .float x => .float x.abs

/-- Comparison with an integer; not-a-number compares with nothing. -/
def compareInt? : Number → Int → Option Ordering
  | .int a, n => some (compare a n)
  | .float x, n => x.compareInt? n

def compare? : Number → Number → Option Ordering
  | .int a, .int b => some (compare a b)
  | .float x, .int b => x.compareInt? b
  | .int a, .float y => (y.compareInt? a).map Ordering.swap
  | .float x, .float y => x.compare? y

def isNegative (a : Number) : Bool := a.compareInt? 0 == some .lt

def isPositive (a : Number) : Bool := a.compareInt? 0 == some .gt

def isZero (a : Number) : Bool := a.compareInt? 0 == some .eq

/-- At least a given integer. -/
def atLeast (a : Number) (n : Int) : Bool :=
  a.compareInt? n == some .gt || a.compareInt? n == some .eq

/-- At most a given integer. -/
def atMost (a : Number) (n : Int) : Bool :=
  a.compareInt? n == some .lt || a.compareInt? n == some .eq

def lessThan (a b : Number) : Bool := a.compare? b == some .lt

/-- Division rounding down; by zero there is none. -/
def floorDiv (a b : Number) : Except ArithmeticFault Number := do
  match a, b with
  | .int m, .int n => if n = 0 then throw .divisionByZero else return .int (m.fdiv n)
  | a, b =>
    let x ← a.toBinary64
    let y ← b.toBinary64
    if y.isZero then throw .divisionByZero else return .float (x.floorDiv y)

/-- Division rounding toward zero: the quotient of the magnitudes, negated when just one of the
operands is negative. -/
def truncDiv (a b : Number) : Except ArithmeticFault Number := do
  let q ← a.abs.floorDiv b.abs
  return if a.atLeast 0 = b.isPositive then q else q.neg

/-- The integer part. -/
def truncate : Number → Except ArithmeticFault Int
  | .int n => .ok n
  | .float x =>
    match x.truncate? with
    | some n => .ok n
    | none => .error (match x with | .infinity _ => .infinite | _ => .notANumber)

@[simp] theorem add_int (a b : Int) : add (.int a) (.int b) = .ok (.int (a + b)) := rfl

@[simp] theorem sub_int (a b : Int) : sub (.int a) (.int b) = .ok (.int (a - b)) := rfl

@[simp] theorem mul_int (a b : Int) : mul (.int a) (.int b) = .ok (.int (a * b)) := rfl

@[simp] theorem truncate_int (n : Int) : truncate (.int n) = .ok n := rfl

@[simp] theorem compareInt?_int (a n : Int) : compareInt? (.int a) n = some (compare a n) := rfl

@[simp] theorem atLeast_int (a n : Int) : atLeast (.int a) n = decide (n ≤ a) := by
  rw [Bool.eq_iff_iff]
  simp [atLeast, Int.compare_eq_gt]
  omega

@[simp] theorem atMost_int (a n : Int) : atMost (.int a) n = decide (a ≤ n) := by
  rw [Bool.eq_iff_iff]
  simp [atMost, Int.compare_eq_lt]
  omega

@[simp] theorem isPositive_int (a : Int) : isPositive (.int a) = decide (0 < a) := by
  rw [Bool.eq_iff_iff]
  simp [isPositive, Int.compare_eq_gt]

@[simp] theorem lessThan_int (a b : Int) : lessThan (.int a) (.int b) = decide (a < b) := by
  rw [Bool.eq_iff_iff]
  simp [lessThan, compare?, Int.compare_eq_lt]

end Number

end Zpl
