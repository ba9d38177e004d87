import Zpl.Fault

/-!
# Whole numbers in decimal digits

A whole number is written in decimal digits after its sign. Past a certain number of digits a
number is neither written nor read, so whatever prints a number may fail.

## Main definitions

* `Decimal.maxDigits` — the most digits that a whole number is written with.
* `Decimal.write` — the text of a whole number.
* `Number.write` — the text of a number.
-/

namespace Zpl

namespace Decimal

/-- The most digits that a whole number is written with. -/
def maxDigits : Nat := 4300

/-- Whether a whole number has few enough digits to be written. -/
def isWritable (n : Int) : Bool := (Nat.toDigits 10 n.natAbs).length ≤ maxDigits

/-- The text of a whole number. -/
def write (n : Int) : Except Fault Text :=
  if isWritable n then .ok (Text.ofInt n) else .error .unwritable

theorem write_of_isWritable {n : Int} (h : isWritable n = true) : write n = .ok (Text.ofInt n) := by
  simp [write, h]

theorem write_of_not_isWritable {n : Int} (h : isWritable n = false) :
    write n = .error .unwritable := by
  simp [write, h]

end Decimal

/-- The text of a number. -/
def Number.write : Number → Except Fault Text
  | .int n => Decimal.write n
  | .float x => .ok x.text

end Zpl
