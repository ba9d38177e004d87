import Zpl.Value.Convert

/-!
# Labels

A label is a canvas of a certain size in dots, and the components to print on it, in order. Later
components print over earlier ones, and a component may be listed several times.

## Main definitions

* `Label` — a canvas with its components.
* `Label.ofInches`, `Label.ofDots` — an empty label of a given size.
-/

namespace Zpl

/-- A canvas with its components. -/
structure Label where
  dpi : Value
  labelWidth : Value
  labelHeight : Value
  components : List Ref := []
  deriving Repr

namespace Label

def defaultWidthInches : Int := 4

def defaultHeightInches : Int := 6

/-- The density of eight dots per millimetre, in dots per inch. -/
def defaultDpi : Int := 203

/-- An empty label of a size in inches. -/
def ofInches (capacity : Nat) (d : Directory) (width height dpi : Value) : Except Fault Label := do
  let dpi ← dpi.toInt
  let width ← (← width.mul capacity d (.int dpi)).toInt
  let height ← (← height.mul capacity d (.int dpi)).toInt
  return { dpi := .int dpi, labelWidth := .int width, labelHeight := .int height }

/-- An empty label of a size in dots. -/
def ofDots (width height dpi : Value) : Except Fault Label := do
  let dpi ← dpi.toInt
  let width ← width.toInt
  let height ← height.toInt
  return { dpi := .int dpi, labelWidth := .int width, labelHeight := .int height }

/-- Whether a size in dots is greater than zero. -/
def isPrintable (size : Value) : Except Fault Bool := do
  let n ← size.toNumber
  return n.isPositive

/-- Whether a label has room to print on. -/
def isValid (l : Label) : Except Fault Bool := do
  if ← isPrintable l.labelWidth then isPrintable l.labelHeight else return false

@[simp] theorem isPrintable_int (n : Int) : isPrintable (.int n) = .ok (decide (0 < n)) := by
  simp [isPrintable, bind, Except.bind, pure, Except.pure]

end Label

end Zpl
