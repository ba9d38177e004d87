import Zpl.Component.Token

/-!
# Components

A component is anything that can be placed on a label. All kinds share a position, the canvas they
were laid out for, an alignment and the instruction generated last; each kind adds attributes of
its own. Attributes that are checked when they are set have a type that holds just what passes the
check. The others hold whatever was given.

## Main definitions

* `Component` — the common fields and the kind.
* `Kind` — a ready-made instruction, a line of text, a barcode or a shape.
* `Component.footprint` — how many dots a component takes downwards.
-/

namespace Zpl

/-! ### Kinds -/

/-- A line of text in a field block as wide as the canvas. -/
structure TextLine where
  content : Text := []
  fontSize : Int := 30
  /-- Whether hexadecimal escapes in the content reach the printer as bytes. -/
  hexEscapes : Value := .bool true
  deriving Repr

/-- A Code 128 barcode. `placementGiven` is the placement as it was set; several values are equal
to one number. -/
structure Barcode where
  data : Value := .text []
  moduleWidth : Int := 3
  barHeight : Int := 60
  placement : TextPlacement := .hidden
  placementGiven : Value := .int 0
  checkDigit : Value := .bool false
  mode : BarcodeMode := .plain
  orientation : Orientation := .normal
  /-- A rectangle printed behind the barcode. -/
  background : Value := .none
  deriving Repr

/-- The figure that a shape draws. -/
inductive Figure where
  | rectangle (cornerRadius : Int)
  | ellipse
  | diagonal (slant : Slant)
  deriving DecidableEq, Repr

/-- A closed figure. Margins can take width and height below zero and to fractions. -/
structure Shape where
  figure : Figure
  width : Number := 0
  height : Number := 0
  thickness : Int := 1
  color : Color := .black
  deriving Repr

/-- What a component is. -/
inductive Kind where
  /-- A ready-made instruction that takes `size` dots downwards. -/
  | raw (size : Int)
  | text (line : TextLine)
  | barcode (code : Barcode)
  | shape (shape : Shape)
  deriving Repr

/-- Anything that can be placed on a label. -/
structure Component where
  id : Value := .text []
  x : Value := .int 0
  y : Value := .int 0
  labelWidth : Value := .int 0
  labelHeight : Value := .int 0
  alignment : Value := .text (token Alignment.left)
  instruction : Value := .text []
  /-- What is told of warnings, if anything is. -/
  listener : Value := .none
  kind : Kind
  deriving Repr

namespace Figure

def name : Figure → String
  | .rectangle _ => "Rectangle"
  | .ellipse => "Ellipse"
  | .diagonal _ => "DiagonalLine"

end Figure

namespace Kind

/-- The name of a kind in diagnostics. -/
def name : Kind → String
  | .raw _ => "RawInstruction"
  | .text _ => "Text"
  | .barcode _ => "Barcode"
  | .shape s => s.figure.name

end Kind

/-! ### Measures -/

/-- Modules of a Code 128 symbol apart from its data: start, check and stop characters. -/
def overheadModules : Int := 34

/-- Modules of one character of a Code 128 symbol. -/
def modulesPerSymbol : Int := 11

/-- Dots that a text below the bars takes. -/
def textBelowDots : Int := 30

/-- Modules of a Code 128 symbol with `n` characters of data. -/
def symbolModules (n : Nat) : Int := overheadModules + n * modulesPerSymbol

/-- The printed length of a Code 128 symbol: its modules times their width. -/
def symbolLength (capacity : Nat) (d : Directory) (data moduleWidth : Value) :
    Except Fault Value := do
  let n ← data.length d
  Value.mul capacity d (.int (symbolModules n)) moduleWidth

namespace Barcode

def isNormal (b : Barcode) : Bool := b.orientation == .normal

/-- The estimated printed length; at other than normal orientation it is not estimated. -/
def printedLength (d : Directory) (b : Barcode) : Except Fault Int :=
  if b.isNormal then do
    let n ← b.data.length d
    return symbolModules n * b.moduleWidth
  else return 0

/-- The height of the bars and of a text below them. A text above lies outside the field. -/
def footprint (b : Barcode) : Int :=
  if b.placement = .below then b.barHeight + textBelowDots else b.barHeight

end Barcode

namespace Shape

/-- The height and the lower border. -/
def footprint (s : Shape) : Except Fault Number :=
  liftArithmetic (s.height.add (.int s.thickness))

end Shape

namespace Component

/-- How many dots a component takes downwards. -/
def footprint (c : Component) : Except Fault Number :=
  match c.kind with
  | .raw size => .ok (.int size)
  | .text line => .ok (.int line.fontSize)
  | .barcode b => .ok (.int b.footprint)
  | .shape s => s.footprint

end Component

end Zpl
