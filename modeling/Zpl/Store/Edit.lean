import Zpl.Store.Collection
import Zpl.Store.Spelling

/-!
# Editing a component

An edit changes one component of a store and issues events. When it fails, what it changed before
stays changed. A value that is printed on the way may be a label, so an edit may generate
instructions of other components, and even of its own one.

## Main definitions

* `Edit.assign` — sets a validated attribute.
* `Edit.warn` — logs a warning and tells the warning handler.
* `Edit.setMargins`, `setAlignment`, `fillBackground` — placing a component.
-/

namespace Zpl.Edit

open Zpl.Action

/-- Logs a warning that names the component, and tells the warning handler. -/
def warn (r : Ref) (message : Text) : Action Unit := do
  let c ← component r
  let tag : Text ←
    if c.id.truth (← directory) then do
      let id ← Action.shown c.id
      pure ("[" ++ id ++ "]")
    else pure []
  log .warning .component (c.kind.name ++ tag ++ ": " ++ message)
  match c.listener with
  | .none => pure ()
  | listener =>
    if (← get).isHandler listener then
      issue (Issuing.emit (.warning c.kind.name c.id (.text message)))
    else
      let _ ← invoke listener { inRow := [.object r, .text message] }

/-! ### Validated attributes -/

/-- Does what a verdict asks for. -/
def settle (r : Ref) : Verdict Kind → Action Unit
  | .accepted kind => modifyComponent r fun c => { c with kind := kind }
  | .ignored => pure ()
  | .rejected message => warn r message

/-- Sets a validated attribute. -/
def assign (r : Ref) (a : Attribute) (v : Value) : Action Unit := do
  match (← component r).kind.assign? (← scribe) a v with
  | none => throw .missingAttribute
  | some judgement => settle r (← judgement)

/-! ### Canvas -/

/-- Sets the canvas that alignment and margins refer to. -/
def setLabelSize (r : Ref) (width height : Value) : Action Unit := do
  let w ← width.toInt
  modifyComponent r fun c => { c with labelWidth := .int w }
  let h ← height.toInt
  modifyComponent r fun c => { c with labelHeight := .int h }

/-! ### Arithmetic on stored values -/

/-- Addition of numbers, or joining of two sequences of one kind. -/
def add (v w : Value) : Action Value := do made (← v.add (← directory) w)

/-- Subtraction of numbers, or of sets. -/
def sub (v w : Value) : Action Value := do
  match ← Collection.difference? v w with
  | some left => return left
  | none => made (← v.sub w)

/-- What is said of two values that an operation does not put together. -/
def unsuited (d : Directory) (sign : String) (v w : Value) : Text :=
  let kind := v.kindName d
  let other := w.kindName d
  match v.opened d with
  | .text _ | .tuple _ =>
    if sign = "+=" then
      Text.ofString ("can only concatenate " ++ kind ++ " (not \"" ++ other ++ "\") to " ++ kind)
    else Text.ofString (unsupported sign kind other)
  | .bytes _ =>
    if sign = "+=" then Text.ofString ("can't concat " ++ other ++ " to bytes")
    else Text.ofString (unsupported sign kind other)
  | _ => Text.ofString (unsupported sign kind other)
where
  unsupported (sign kind other : String) : String :=
    "unsupported operand type(s) for " ++ sign ++ ": '" ++ kind ++ "' and '" ++ other ++ "'"

/-- The result of an operation on a stored value, which says what does not fit if it fails. -/
def explained (sign : String) (v w : Value) (result : Except Fault Value) : Action Value := do
  match result with
  | .error .wrongType => throw (.unsuited (unsuited (← directory) sign v w))
  | result => result

/-- A number that was just computed. -/
def distinctNumber : Number → Action Number
  | .int n => return .int n
  | .float x => do return .float (← distinct x)

/-- Addition to a stored value: as `add`, except that a stored list takes in whatever the other
value hands out and stays the list that it is. -/
def addInto (v w : Value) : Action Value := do
  match v with
  | .object r =>
    match (← get).items? r with
    | some vs =>
      let ws ← w.elements (← directory)
      put r (.content (.list (vs ++ ws)))
      return v
    | none => made (← explained "+=" v w (v.add (← directory) w))
  | _ => made (← explained "+=" v w (v.add (← directory) w))

/-- Subtraction from a stored value: as `sub`, except that a stored set stays the set that it
is. -/
def subInto (v w : Value) : Action Value := do
  match ← Collection.subtractFrom? v w with
  | some left => return left
  | none => made (← explained "-=" v w (v.sub w))

/-- Twice a margin. -/
def twice (margin : Value) : Action Value := do made (← margin.mul (← capacity) (← directory) (.int 2))

/-! ### Margins -/

def setMarginLeft (r : Ref) (margin : Value) : Action Unit := do
  let x ← addInto (← component r).x margin
  modifyComponent r fun c => { c with x := x }

def setMarginTop (r : Ref) (margin : Value) : Action Unit := do
  let y ← addInto (← component r).y margin
  modifyComponent r fun c => { c with y := y }

/-- Moves a component to the left. -/
def moveLeft (r : Ref) (margin : Value) : Action Unit := do
  let x ← subInto (← component r).x margin
  modifyComponent r fun c => { c with x := x }

/-- Moves a component upwards. -/
def moveUp (r : Ref) (margin : Value) : Action Unit := do
  let y ← subInto (← component r).y margin
  modifyComponent r fun c => { c with y := y }

/-- A size less a margin. -/
def reduced (size : Number) (margin : Value) : Action Number := do
  distinctNumber (← (← subInto (Value.ofNumber size) margin).toNumber)

/-- Makes a shape narrower, past zero if need be. -/
def narrowShape (r : Ref) (s : Shape) (margin : Value) : Action Unit := do
  let width ← reduced s.width margin
  modifyComponent r fun c => { c with kind := .shape { s with width := width } }

/-- Makes a shape lower, past zero if need be. -/
def lowerShape (r : Ref) (s : Shape) (margin : Value) : Action Unit := do
  let height ← reduced s.height margin
  modifyComponent r fun c => { c with kind := .shape { s with height := height } }

/-- The right margin narrows the canvas of texts and ready-made instructions, and rectangles and
lines themselves. Ellipses and barcodes keep their size and move instead. -/
def setMarginRight (r : Ref) (margin : Value) : Action Unit := do
  match (← component r).kind with
  | .shape s =>
    match s.figure with
    | .ellipse => moveLeft r margin
    | _ => narrowShape r s margin
  | .barcode _ => moveLeft r margin
  | _ =>
    let width ← subInto (← component r).labelWidth margin
    modifyComponent r fun c => { c with labelWidth := width }

/-- The bottom margin, as the right one. -/
def setMarginBottom (r : Ref) (margin : Value) : Action Unit := do
  match (← component r).kind with
  | .shape s =>
    match s.figure with
    | .ellipse => moveUp r margin
    | _ => lowerShape r s margin
  | .barcode _ => moveUp r margin
  | _ =>
    let height ← subInto (← component r).labelHeight margin
    modifyComponent r fun c => { c with labelHeight := height }

def applyLeft (r : Ref) (margin : Value) : Action Unit :=
  dispatchUnit r "set_margin_left" [margin] (setMarginLeft r margin)

def applyTop (r : Ref) (margin : Value) : Action Unit :=
  dispatchUnit r "set_margin_top" [margin] (setMarginTop r margin)

def applyRight (r : Ref) (margin : Value) : Action Unit :=
  dispatchUnit r "set_margin_right" [margin] (setMarginRight r margin)

def applyBottom (r : Ref) (margin : Value) : Action Unit :=
  dispatchUnit r "set_margin_bottom" [margin] (setMarginBottom r margin)

/-- Margins on all four sides. Those at the far sides also make up for the shift by the near
ones. -/
def setFourMargins (r : Ref) (left top right bottom : Value) : Action Unit := do
  applyBottom r (← add bottom top)
  applyRight r (← add right left)
  applyLeft r left
  applyTop r top

/-- One margin for all sides. The far sides take it twice, except those of an ellipse. -/
def setSingleMargin (r : Ref) (margin : Value) : Action Unit := do
  match (← component r).kind with
  | .shape { figure := .ellipse, .. } =>
    dispatchUnit r "set_margins" [margin, margin, margin, margin]
      (setFourMargins r margin margin margin margin)
  | _ =>
    applyLeft r margin
    applyTop r margin
    applyRight r (← twice margin)
    applyBottom r (← twice margin)

/-- One margin for all sides, or four; two or three are refused. -/
def setMargins (r : Ref) (left top right bottom : Value) : Action Unit :=
  match top, right, bottom with
  | .none, .none, .none => setSingleMargin r left
  | .none, _, _ => throw .marginCount
  | _, .none, _ => throw .marginCount
  | _, _, .none => throw .marginCount
  | _, _, _ => setFourMargins r left top right bottom

/-! ### Alignment -/

/-- Half of a difference, rounded toward zero: the gap on either side of something centered. -/
def centeringGap (outer inner : Value) : Action Value := do
  let gap ← (← outer.sub inner).toNumber
  let half ← liftArithmetic (gap.truncDiv 2)
  made (Value.ofNumber half)

/-- Records an alignment that was carried out. -/
def recordAlignment (r : Ref) (a : Alignment) : Action Unit :=
  modifyComponent r fun c => { c with alignment := .text (Zpl.token a) }

/-- Notes that an alignment is not one that this kind of component takes. -/
def ignoreAlignment (source : Source) (before : Text) (v : Value) (after : Text) :
    Action Unit := do
  logWorded .debug source do return before ++ (← Action.quoted v) ++ " on " ++ after

/-- The alignment that a value asks for. -/
def alignmentOf (v : Value) : Action (Option Alignment) := return choice? (← Action.token v)

/-- Aligns a shape by its own width and height. -/
def alignShape (r : Ref) (s : Shape) (v : Value) : Action Unit := do
  let c ← component r
  let width := Value.ofNumber s.width
  match ← alignmentOf v with
  | some .left =>
    modifyComponent r fun c => { c with x := .int 0 }
    recordAlignment r .left
  | some .center =>
    let x ← centeringGap c.labelWidth width
    modifyComponent r fun c => { c with x := x }
    recordAlignment r .center
  | some .right =>
    let x ← sub c.labelWidth width
    modifyComponent r fun c => { c with x := x }
    recordAlignment r .right
  | some .bottom =>
    modifyComponent r fun c => { c with y := c.labelHeight }
    moveUp r (Value.ofNumber s.height)
    recordAlignment r .bottom
  | _ => ignoreAlignment .shape "Ignoring alignment " v s.figure.name

/-- The estimated length of a barcode. -/
def barcodeLength (r : Ref) : Action Value := do
  match (← component r).kind with
  | .barcode b =>
    let n ← b.printedLength (← directory)
    return .int n
  | _ => throw .missingAttribute

/-- The length by which a barcode is laid out. -/
def printedLength (r : Ref) : Action Value :=
  dispatch r "get_barcode_length" [] (barcodeLength r)

/-- Aligns a barcode by its estimated length. The right and bottom positions are known at normal
orientation only, and are otherwise left alone in silence. -/
def alignBarcode (r : Ref) (b : Barcode) (v : Value) : Action Unit := do
  let c ← component r
  match ← alignmentOf v with
  | some .left =>
    modifyComponent r fun c => { c with x := .int 0 }
    recordAlignment r .left
  | some .center =>
    let x ← centeringGap c.labelWidth (← printedLength r)
    modifyComponent r fun c => { c with x := x }
    recordAlignment r .center
  | some .right =>
    if b.isNormal then
      let x ← sub c.labelWidth (← printedLength r)
      modifyComponent r fun c => { c with x := x }
      recordAlignment r .right
  | some .bottom =>
    if b.isNormal then
      let y ← sub c.labelHeight (.int b.footprint)
      modifyComponent r fun c => { c with y := y }
      recordAlignment r .bottom
  | _ => ignoreAlignment .barcode "Ignoring alignment " v "Barcode"

/-- Aligns a component on its canvas. The printer itself aligns a text within its block, so there
only the request is recorded. -/
def setAlignment (r : Ref) (v : Value) : Action Unit := do
  match (← component r).kind with
  | .shape s => alignShape r s v
  | .barcode b => alignBarcode r b v
  | .text _ =>
    match ← alignmentOf v with
    | none => ignoreAlignment .text "Ignoring alignment " v "Text"
    | some .bottom => ignoreAlignment .text "Ignoring alignment " v "Text"
    | some a => recordAlignment r a
  | .raw _ =>
    match ← alignmentOf v with
    | none => ignoreAlignment .component "Ignoring unknown alignment " v "RawInstruction"
    | some a => recordAlignment r a

/-! ### Stacking and filling -/

/-- Moves a component down by the position and the size of another object; below nothing it stays
where it is. -/
def stackBelow (r : Ref) : Value → Action Unit
  | .none => pure ()
  | other => do
    let y ← read other "y"
    let size ← read other "component_size"
    let below ← add y size
    let y ← addInto (← component r).y below
    modifyComponent r fun c => { c with y := y }

/-- The thickness at which the border of a shape fills it: half the shorter side, rounded down. -/
def fillingThickness (s : Shape) : Except Fault Number :=
  liftArithmetic (if s.width.lessThan s.height then s.width.floorDiv 2 else s.height.floorDiv 2)

/-- Paints a shape solid. -/
def fillBackground (r : Ref) : Action Unit := do
  match (← component r).kind with
  | .shape s =>
    let thickness ← fillingThickness s
    assign r .thickness (Value.ofNumber thickness)
  | _ => throw .missingAttribute

/-! ### Unchecked attributes -/

/-- Replaces a ready-made instruction; what does not count as true removes it. -/
def setInstruction (r : Ref) (v : Value) : Action Unit := do
  let d ← directory
  match (← component r).kind with
  | .raw _ => modifyComponent r fun c => { c with instruction := v.orElse d (.text []) }
  | _ => throw .missingAttribute

/-- Changes the barcode that a component is. -/
def modifyBarcode (r : Ref) (f : Barcode → Barcode) : Action Unit := do
  match (← component r).kind with
  | .barcode b => modifyComponent r fun c => { c with kind := .barcode (f b) }
  | _ => throw .missingAttribute

/-- Changes the line of text that a component is. -/
def modifyLine (r : Ref) (f : TextLine → TextLine) : Action Unit := do
  match (← component r).kind with
  | .text line => modifyComponent r fun c => { c with kind := .text (f line) }
  | _ => throw .missingAttribute

end Zpl.Edit
