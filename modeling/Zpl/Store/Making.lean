import Zpl.Store.Edit

/-!
# Making components

A recipe lists what a component is made from. Positions and canvas become integers at once; the
other values are then assigned one by one, each with its warning, on top of the defaults. Making
fails where one of these steps does, and the warnings up to there have been issued.

A background is made from the barcode that it lies behind: a filled rectangle, the box of the
barcode grown by a padding on each side. It is a snapshot: the barcode may move on without it.

## Main definitions

* `Recipe` — the common values and those of one kind.
* `Action.create` — makes the component of a recipe.
* `Action.applyBackground` — gives a barcode a background.
-/

namespace Zpl

/-- The values of one kind that a component is made from. -/
inductive Ingredients where
  | raw (instruction : Value)
  | text (content fontSize hexEscapes : Value)
  | barcode (data moduleWidth barHeight placement checkDigit mode orientation : Value)
  | rectangle (width height thickness color cornerRadius : Value)
  | ellipse (width height thickness color : Value)
  | diagonal (width height thickness color slant : Value)
  deriving Repr

/-- The values that a component is made from. -/
structure Recipe where
  id : Value := .text []
  x : Value := .int 0
  y : Value := .int 0
  labelWidth : Value := .int 0
  labelHeight : Value := .int 0
  listener : Value := .none
  ingredients : Ingredients
  deriving Repr

namespace Ingredients

/-- The kind that assigning starts from. -/
def initialKind (d : Directory) : Ingredients → Kind
  | .raw _ => .raw 0
  | .text _ _ hexEscapes => .text { hexEscapes := .bool (hexEscapes.truth d) }
  | .barcode data _ _ _ checkDigit _ _ =>
    .barcode { data := data.orElse d (.text []), checkDigit := .bool (checkDigit.truth d) }
  | .rectangle .. => .shape { figure := .rectangle 0 }
  | .ellipse .. => .shape { figure := .ellipse }
  | .diagonal .. => .shape { figure := .diagonal .right }

/-- The assignments that make the component from its initial kind, in order. -/
def assignments : Ingredients → List (Attribute × Value)
  | .raw _ => []
  | .text content fontSize _ => [(.content, content), (.fontSize, fontSize)]
  | .barcode _ moduleWidth barHeight placement _ mode orientation =>
    [(.moduleWidth, moduleWidth), (.barHeight, barHeight), (.placement, placement),
      (.mode, mode), (.orientation, orientation)]
  | .rectangle width height thickness color cornerRadius =>
    [(.width, width), (.height, height), (.thickness, thickness), (.color, color),
      (.cornerRadius, cornerRadius)]
  | .ellipse width height thickness color =>
    [(.width, width), (.height, height), (.thickness, thickness), (.color, color)]
  | .diagonal width height thickness color slant =>
    [(.width, width), (.height, height), (.thickness, thickness), (.color, color),
      (.slant, slant)]

/-- A ready-made instruction is taken over if it counts as true. -/
def instruction (d : Directory) : Ingredients → Value
  | .raw instruction => instruction.orElse d (.text [])
  | _ => .text []

end Ingredients

/-- The component of a recipe before anything is assigned. -/
def Recipe.blank (d : Directory) (r : Recipe) : Except Fault Component := do
  let x ← r.x.toInt
  let y ← r.y.toInt
  let labelWidth ← r.labelWidth.toInt
  let labelHeight ← r.labelHeight.toInt
  return {
    id := r.id
    x := .int x
    y := .int y
    labelWidth := .int labelWidth
    labelHeight := .int labelHeight
    listener := r.listener
    instruction := r.ingredients.instruction d
    kind := r.ingredients.initialKind d }

namespace Action

/-- Makes the component of a recipe. -/
def create (recipe : Recipe) : Action Ref := do
  let c ← recipe.blank (← directory)
  let r ← add (.component c)
  recipe.ingredients.assignments.forM fun (a, v) => Edit.assign r a v
  return r

/-! ### Backgrounds -/

/-- A padding; there is none below zero. -/
def padding (v : Value) : Except Fault Value := do
  let n ← v.toNumber
  return if n.isPositive then v else .int 0

/-- The color of a background: the one asked for if there is such a color, and otherwise white. -/
def maskColor (v : Value) : Action Value := do
  match choice? (α := Color) (← token v) with
  | some _ => return v
  | none => return .text (Zpl.token Color.white)

/-- An empty rectangle on the canvas of a component. -/
def emptyRectangle (c : Component) : Recipe :=
  { labelWidth := c.labelWidth
    labelHeight := c.labelHeight
    ingredients := .rectangle (.int 0) (.int 0) (.int 1) (.text (Zpl.token Color.black)) (.int 0) }

/-- A size grown by a padding on either side. -/
def grown (size paddingSize : Value) : Action Value := do Edit.add size (← Edit.twice paddingSize)

/-- Makes the background of a barcode as it stands. -/
def makeBackground (r : Ref) (c : Component) (b : Barcode) (color paddingX paddingY : Value) :
    Action Ref := do
  let paddingX ← padding paddingX
  let paddingY ← padding paddingY
  let color ← maskColor color
  let behind ← create (emptyRectangle c)
  let width ← grown (← Edit.printedLength r) paddingX
  Edit.assign behind .width width
  let height ← grown (.int b.footprint) paddingY
  Edit.assign behind .height height
  let x ← Edit.sub c.x paddingX
  modifyComponent behind fun rectangle => { rectangle with x := x }
  let y ← Edit.sub c.y paddingY
  modifyComponent behind fun rectangle => { rectangle with y := y }
  Edit.assign behind .color color
  Edit.fillBackground behind
  return behind

/-- Gives a barcode a background of its own. -/
def applyBackground (r : Ref) (color paddingX paddingY : Value) : Action Value := do
  let c ← component r
  match c.kind with
  | .barcode b =>
    let behind ← makeBackground r c b color paddingX paddingY
    Edit.modifyBarcode r fun b => { b with background := .object behind }
    return .object behind
  | _ => throw .missingAttribute

end Action

end Zpl
