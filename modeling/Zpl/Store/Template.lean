import Zpl.Store.Layout

/-!
# Templates

A template puts a ready-made layout on a label: texts, a barcode on a background, and a border
that runs behind the barcode. It adds its components to those that are there, and its result are
the instructions of the whole label. On a label without room to print it does nothing.

## Main definitions

* `Template.twoLines` — a title, a subtitle and a barcode.
* `Template.threeLines` — a large title over a divider, a subtitle, a line of information and a
  barcode.
-/

namespace Zpl.Template

open Zpl.Action

/-! ### Parts -/

/-- Whether a size in dots is zero or less. -/
def isUnprintable (size : Value) : Except Fault Bool := do
  let n ← size.toNumber
  return n.atMost 0

/-- Makes a text for a canvas. -/
def text (width height content : Value) (id : String) : Action Ref := do
  let r ← create { id := id, ingredients := .text content (.int 30) (.bool true) }
  Edit.setLabelSize r width height
  return r

/-- Makes a rectangle for a canvas. -/
def rectangle (width height : Value) (id : String) : Action Ref := do
  let r ← create {
    id := id
    ingredients := .rectangle (.int 0) (.int 0) (.int 1) (.text (Zpl.token Color.black)) (.int 0) }
  Edit.setLabelSize r width height
  return r

def align (r : Ref) (a : Alignment) : Action Unit := Edit.setAlignment r (.text (Zpl.token a))

def moveDown (r : Ref) (dots : Int) : Action Unit := Edit.setMarginTop r (.int dots)

/-- Centers a text in its block, or indents it. -/
def place (r : Ref) (centered : Bool) : Action Unit :=
  if centered then align r .center else Edit.setMarginLeft r (.int 40)

/-- Makes a barcode, centered twenty dots above the lower edge of a canvas, on a white
background. -/
def bottomBarcode (width height data : Value) (padding : Int) : Action Ref := do
  let r ← create {
    id := "barcode"
    ingredients := .barcode data (.int 3) (.int 60) (.int TextPlacement.hidden.number) (.bool false)
      (.text (Zpl.token BarcodeMode.plain)) (.text (Zpl.token Orientation.normal)) }
  Edit.setLabelSize r width height
  Edit.assign r .moduleWidth (.int 2)
  align r .bottom
  align r .center
  Edit.setMarginBottom r (.int 20)
  let _ ← applyBackground r (.text (Zpl.token Color.white)) (.int 10) (.int padding)
  return r

/-- Makes a border that fills a canvas but for its margins, with slightly rounded corners. -/
def border (width height : Value) (id : String) (thickness : Int) (bottom : Value) :
    Action Ref := do
  let r ← rectangle width height id
  Edit.assign r .width width
  Edit.assign r .height height
  Edit.assign r .thickness (.int thickness)
  Edit.setMargins r (.int 20) (.int 20) (.int 20) bottom
  Edit.assign r .cornerRadius (.int 1)
  return r

/-- The footprint of a component. -/
def footprint (r : Ref) : Action Number := do
  let c ← component r
  (c.footprint : Except Fault Number)

/-- Adds components to a label; the result are the instructions of the label. -/
def addTo (label : Value) (parts : List Ref) : Action Value := do
  let parts : List Value := parts.map .object
  dispatchUnitOn Store.label? label "add_all_components" parts fun r => addComponents r parts
  dispatchOn Store.label? label "get_label_code" [] fun r _ => return .text (← code r)

/-- Whether an object has a canvas of its own. -/
def canvas? (s : Store) (r : Ref) : Option Unit :=
  match s.thing? r with
  | some (.label _) | some (.component _) => some ()
  | _ => none

/-- One side of a canvas, asked of a label or a component. -/
def side (v : Value) (method field : String) : Action Value := do
  dispatchOn canvas? v method [] fun r _ => read (.object r) field

/-- Whether a canvas leaves no room to print. -/
def hasNoRoom (v : Value) : Action Bool := do
  if ← isUnprintable (← side v "get_label_width" "label_width") then return true
  else isUnprintable (← side v "get_label_height" "label_height")

/-- Whether there is a canvas with room to print. -/
def hasRoom : Value → Action Bool
  | .none => return false
  | v => return !(← hasNoRoom v)

/-- Carries out a layout on a canvas with room to print, and warns about any other. -/
def onCanvas (label : Value) (layout : (width height : Value) → Action Value) : Action Value := do
  if ← hasRoom label then
    let width ← read label "label_width"
    let height ← read label "label_height"
    layout width height
  else
    log .warning .template "Create a valid label first; returning empty label code"
    return .text []

/-! ### Layouts -/

/-- A title, a subtitle and a barcode, in a border. The texts are centered or indented. -/
def twoLines (label : Value) (centered : Value) (title subtitle data : Value) : Action Value :=
  onCanvas label fun width height => do
    let centered := centered.truth (← directory)
    let title ← text width height title "title"
    moveDown title 40
    place title centered
    let subtitle ← text width height subtitle "subtitle"
    Edit.stackBelow subtitle (.object title)
    Edit.assign subtitle .fontSize (.int 20)
    place subtitle centered
    let barcode ← bottomBarcode width height data 10
    let bottom ← Edit.sub (Value.ofNumber (← footprint barcode)) (.int 10)
    let border ← border width height "borderBox" 2 bottom
    addTo label [border, title, subtitle, barcode]

/-- A large title over a divider with a dot in its middle, a subtitle, a line of information, and
a barcode, in a border that the barcode crosses. -/
def threeLines (label : Value) (title subtitle information data : Value) : Action Value :=
  onCanvas label fun width height => do
    let title ← text width height title "title"
    moveDown title 50
    Edit.assign title .fontSize (.int 70)
    align title .center
    let line ← rectangle width height "line below title"
    Edit.assign line .width (.int 140)
    Edit.assign line .height (.int 4)
    Edit.stackBelow line (.object title)
    align line .center
    moveDown line 24
    Edit.fillBackground line
    let gap ← rectangle width height "center dot padding"
    Edit.assign gap .width (.int 36)
    Edit.assign gap .height (.int 8)
    moveDown gap 24
    Edit.stackBelow gap (.object title)
    align gap .center
    Edit.assign gap .color (.text (Zpl.token Color.white))
    Edit.fillBackground gap
    let dot ← create {
      id := "ellipse below title"
      labelWidth := width
      labelHeight := height
      ingredients := .ellipse (.int 0) (.int 0) (.int 1) (.text (Zpl.token Color.black)) }
    Edit.assign dot .width (.int 18)
    Edit.assign dot .height (.int 18)
    moveDown dot 17
    Edit.stackBelow dot (.object title)
    align dot .center
    Edit.fillBackground dot
    let subtitle ← text width height subtitle "subtitle"
    Edit.stackBelow subtitle (.object line)
    Edit.assign subtitle .fontSize (.int 40)
    moveDown subtitle 40
    align subtitle .center
    let information ← text width height information "info"
    Edit.stackBelow information (.object subtitle)
    Edit.assign information .fontSize (.int 30)
    align information .center
    let barcode ← bottomBarcode width height data 0
    let half ← liftArithmetic ((← footprint barcode).floorDiv 2)
    let bottom ← Edit.add (.int 20) (Value.ofNumber half)
    let bottom ← Edit.add bottom (.int (Int.fdiv 3 2))
    let border ← border width height "Border" 3 bottom
    addTo label [border, title, line, gap, dot, subtitle, information, barcode]

end Zpl.Template
