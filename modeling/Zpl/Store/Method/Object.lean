import Zpl.Store.Method.Basic
import Zpl.Store.Setup
import Zpl.Store.Template

/-!
# Methods of objects

The methods of components, labels, backends and printers. A kind of component shares most of its
methods with all components and defines others anew, which its name in a diagnostic tells.

## Main definitions

* `Component.methods`, `Label.methods`, `Backend.methods`, `Printer.methods`.
* `Kind.definer` — the kind of object that defines a method.
-/

namespace Zpl

/-! ### Components -/

namespace Component

/-- A method that sets a validated attribute. -/
def assigning (name parameter : String) (a : Attribute) : Method Ref :=
  .taking name parameter fun r v => Edit.assign r a v

def canvasMethods : List (Method Ref) :=
  [.procedure "set_label_size" (.required ["label_width", "label_height"]) fun r vs =>
      match vs with
      | [width, height] => Edit.setLabelSize r width height
      | _ => throw .wrongType,
    .query "get_label_width" fun r => return (← Action.component r).labelWidth,
    .query "get_label_height" fun r => return (← Action.component r).labelHeight]

def marginsSignature : Signature :=
  { parameters := [{ name := "left" }, { name := "top", default? := some .none },
      { name := "right", default? := some .none }, { name := "bottom", default? := some .none }] }

def layoutMethods : List (Method Ref) :=
  [.taking "set_alignment" "alignment" Edit.setAlignment,
    .taking "set_margin_left" "margin_left" Edit.setMarginLeft,
    .taking "set_margin_top" "margin_top" Edit.setMarginTop,
    .taking "set_margin_right" "margin_right" Edit.setMarginRight,
    .taking "set_margin_bottom" "margin_bottom" Edit.setMarginBottom,
    .procedure "set_margins" marginsSignature fun r vs =>
      match vs with
      | [left, top, right, bottom] => Edit.setMargins r left top right bottom
      | _ => throw .wrongType,
    .taking "below_of" "other" Edit.stackBelow]

def instructionMethods : List (Method Ref) :=
  [.procedure "generate_instruction" {} fun r _ => Action.generate r,
    .query "get_instruction" fun r => return (← Action.component r).instruction]

def rawMethods : List (Method Ref) :=
  [.taking "set_instruction" "instruction" Edit.setInstruction]

def textMethods : List (Method Ref) :=
  [assigning "set_text" "text" .content,
    assigning "set_font_size" "font_size" .fontSize,
    .taking "set_special_character_support" "enabled" fun r v => do
      let enabled := v.truth (← Action.directory)
      Edit.modifyLine r fun line => { line with hexEscapes := .bool enabled }]

def barcodeMethods : List (Method Ref) :=
  [.taking "set_data" "data" fun r v => do
      let data := v.orElse (← Action.directory) (.text [])
      Edit.modifyBarcode r fun b => { b with data := data },
    assigning "set_module_width" "module_width" .moduleWidth,
    assigning "set_bar_height" "bar_height" .barHeight,
    assigning "set_text_placement" "text_placement" .placement,
    .taking "set_check_digit" "enabled" fun r v => do
      let enabled := v.truth (← Action.directory)
      Edit.modifyBarcode r fun b => { b with checkDigit := .bool enabled },
    assigning "set_mode" "mode" .mode,
    assigning "set_orientation" "orientation" .orientation,
    .query "get_barcode_length" Edit.barcodeLength,
    { name := "apply_background"
      signature := .required ["color", "padding_x", "padding_y"]
      run := fun r vs =>
        match vs with
        | [color, x, y] => Action.applyBackground r color x y
        | _ => throw .wrongType },
    .procedure "remove_background" {} fun r _ =>
      Edit.modifyBarcode r fun b => { b with background := .none }]

def shapeMethods : List (Method Ref) :=
  [assigning "set_width" "width" .width,
    assigning "set_height" "height" .height,
    assigning "set_thickness" "thickness" .thickness,
    assigning "set_color" "color" .color,
    .procedure "fill_background" {} fun r _ => Edit.fillBackground r]

def figureMethods : Figure → List (Method Ref)
  | .rectangle _ => [assigning "set_corner_radius" "corner_radius" .cornerRadius]
  | .ellipse => []
  | .diagonal _ => [assigning "set_orientation" "orientation" .slant]

def kindMethods : Kind → List (Method Ref)
  | .raw _ => rawMethods
  | .text _ => textMethods
  | .barcode _ => barcodeMethods
  | .shape s => shapeMethods ++ figureMethods s.figure

def methods (c : Component) : List (Method Ref) :=
  canvasMethods ++ layoutMethods ++ instructionMethods ++ kindMethods c.kind

end Component

namespace Figure

/-- The methods that a figure defines for itself. -/
def ownMethods : Figure → List String
  | .rectangle _ => ["set_corner_radius", "generate_instruction"]
  | .ellipse => ["set_margin_right", "set_margin_bottom", "generate_instruction"]
  | .diagonal _ => ["set_orientation", "generate_instruction"]

end Figure

namespace Kind

/-- The kinds that an object of a kind counts as, apart from the one of all components, with the
methods that they define: the most special first. -/
def definers (k : Kind) : List (String × List String) :=
  let own := (Component.kindMethods k).map (·.name)
  match k with
  | .raw _ => [(k.name, "generate_instruction" :: own)]
  | .text _ => [(k.name, "set_alignment" :: "generate_instruction" :: own)]
  | .barcode _ =>
    [(k.name, ["set_margin_right", "set_margin_bottom", "set_alignment", "generate_instruction"]
      ++ own)]
  | .shape s =>
    [(s.figure.name, s.figure.ownMethods),
      ("Shape", ["set_margin_right", "set_margin_bottom", "set_alignment"] ++ own)]

/-- The kind of object that defines a method. -/
def definer (k : Kind) (method : String) : String :=
  match k.definers.find? fun entry => entry.2.contains method with
  | some (name, _) => name
  | none => "Component"

end Kind

/-! ### Labels -/

namespace Label

def sizeSignature : Signature :=
  { parameters := [{ name := "width_inches", default? := some (.int defaultWidthInches) },
      { name := "height_inches", default? := some (.int defaultHeightInches) },
      { name := "dpi", default? := some (.int defaultDpi) }] }

def dotsSignature : Signature :=
  { parameters := [{ name := "width" }, { name := "height" },
      { name := "dpi", default? := some (.int defaultDpi) }] }

/-- Makes an empty label of a size in dots. -/
def makeFromDots (call : Call) : Action Value := do
  match ← dotsSignature.bind call with
  | [width, height, dpi] =>
    let l ← ofDots width height dpi
    return .object (← Action.add (.label l))
  | _ => throw .wrongType

/-- Makes an empty label of a size in inches. -/
def make (call : Call) : Action Value := do
  match ← sizeSignature.bind call with
  | [width, height, dpi] =>
    let l ← ofInches (← Action.capacity) (← Action.directory) width height dpi
    return .object (← Action.add (.label l))
  | _ => throw .wrongType

/-- Adds whatever a value hands out to a label. -/
def extend (r : Ref) (v : Value) : Action Unit := do
  let vs ← Action.elements v
  Action.dispatchUnit r "add_all_components" vs (Action.addComponents r vs)

def methods : List (Method Ref) :=
  [.query "get_label_width" fun r => return (← Action.label r).labelWidth,
    .query "get_label_height" fun r => return (← Action.label r).labelHeight,
    .taking "add_component" "component" Action.addComponent,
    .procedure "add_all_components" { gathers := true } fun r vs =>
      match vs with
      | [.list vs] => Action.addComponents r vs
      | _ => throw .wrongType,
    .taking "extend" "components" extend,
    .asking "get_component" (.required ["component_id"]) Action.findComponent,
    .asking "remove_component" (.required ["component"]) fun r v =>
      return .bool (← Action.removeComponent r v),
    .procedure "clear" {} fun r _ => Action.clear r,
    .query "get_label_code" fun r => return .text (← Action.code r),
    .query "to_zpl" fun r => return .text (← Action.document r),
    { name := "from_dots"
      signature := dotsSignature
      isShared := true
      run := fun _ vs => makeFromDots { inRow := vs } }]

end Label

/-! ### Backends and printers -/

namespace Backend

def methods : List (Method Ref) :=
  [.query "describe" fun r => return .text (← Action.describeBackend r),
    .procedure "send" (.required ["data"]) fun r vs =>
      match vs with
      | [v] => Action.deliverTo r v
      | _ => throw .wrongType]

end Backend

namespace Printer

def printSignature : Signature :=
  { parameters := [{ name := "document" }, { name := "copies", default? := some (.int 1) }] }

/-- A method that has a printer carry out one command. -/
def commanding (name : String) (command : ControlCommand) : Method Ref :=
  .procedure name {} fun r _ =>
    Action.dispatchUnit r "control" [.text command.name]
      (Action.control r (.text command.name))

def methods : List (Method Ref) :=
  [.procedure "print_label" printSignature fun r vs =>
      match vs with
      | [v, copies] => Action.printLabel r v copies
      | _ => throw .wrongType,
    .procedure "control" (.required ["action"]) fun r vs =>
      match vs with
      | [v] => Action.control r v
      | _ => throw .wrongType,
    commanding "calibrate" .calibrate,
    commanding "cancel_all" .cancel,
    commanding "print_configuration" .config,
    { name := "from_config"
      signature := .required ["cfg"]
      isShared := true
      run := fun _ vs => do
        match vs with
        | [settings] => return .object (← Action.makePrinter settings)
        | _ => throw .wrongType }]

end Printer

end Zpl
