import Zpl.Store.Method.Object

/-!
# Making objects of a named kind

Components are made from a recipe, of which the position, the canvas and the identifier are given by
name. Labels, backends and printers are made from a few values. Some kinds only stand for what
others have in common, and nothing of them can be made.

## Main definitions

* `Action.construct` — makes an object of a named kind.
-/

namespace Zpl.Action

/-- The parameters that all components are made with. -/
def commonParameters : List Parameter :=
  [{ name := "id", default? := some (.text []), giving := .byName },
    { name := "x", default? := some (.int 0), giving := .byName },
    { name := "y", default? := some (.int 0), giving := .byName },
    { name := "label_width", default? := some (.int 0), giving := .byName },
    { name := "label_height", default? := some (.int 0), giving := .byName }]

/-- An optional parameter given by name only. -/
def option (name : String) (v : Value) : Parameter :=
  { name := name, default? := some v, giving := .byName }

def shapeParameters : List Parameter :=
  [option "width" (.int 0), option "height" (.int 0), option "thickness" (.int 1),
    option "color" (.text (Zpl.token Color.black))]

/-- The parameters of a kind of component apart from the common ones, and the ingredients that
their values are. -/
def ingredients? : String → Option (List Parameter × (List Value → Option Ingredients))
  | "RawInstruction" =>
    some ([{ name := "instruction", default? := some (.text []) }], fun
      | [instruction] => some (.raw instruction)
      | _ => none)
  | "Text" =>
    some ([{ name := "text", default? := some (.text []) }, option "font_size" (.int 30),
        option "special_character_support" (.bool true)], fun
      | [content, fontSize, hexEscapes] => some (.text content fontSize hexEscapes)
      | _ => none)
  | "Barcode" =>
    some ([{ name := "data", default? := some (.text []) }, option "module_width" (.int 3),
        option "bar_height" (.int 60), option "text_placement" (.int 0),
        option "check_digit" (.bool false), option "mode" (.text (Zpl.token BarcodeMode.plain)),
        option "orientation" (.text (Zpl.token Orientation.normal))], fun
      | [data, moduleWidth, barHeight, placement, checkDigit, mode, orientation] =>
        some (.barcode data moduleWidth barHeight placement checkDigit mode orientation)
      | _ => none)
  | "Rectangle" =>
    some (shapeParameters ++ [option "corner_radius" (.int 0)], fun
      | [width, height, thickness, color, radius] =>
        some (.rectangle width height thickness color radius)
      | _ => none)
  | "Ellipse" =>
    some (shapeParameters, fun
      | [width, height, thickness, color] => some (.ellipse width height thickness color)
      | _ => none)
  | "DiagonalLine" =>
    some (shapeParameters ++ [option "orientation" (.text (Zpl.token Slant.right))], fun
      | [width, height, thickness, color, slant] =>
        some (.diagonal width height thickness color slant)
      | _ => none)
  | _ => none

/-- Makes a component from the values of a call. -/
def makeComponent (parameters : List Parameter) (ingredients : List Value → Option Ingredients)
    (heard : Bool) (call : Call) : Action Value := do
  let signature : Signature := { parameters := parameters ++ commonParameters }
  let values ← signature.bind call
  let listener ← if heard then pure (.object (← add .handler)) else pure .none
  match ingredients (values.take parameters.length), values.drop parameters.length with
  | some ingredients, [id, x, y, labelWidth, labelHeight] =>
    let recipe : Recipe := {
      id := id
      x := x
      y := y
      labelWidth := labelWidth
      labelHeight := labelHeight
      listener := listener
      ingredients := ingredients }
    return .object (← create recipe)
  | _, _ => throw .wrongType

/-- A new backend as an object. -/
def placed (b : Backend) : Action Value := do
  return .object (← add (.backend (← distinctBackend b)))

/-- Makes a backend or a printer of a named kind; nothing of another kind can be made. -/
def makeDevice (kind : String) (call : Call) : Action Value := do
  match kind with
  | "BaseBackend" =>
    let _ ← Signature.bind {} call
    placed .base
  | "DryRunBackend" =>
    let _ ← Signature.bind {} call
    let record ← add (.content (.list []))
    placed (.dryRun (.object record))
  | "NetworkBackend" =>
    let signature : Signature := { parameters := [{ name := "host" },
      { name := "port", default? := some (.int Backend.defaultPort) },
      { name := "timeout", default? := some (.float Backend.defaultTimeout) }] }
    match ← signature.bind call with
    | [host, port, timeout] =>
      placed (← Backend.ofNetwork host port timeout)
    | _ => throw .wrongType
  | "SerialBackend" =>
    let signature : Signature := { parameters := [{ name := "device" },
      { name := "baudrate", default? := some (.int Backend.defaultBaudrate) },
      { name := "timeout", default? := some (.float Backend.defaultSerialTimeout) }] }
    match ← signature.bind call with
    | [device, baudrate, timeout] =>
      placed (← Backend.ofSerial device baudrate timeout)
    | _ => throw .wrongType
  | "USBBackend" =>
    let signature : Signature := { parameters := [{ name := "product_id" },
      { name := "vendor_id", default? := some (.int Backend.defaultVendor) },
      { name := "endpoint", default? := some .none }] }
    match ← signature.bind call with
    | [product, vendor, endpoint] =>
      placed (← Backend.ofUsb product vendor endpoint)
    | _ => throw .wrongType
  | "ZplPrinter" =>
    match ← (Signature.required ["backend"]).bind call with
    | [backend] => return .object (← add (.printer backend))
    | _ => throw .wrongType
  | _ => throw .wrongType

/-- Makes an object of a named kind; `heard` says whether a warning handler listens to it. -/
def construct (kind : String) (heard : Bool) (call : Call) : Action Value := do
  match ingredients? kind with
  | some (parameters, ingredients) => makeComponent parameters ingredients heard call
  | none => if kind = "Label" then Label.make call else makeDevice kind call

end Zpl.Action
