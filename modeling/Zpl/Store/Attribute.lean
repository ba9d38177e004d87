import Zpl.Store.Edit

/-!
# Writing attributes

Some attributes are computed and cannot be written; some are validated; others are stored as given.
An attribute that an object does not have is attached to it when it is written, if it is a
component, a label, a backend or a printer.

## Main definitions

* `Thing.store?` — an object with an attribute stored as given.
* `Action.write` — sets an attribute.
-/

namespace Zpl

/-- The validated attribute that a kind of component has under a name. -/
def Kind.validated? (k : Kind) (name : String) : Option Attribute :=
  match k, name with
  | .raw _, "component_size" => some .size
  | .text _, "text" => some .content
  | .text _, "font_size" => some .fontSize
  | .barcode _, "module_width" => some .moduleWidth
  | .barcode _, "bar_height" => some .barHeight
  | .barcode _, "text_placement" => some .placement
  | .barcode _, "mode" => some .mode
  | .barcode _, "orientation" => some .orientation
  | .shape _, "width" => some .width
  | .shape _, "height" => some .height
  | .shape _, "thickness" => some .thickness
  | .shape _, "color" => some .color
  | .shape { figure := .rectangle _, .. }, "corner_radius" => some .cornerRadius
  | .shape { figure := .diagonal _, .. }, "orientation" => some .slant
  | _, _ => none

/-- A component with an attribute stored as given, if it has such an attribute. -/
def Component.store? (c : Component) (name : String) (v : Value) : Option Component :=
  match name, c.kind with
  | "id", _ => some { c with id := v }
  | "x", _ => some { c with x := v }
  | "y", _ => some { c with y := v }
  | "label_width", _ => some { c with labelWidth := v }
  | "label_height", _ => some { c with labelHeight := v }
  | "alignment", _ => some { c with alignment := v }
  | "special_character_support", .text line =>
    some { c with kind := .text { line with hexEscapes := v } }
  | "data", .barcode b => some { c with kind := .barcode { b with data := v } }
  | "check_digit", .barcode b => some { c with kind := .barcode { b with checkDigit := v } }
  | "background", .barcode b => some { c with kind := .barcode { b with background := v } }
  | "warning_handler", _ => some { c with listener := v }
  | _, _ => none

/-- A label with an attribute stored as given, if it has such an attribute. -/
def Label.store? (l : Label) (name : String) (v : Value) : Option Label :=
  match name with
  | "dpi" => some { l with dpi := v }
  | "label_width" => some { l with labelWidth := v }
  | "label_height" => some { l with labelHeight := v }
  | _ => none

/-- A backend with an attribute stored as given, if it has such an attribute. -/
def Backend.store? (b : Backend) (name : String) (v : Value) : Option Backend :=
  match b, name with
  | .network _ port timeout, "host" => some (.network v port timeout)
  | .network host _ timeout, "port" => some (.network host v timeout)
  | .network host port _, "timeout" => some (.network host port v)
  | .serial _ baudrate timeout, "device" => some (.serial v baudrate timeout)
  | .serial device _ timeout, "baudrate" => some (.serial device v timeout)
  | .serial device baudrate _, "timeout" => some (.serial device baudrate v)
  | .usb _ product endpoint, "vendor_id" => some (.usb v product endpoint)
  | .usb vendor _ endpoint, "product_id" => some (.usb vendor v endpoint)
  | .usb vendor product _, "endpoint" => some (.usb vendor product v)
  | .dryRun _, "sent_chunks" => some (.dryRun v)
  | _, _ => none

/-- An object with an attribute stored as given, if it has such an attribute. -/
def Thing.store? (t : Thing) (name : String) (v : Value) : Option Thing :=
  match t with
  | .component c => (c.store? name v).map .component
  | .label l => (l.store? name v).map .label
  | .backend b => (b.store? name v).map .backend
  | .printer _ => if name = "backend" then some (.printer v) else none
  | _ => none

namespace Action

/-- The validated attribute of a component under a name. -/
def validated? (t : Thing) (name : String) : Option Attribute :=
  match t with
  | .component c => c.kind.validated? name
  | _ => none

/-- Whether callers may attach attributes to an object. -/
def isOpen : Thing → Bool
  | .component _ | .label _ | .backend _ | .printer _ => true
  | _ => false

/-- Attaches an attribute to an object that has none of the name of its own. -/
def attach (r : Ref) (name : String) (v : Value) : Action Unit :=
  modify fun s => { s with attached := ((r, name), v) :: s.attached }

/-- Sets an attribute. One that is computed and not stored refuses to be set. -/
def write (r : Ref) (name : String) (v : Value) : Action Unit := do
  let t ← thing r
  match validated? t name, t.store? name v with
  | some a, _ => Edit.assign r a v
  | none, some t => put r t
  | none, none =>
    if ((t.fields (← directory)).lookup name).isNone && isOpen t then attach r name v
    else throw .missingAttribute

/-- Sets an attribute of a value; only objects have any. -/
def writeTo (v : Value) (name : String) (w : Value) : Action Unit :=
  match v with
  | .object r => write r name w
  | _ => throw .missingAttribute

end Action

end Zpl
