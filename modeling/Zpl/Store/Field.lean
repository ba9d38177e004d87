import Zpl.Store.Basic
import Zpl.Text.Utf8

/-!
# Reading attributes

An object has attributes that are kept or computed, and may have others that callers attached to
it. Operations on several objects know the others by their attributes alone: whatever has a place
and a size can have a component below it, and whatever has a canvas can be put on a label.

What is attached under the name of a method is called instead of the method.

## Main definitions

* `Thing.fields` — the attributes of an object.
* `Action.read` — the value of an attribute.
* `Action.dispatch` — carries out a method of an object, or what was attached in its place.
-/

namespace Zpl

/-! ### Attributes of objects -/

/-- Attributes with their values; one that is computed may fail. -/
abbrev Fields := List (String × Except Fault Value)

namespace TextLine

def fields (line : TextLine) : Fields :=
  [("text", .ok (.text line.content)), ("font_size", .ok (.int line.fontSize)),
    ("special_character_support", .ok line.hexEscapes)]

end TextLine

namespace Barcode

def fields (b : Barcode) : Fields :=
  [("data", .ok b.data), ("module_width", .ok (.int b.moduleWidth)),
    ("bar_height", .ok (.int b.barHeight)), ("text_placement", .ok b.placementGiven),
    ("check_digit", .ok b.checkDigit), ("mode", .ok (.text (token b.mode))),
    ("orientation", .ok (.text (token b.orientation))), ("is_normal", .ok (.bool b.isNormal)),
    ("background", .ok b.background)]

end Barcode

namespace Shape

def fields (s : Shape) : Fields :=
  [("width", .ok (Value.ofNumber s.width)), ("height", .ok (Value.ofNumber s.height)),
    ("thickness", .ok (.int s.thickness)), ("color", .ok (.text (token s.color)))]
    ++ match s.figure with
      | .rectangle radius => [("corner_radius", .ok (.int radius))]
      | .ellipse => []
      | .diagonal slant => [("orientation", .ok (.text (token slant)))]

end Shape

namespace Kind

def fields : Kind → Fields
  | .raw _ => []
  | .text line => line.fields
  | .barcode b => b.fields
  | .shape s => s.fields

end Kind

namespace Component

def fields (c : Component) : Fields :=
  [("id", .ok c.id), ("x", .ok c.x), ("y", .ok c.y), ("label_width", .ok c.labelWidth),
    ("label_height", .ok c.labelHeight), ("alignment", .ok c.alignment),
    ("component_size", c.footprint.map Value.ofNumber), ("instruction", .ok c.instruction)]
    ++ c.kind.fields

end Component

namespace Label

def fields (l : Label) : Fields :=
  [("dpi", .ok l.dpi), ("label_width", .ok l.labelWidth), ("label_height", .ok l.labelHeight),
    ("is_valid", l.isValid.map .bool), ("components", .ok (.tuple (l.components.map .object)))]

end Label

namespace Backend

/-- The bytes of jobs in a row; only byte strings can be jobs. -/
def joined : List Value → Except Fault (List UInt8)
  | [] => .ok []
  | .bytes job :: rest => do
    let bytes ← joined rest
    return job ++ bytes
  | _ => .error .wrongType

/-- The text that a record says was sent. -/
def sentText (d : Directory) (sent : Value) : Except Fault Value := do
  let jobs ← sent.elements d
  let bytes ← joined jobs
  match Utf8.decode bytes with
  | .ok t => return .text t
  | .error fault => throw (.decoding fault)

/-- The length of what a record says was sent. -/
def sentLength (d : Directory) (sent : Value) : Except Fault Value := do
  let jobs ← sent.elements d
  let lengths ← jobs.mapM (Value.length d)
  return .int (lengths.foldl (· + ·) 0 : Nat)

/-- The attributes that the state of a backend shows. -/
def shownFields (d : Directory) : Backend → Fields
  | .base => []
  | .network host port timeout => [("host", .ok host), ("port", .ok port), ("timeout", .ok timeout)]
  | .serial device baudrate timeout =>
    [("device", .ok device), ("baudrate", .ok baudrate), ("timeout", .ok timeout)]
  | .usb vendor product endpoint =>
    [("vendor_id", .ok vendor), ("product_id", .ok product), ("endpoint", .ok endpoint)]
  | .dryRun sent => [("sent_chunks", .ok sent), ("total_bytes", sentLength d sent)]

/-- The size of the pieces in which a job goes to a USB device, if none is attached. -/
def chunkSize : Int := 16384

/-- The name of the attribute that holds the size of the pieces. -/
def chunkField : String := "CHUNK"

def fields (d : Directory) : Backend → Fields
  | .dryRun sent => shownFields d (.dryRun sent) ++ [("text", sentText d sent)]
  | b => b.shownFields d

/-- Attributes that all backends of a kind share, until a caller attaches one of the name. -/
def sharedFields : Backend → Fields
  | .usb .. => [(chunkField, .ok (.int chunkSize))]
  | _ => []

end Backend

namespace Thing

def fields (d : Directory) : Thing → Fields
  | .component c => c.fields ++ [("warning_handler", .ok c.listener)]
  | .label l => l.fields
  | .backend b => b.fields d
  | .printer way => [("backend", .ok way)]
  | _ => []

def sharedFields : Thing → Fields
  | .backend b => b.sharedFields
  | _ => []

end Thing

namespace Store

/-- The value of an attribute of an object, if the object has it. -/
def attribute? (s : Store) (r : Ref) (name : String) : Option (Except Fault Value) :=
  match s.thing? r with
  | none => none
  | some t =>
    match (t.fields s.directory).lookup name with
    | some v => some v
    | none =>
      match s.attached.lookup (r, name) with
      | some v => some (.ok v)
      | none => t.sharedFields.lookup name

end Store

/-! ### Reading -/

namespace Action

/-- The fault that a value lacks an attribute. -/
def lacking (v : Value) (name : String) : Action Fault :=
  return .lacksAttribute (v.kindName (← directory)) name

/-- The value of an attribute. -/
def read (v : Value) (name : String) : Action Value := do
  match v with
  | .object r =>
    match (← get).attribute? r name with
    | some v => v
    | none => throw (← lacking v name)
  | _ => throw (← lacking v name)

/-- The fault that a value cannot be called. -/
def uncallable (v : Value) : Action Fault := return .notCallable (v.kindName (← directory))

/-- What calling a name comes to for a value that has no method of it: what goes by the name, if
anything does, cannot be called. -/
def refuseCall {α : Type} (v : Value) (name : String) : Action α := do
  let found ← read v name
  throw (← uncallable found)

/-- Calls a value that stands in the place of a method. -/
def invoke (v : Value) (call : Call) : Action Value := fun around => around.invoke v call

/-- What goes by a name: an attribute, or else a method to be called later. -/
def fetch (v : Value) (name : String) : Action Value := fun around => around.fetch v name

/-- Calls what goes by a name. -/
def call (v : Value) (name : String) (call : Call) : Action Value :=
  fun around => around.call v name call

/-- Carries out a method of an object: what was attached under the name of the method if anything
was, and otherwise an operation of the object's own. -/
def dispatch (r : Ref) (name : String) (values : List Value) (own : Action Value) :
    Action Value := do
  match (← get).attached.lookup (r, name) with
  | some found => invoke found { inRow := values }
  | none => own

/-- Where nothing is attached, a method is an operation of the object's own. -/
theorem dispatch_of_unattached {s : Store} {r : Ref} {name : String}
    (h : s.attached.lookup (r, name) = none) (values : List Value) (own : Action Value)
    (around : Surroundings) : dispatch r name values own around s = own around s := by
  simp [dispatch, bind_apply, h]

/-- As `dispatch`, for a method without a result. -/
def dispatchUnit (r : Ref) (name : String) (values : List Value) (own : Action Unit) :
    Action Unit := do
  let _ ← dispatch r name values do
    own
    return .none

/-- Carries out a method of whatever is of a certain sort. -/
def dispatchOn {α : Type} (sort? : Store → Ref → Option α) (v : Value) (name : String)
    (values : List Value) (own : Ref → α → Action Value) : Action Value := do
  let .object r := v | refuseCall v name
  dispatch r name values do
    match sort? (← get) r with
    | some a => own r a
    | none => refuseCall v name

/-- As `dispatchOn`, for a method without a result. -/
def dispatchUnitOn {α : Type} (sort? : Store → Ref → Option α) (v : Value) (name : String)
    (values : List Value) (own : Ref → Action Unit) : Action Unit := do
  let _ ← dispatchOn sort? v name values fun r _ => do
    own r
    return .none

end Action

end Zpl
