import Zpl.Script.Run

/-!
# Functions and constants by name

A few rules of the library can be called by name, outside of any object, and the choices that
attributes offer can be listed.

## Main definitions

* `Function.call` — calls a rule by name.
* `Constants.answer` — the choices, by class and name.
-/

namespace Zpl

namespace Function

/-- Division rounding toward zero. -/
def truncDiv (v w : Value) : Except Fault Value := do
  let a ← v.toNumber
  let b ← w.toNumber
  let q ← liftArithmetic (a.truncDiv b)
  return Value.ofNumber q

/-- The parameters of a rule. -/
def signature? : String → Option Signature
  | "trunc_div" => some (.required ["value", "divisor"])
  | "is_number" => some (.required ["value"])
  | "normalize_token" => some (.required ["value"])
  | "code128_length" => some (.required ["data", "module_width"])
  | "int_or_hex" => some (.required ["value"])
  | _ => none

/-- Applies a rule to the values of its parameters. -/
def apply (name : String) (values : List Value) : Action Value := do
  match name, values with
  | "trunc_div", [v, w] => truncDiv v w
  | "is_number", [v] => return .bool v.isNumber
  | "normalize_token", [v] => return .text (← Action.token v)
  | "code128_length", [data, moduleWidth] => 
    symbolLength (← Action.capacity) (← Action.directory) data moduleWidth
  | "int_or_hex", [v] => return .int (← Settings.identifier v)
  | _, _ => throw .wrongType

/-- Calls a rule by name. -/
def call (name : String) (inRow : List Literal) : Action Answer := do
  let some signature := signature? name | throw .missingAttribute
  let values ← Literal.values [] inRow
  let v ← apply name (← signature.bind { inRow := values })
  Answer.ofValue (← get) [] v

/-- What a rule answers. -/
def answer (name : String) (inRow : List Literal) : Except Fault Answer :=
  ((call name inRow).attempt {} {}).1

end Function

namespace Constants

/-- A named choice. -/
abbrev Entry := String × Value

/-- Named choices, and all of them in a row. -/
def withAll (entries : List Entry) : List (String × Answer) :=
  entries.map (fun (name, v) => (name, .value v))
    ++ [("ALL", .items (entries.map fun (_, v) => .value v))]

def plain (entries : List Entry) : List (String × Answer) :=
  entries.map fun (name, v) => (name, .value v)

def tokenOf {α : Type} [Tokened α] (a : α) : Value := .text (token a)

def texts (names : List String) : Answer := .items (names.map fun (name : String) => .value name)

/-- The choices, by class and name. -/
def answer : Answer :=
  Answer.ofEntries
    [("Orientation", Answer.ofEntries (withAll
        [("NORMAL", tokenOf Orientation.normal), ("ROTATED", tokenOf Orientation.rotated),
          ("INVERTED", tokenOf Orientation.inverted),
          ("BOTTOM_UP", tokenOf Orientation.bottomUp)])),
      ("Color", Answer.ofEntries (withAll
        [("BLACK", tokenOf Color.black), ("WHITE", tokenOf Color.white)])),
      ("DiagonalLineOrientation", Answer.ofEntries (withAll
        [("RIGHT", tokenOf Slant.right), ("LEFT", tokenOf Slant.left)])),
      ("FontStyle", Answer.ofEntries (plain
        [("SMALL", .int 30), ("NORMAL", .int 40), ("LARGE", .int 50), ("XLARGE", .int 70),
          ("XXLARGE", .int 90)])),
      ("LabelSize", Answer.ofEntries (plain
        [("DEFAULT_WIDTH_INCHES", .int Label.defaultWidthInches),
          ("DEFAULT_HEIGHT_INCHES", .int Label.defaultHeightInches), ("DPMM_6", .int 152),
          ("DPMM_8", .int 203), ("DPMM_12", .int 305), ("DPMM_24", .int 610)])),
      ("BarcodeMode", Answer.ofEntries (withAll
        [("NO_MODE", tokenOf BarcodeMode.plain), ("UCC_CASE_MODE", tokenOf BarcodeMode.uccCase),
          ("AUTOMATIC_MODE", tokenOf BarcodeMode.automatic),
          ("NEW_MODE", tokenOf BarcodeMode.new)])),
      ("BarcodeTextPlacement", Answer.ofEntries (withAll
        [("NO_TEXT", .int TextPlacement.hidden.number),
          ("TEXT_ABOVE", .int TextPlacement.above.number),
          ("TEXT_BELOW", .int TextPlacement.below.number)])),
      ("ALIGNMENTS", .items ((Tokened.all (α := Alignment)).map fun a => .value (tokenOf a))),
      ("TEMPLATES", texts ["template1", "template2"]),
      ("CONTROL_COMMANDS", Answer.ofEntries (plain
        (ControlCommand.all.map fun c => (c.name, .text c.text)))),
      ("INTERFACES", texts Settings.interfaces)]

end Constants

end Zpl
