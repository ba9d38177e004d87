import Zpl.CommandLine.Grammar
import Zpl.Print.Settings
import Zpl.Store.Printing

/-!
# The options of the program

The first operand names a command: one of the templates, or a control command for the printer.
Switches before it are about logging; what may follow depends on the command.

## Main definitions

* `Invocation` — what a command line asks for.
* `Invocation.ofWords` — reads a command line.
-/

namespace Zpl.CommandLine

/-! ### Grammars -/

/-- The name of the program in diagnostics. -/
def programName : String := "zpl-designer"

def helpSwitch : Switch := { spellings := ["-h", "--help"], key := helpKey }

/-- The operand that names a command. What follows it is the command's own. -/
def commandOperand : Operand :=
  { key := "command"
    choices := ["template1", "template2", "control"]
    takesRest := true }

/-- The line up to the command. -/
def mainGrammar : Grammar :=
  { switches :=
      [helpSwitch, { spellings := ["-v", "--verbose"], key := "verbose" },
        { spellings := ["-q", "--quiet"], key := "quiet" }]
    operands := [commandOperand] }

/-- Switches about the printer. -/
def printerSwitches : List Switch :=
  [{ spellings := ["--interface"], key := "interface", argument? := some .text,
      choices := Settings.interfaces },
    { spellings := ["--host"], key := "host", argument? := some .text },
    { spellings := ["--port"], key := "port", argument? := some .integer },
    { spellings := ["--device"], key := "device", argument? := some .text },
    { spellings := ["--baudrate"], key := "baudrate", argument? := some .integer },
    { spellings := ["--usb-vid"], key := "usb_vid", argument? := some .text },
    { spellings := ["--usb-pid"], key := "usb_pid", argument? := some .text },
    { spellings := ["--dry-run"], key := "dry_run" }]

/-- Switches about a label and where it goes. -/
def labelSwitches : List Switch :=
  [{ spellings := ["--width"], key := "width", argument? := some .decimal },
    { spellings := ["--height"], key := "height", argument? := some .decimal },
    { spellings := ["--dpi"], key := "dpi", argument? := some .integer },
    { spellings := ["-o", "--output"], key := "output", argument? := some .text },
    { spellings := ["--no-document"], key := "no_document" },
    { spellings := ["--send"], key := "send" },
    { spellings := ["-c", "--copies"], key := "copies", argument? := some .integer }]

def centerSwitch : Switch := { spellings := ["--center"], key := "center" }

def operandsNamed (keys : List String) : List Operand := keys.map fun key => { key := key }

def twoLinesGrammar : Grammar :=
  { switches := helpSwitch :: printerSwitches ++ labelSwitches ++ [centerSwitch]
    operands := operandsNamed ["title", "subtitle", "barcode"] }

def threeLinesGrammar : Grammar :=
  { switches := helpSwitch :: printerSwitches ++ labelSwitches
    operands := operandsNamed ["title", "subtitle", "info", "barcode"] }

def controlGrammar : Grammar :=
  { switches := helpSwitch :: printerSwitches
    operands := [{ key := "action", choices := ControlCommand.all.map ControlCommand.name }] }

/-! ### Invocations -/

/-- A layout with its texts. -/
inductive Layout where
  | twoLines (centered : Bool) (title subtitle barcode : Value)
  | threeLines (title subtitle information barcode : Value)
  deriving Repr

/-- The size in inches of a layout's label if none is asked for. -/
def Layout.defaultSize : Layout → Int × Int
  | .twoLines .. => (2, 1)
  | .threeLines .. => (3, 2)

/-- A label that is asked for, and where it goes. -/
structure LabelRequest where
  layout : Layout
  width : Value
  height : Value
  dpi : Value
  output? : Option Text
  /-- Whether the label is written as a complete document. -/
  framed : Bool
  sent : Bool
  copies : Value
  deriving Repr

inductive Task where
  | label (request : LabelRequest)
  | control (action : Value)
  deriving Repr

/-- What a command line asks for. -/
structure Invocation where
  verbose : Bool
  quiet : Bool
  /-- The settings of the printer. -/
  settings : Value
  task : Task
  deriving Repr

/-- Values by key, the latest first. -/
abbrev Values := List (String × Value)

namespace Values

def isSet (vs : Values) (key : String) : Bool := (vs.lookup key).isSome

def getD (vs : Values) (key : String) (default : Value) : Value := (vs.lookup key).getD default

end Values

/-- The settings of the printer that the switches give; what they leave out is not among them. -/
def printerSettings (host : Value) (vs : Values) : Value :=
  if vs.isSet "dry_run" then .record ["interface"] ["dry_run"]
  else
    let given : List (String × Value) :=
      [("interface", vs.getD "interface" .none), ("host", vs.getD "host" host),
        ("port", vs.getD "port" .none), ("device", vs.getD "device" .none),
        ("baudrate", vs.getD "baudrate" .none), ("usb_vid", vs.getD "usb_vid" .none),
        ("usb_pid", vs.getD "usb_pid" .none)]
    let kept := given.filter fun (_, v) =>
      match v with
      | .none => false
      | _ => true
    .ofFields (kept.map fun (key, v) => (Text.ofString key, v))

/-- The label that the switches ask for. -/
def labelRequest (layout : Layout) (vs : Values) : LabelRequest :=
  { layout := layout
    width := vs.getD "width" (.int layout.defaultSize.1)
    height := vs.getD "height" (.int layout.defaultSize.2)
    dpi := vs.getD "dpi" (.int Label.defaultDpi)
    output? :=
      match vs.lookup "output" with
      | some (.text name) => some name
      | _ => none
    framed := !vs.isSet "no_document"
    sent := vs.isSet "send"
    copies := vs.getD "copies" (.int 1) }

/-- The grammar of a command. -/
def commandGrammar (command : Text) : Grammar :=
  if command = Text.ofString "template1" then twoLinesGrammar
  else if command = Text.ofString "template2" then threeLinesGrammar
  else controlGrammar

/-- The task that a command and its values ask for. -/
def taskOf (command : Text) (vs : Values) : Task :=
  if command = Text.ofString "template1" then
    .label (labelRequest (.twoLines (vs.isSet "center") (vs.getD "title" .none)
      (vs.getD "subtitle" .none) (vs.getD "barcode" .none)) vs)
  else if command = Text.ofString "template2" then
    .label (labelRequest (.threeLines (vs.getD "title" .none) (vs.getD "subtitle" .none)
      (vs.getD "info" .none) (vs.getD "barcode" .none)) vs)
  else .control (vs.getD "action" .none)

/-- Why there is no invocation. -/
inductive Refusal where
  /-- What is wrong, after the name of the program or command that says so. -/
  | usage (message : Text)
  | help
  deriving DecidableEq, Repr

/-- A refusal in the name of a program or command. -/
def Refusal.ofStop (speaker : Text) : Stop → Refusal
  | .refused message => .usage (speaker ++ ": error: " ++ message)
  | .help => .help

/-- Carries out a step of reading in the name of a program or command. -/
def speaking {α : Type} (speaker : Text) : Except Stop α → Except Refusal α
  | .ok a => .ok a
  | .error stop => .error (.ofStop speaker stop)

/-- The words of the operand that takes the rest of a line. -/
def wordsOf : Value → List Text
  | .list vs => vs.filterMap fun
    | .text word => some word
    | _ => none
  | _ => []

namespace Invocation

/-- Reads a command line. `host` is the printer's host if no switch gives one. -/
def ofWords (host : Value) (words : List Text) : Except Refusal Invocation := do
  let (outer, leftOutside) ← speaking programName (mainGrammar.parse words)
  match wordsOf (Values.getD outer "command" .none) with
  | [] => throw .help
  | command :: rest =>
    let (inner, leftInside) ←
      speaking (programName ++ " " ++ command) ((commandGrammar command).parse rest)
    let leftOver := leftOutside ++ leftInside
    if leftOver.isEmpty then
      return {
        verbose := Values.isSet outer "verbose"
        quiet := Values.isSet outer "quiet"
        settings := printerSettings host inner
        task := taskOf command inner }
    else
      throw (.ofStop programName
        (.refused ("unrecognized arguments: " ++ Text.join " " leftOver)))

end Invocation

end Zpl.CommandLine
