import Zpl.Signature
import Zpl.Value.Convert

/-!
# Incidents

An incident is told by the name of its class and some arguments. The class decides how the
arguments read as a text, and what the incident counts as. An error of the operating system that is
told by its number belongs to the class of that number. A name that is not known here is one of a
class right below that of all exceptions.

## Main definitions

* `IncidentClass.named` — the class of a name.
* `Incident.text` — an incident as one text.
* `Fault.told` — the fault that a name and a call tell of.
-/

namespace Zpl

namespace PrintStage

def all : List PrintStage := [.printing, .connection, .configuration, .job]

/-- The name under which a fault of printing is reported. -/
def name : PrintStage → String
  | .printing => "PrintError"
  | .connection => "PrinterConnectionError"
  | .configuration => "PrinterConfigError"
  | .job => "PrintJobError"

end PrintStage

namespace IncidentClass

/-- A class of errors of the operating system or of a link. -/
def link (name : String) (bases : List FaultClass := [.osError])
    (name_ne : name ≠ "" := by decide) : IncidentClass :=
  { name := name, bases := bases, wording := .system, name_ne := name_ne }

def encoding (name : String) (wording : Wording) (name_ne : name ≠ "" := by decide) :
    IncidentClass :=
  { name := name, bases := [.unicodeError], wording := wording, name_ne := name_ne }

def setting (name : String) (base : FaultClass := .valueError) (wording : Wording := .plain)
    (name_ne : name ≠ "" := by decide) : IncidentClass :=
  { name := name, bases := [base], wording := wording, name_ne := name_ne }

/-- A class of requests to leave the program. -/
def departure (name : String) (name_ne : name ≠ "" := by decide) : IncidentClass :=
  { name := name, bases := [], name_ne := name_ne }

def sourced (name : String) (name_ne : name ≠ "" := by decide) : IncidentClass :=
  { name := name, wording := .source, name_ne := name_ne }

/-- The classes that go by a name and are not derived from the class of all exceptions alone, or not
worded plainly. -/
def known : List IncidentClass :=
  [link "OSError", link "ConnectionError", link "ConnectionRefusedError" [.connectionRefusedError],
    link "ConnectionResetError" [.connectionResetError], link "BrokenPipeError" [.brokenPipeError],
    link "ConnectionAbortedError", link "TimeoutError" [.timeoutError],
    link "FileNotFoundError" [.fileNotFoundError], link "PermissionError" [.permissionError],
    link "FileExistsError", link "InterruptedError", link "IsADirectoryError",
    link "NotADirectoryError", link "ProcessLookupError", link "ChildProcessError",
    link "BlockingIOError", link "UnsupportedOperation" [.osError, .valueError], link "gaierror",
    link "herror", link "SerialException", link "SerialTimeoutException",
    link "PortNotOpenError", link "USBError" [.usbError], link "USBTimeoutError" [.usbError],
    encoding "UnicodeError" .plain, encoding "UnicodeEncodeError" .encode,
    encoding "UnicodeDecodeError" .decode, encoding "UnicodeTranslateError" .substitute,
    setting "ValueError", setting "NoBackendError", setting "TypeError" .typeError,
    setting "KeyError" .keyError .key,
    { name := "NotImplementedError", bases := [.notImplementedError] },
    sourced "SyntaxError", sourced "IndentationError", sourced "TabError",
    departure "BaseException", departure "KeyboardInterrupt", departure "SystemExit",
    departure "GeneratorExit"]

/-- The other names of the class of system errors. -/
def systemNames : List String := ["OSError", "IOError", "EnvironmentError"]

/-- The class of a name. Without a name, it is the class of all exceptions. -/
def named (name : String) : IncidentClass :=
  if systemNames.contains name then link "OSError"
  else
    match known.find? (·.name == name) with
    | some kind => kind
    | none => if h : name = "" then { name := "Exception" } else { name := name, name_ne := h }

/-- The classes of system errors that have a number. -/
def systemNumbers : List (Int × String) :=
  [(1, "PermissionError"), (2, "FileNotFoundError"), (3, "ProcessLookupError"),
    (4, "InterruptedError"), (10, "ChildProcessError"), (11, "BlockingIOError"),
    (13, "PermissionError"), (17, "FileExistsError"), (20, "NotADirectoryError"),
    (21, "IsADirectoryError"), (32, "BrokenPipeError"), (103, "ConnectionAbortedError"),
    (104, "ConnectionResetError"), (108, "BrokenPipeError"), (110, "TimeoutError"),
    (111, "ConnectionRefusedError"), (114, "BlockingIOError"), (115, "BlockingIOError")]

/-- The class of a system error that is told by its number, text and file names. -/
def numbered? : List Value → Option IncidentClass
  | number :: rest =>
    if rest.isEmpty || 4 < rest.length then none
    else
      match number.integer? with
      | some n => (systemNumbers.lookup n).map named
      | none => none
  | [] => none

end IncidentClass

namespace Incident

/-! ### Incidents as text -/

/-- The text of a value that holds no object. -/
def plain (v : Value) : Text := ((v.shown .plain).toOption).getD []

/-- The quoted form of a value that holds no object. -/
def quoted (v : Value) : Text := ((v.quoted .plain).toOption).getD []

/-- Arguments as one text: nothing, the only one, or all of them in a row. -/
def plainText : List Value → Text
  | [] => []
  | [v] => plain v
  | vs => quoted (.tuple vs)

/-- A file name among the arguments of a system error. -/
def fileArgument? (v : Option Value) : Option Value :=
  match v with
  | none => none
  | some .none => none
  | some v => some v

/-- The file that a system error is about. A transfer that was blocked may tell how much went
through instead. -/
def file? (i : Incident) : Option Value :=
  if 5 < i.args.length then none
  else
    match fileArgument? i.args[2]? with
    | none => none
    | some v => if i.kind.name == "BlockingIOError" && v.number?.isSome then none else some v

/-- A system error: its number and text, and the files it is about. -/
def systemText (i : Incident) : Text :=
  match i.args with
  | number :: text :: _ =>
    if 5 < i.args.length then plainText i.args
    else
      let told : Text := "[Errno " ++ plain number ++ "] " ++ plain text
      match i.file?, fileArgument? i.args[4]? with
      | none, _ => told
      | some file, none => told ++ ": " ++ quoted file
      | some file, some other => told ++ ": " ++ quoted file ++ " -> " ++ quoted other
  | args => plainText args

/-- Where something failed: at one place, or at the places before `stop`. `first` shows what
stands at a single place. -/
def placeText (one many : Text) (start stop : Int) (first : Option Text) : Text :=
  match first with
  | some shown =>
    one ++ shown ++ " in position " ++ Text.ofInt start
  | none => many ++ " in position " ++ Text.ofInt start ++ "-" ++ Text.ofInt (stop - 1)

/-- The element at a single place. -/
def single? {α : Type} (elements : List α) (start stop : Int) : Option α :=
  if stop = start + 1 ∧ 0 ≤ start then elements[start.toNat]? else none

def escaped (c : CodePoint) : Text := " '" ++ Text.escapedByCode c.code ++ "'"

def escapedByte (b : UInt8) : Text := " 0x" ++ Text.ofHex 2 b.toNat

/-- A text that has no encoding. -/
def encodeText (codec : Text) (start stop : Int) (first : Option CodePoint) (reason : Text) :
    Text :=
  "'" ++ codec ++ "' codec can't encode "
    ++ placeText "character" "characters" start stop (first.map escaped) ++ ": " ++ reason

/-- Bytes that are no encoding. -/
def decodeText (codec : Text) (start stop : Int) (first : Option UInt8) (reason : Text) : Text :=
  "'" ++ codec ++ "' codec can't decode "
    ++ placeText "byte" "bytes" start stop (first.map escapedByte) ++ ": " ++ reason

/-- A text with characters that have no substitute. -/
def substituteText (start stop : Int) (first : Option CodePoint) (reason : Text) : Text :=
  "can't translate " ++ placeText "character" "characters" start stop (first.map escaped)
    ++ ": " ++ reason

/-- The last name on a path. -/
def lastName (path : Text) : Text :=
  (path.reverse.takeWhile (· ≠ .scalar '/')).reverse

/-- The number of a line, as far as lines are counted; beyond that there is none. -/
def lineNumber (n : Int) : Int := if Value.isCount n then n else -1

/-- A message with the file and the line that it is about, as far as they are known. -/
def sourceText (message : Value) (place : List Value) : Text :=
  let file? : Option Text :=
    match place with
    | .text path :: _ => some (lastName path)
    | _ => none
  let line? : Option Text :=
    match place with
    | _ :: .int n :: _ => some ("line " ++ Text.ofInt (lineNumber n))
    | _ => none
  match file?, line? with
  | none, none => plain message
  | some file, some line => plain message ++ " (" ++ file ++ ", " ++ line ++ ")"
  | some file, none => plain message ++ " (" ++ file ++ ")"
  | none, some line => plain message ++ " (" ++ line ++ ")"

/-- An incident as the text that its arguments read as. -/
def argumentText (i : Incident) : Text :=
  match i.kind.wording, i.args with
  | .key, [v] => quoted v
  | .system, _ => i.systemText
  | .encode, [.text codec, .text t, start, stop, .text reason] =>
    let start := (start.integer?).getD 0
    let stop := (stop.integer?).getD 0
    encodeText codec start stop (single? t start stop) reason
  | .decode, [.text codec, .bytes bs, start, stop, .text reason] =>
    let start := (start.integer?).getD 0
    let stop := (stop.integer?).getD 0
    decodeText codec start stop (single? bs start stop) reason
  | .substitute, [.text t, start, stop, .text reason] =>
    let start := (start.integer?).getD 0
    let stop := (stop.integer?).getD 0
    substituteText start stop (single? t start stop) reason
  | .source, [message, place] =>
    sourceText message (((place.elements .empty).toOption).getD [])
  | .source, args => plain (args.headD .none)
  | _, args => plainText args

/-- An incident as one text. -/
def text (i : Incident) : Text := i.words?.getD i.argumentText

/-- A fault of a general class with a message. -/
def refusal (name message : String) : Fault :=
  .incident { kind := IncidentClass.named name, args := [.text message] }

/-- Why a value is no place in a sequence. -/
def placeObstacle? (v : Value) : Option Fault :=
  match v.integer? with
  | none => some (.notCounting (v.kindName .empty))
  | some n =>
    if Value.isCount n then none
    else some (refusal "OverflowError" "Python int too large to convert to C ssize_t")

/-- Why some arguments are no range and reason. -/
def rangeObstacle? : List Value → Option Fault
  | [start, stop, reason] =>
    (placeObstacle? start).or <| (placeObstacle? stop).or <|
      match reason with
      | .text _ => none
      | _ => some .wrongType
  | _ => some .wrongType

/-- Why arguments are not those that the wording needs. -/
def obstacle? (i : Incident) : Option Fault :=
  let demand (fits : Bool) : Option Fault := if fits then none else some .wrongType
  match i.kind.wording, i.args with
  | .encode, .text _ :: .text _ :: rest => rangeObstacle? rest
  | .encode, _ => some .wrongType
  | .decode, .text _ :: told :: rest =>
    (rangeObstacle? rest).or <|
      match told with
      | .bytes _ => none
      | _ => some .wrongType
  | .decode, _ => some .wrongType
  | .substitute, .text _ :: rest => rangeObstacle? rest
  | .substitute, _ => some .wrongType
  | .source, [_, place] =>
    match place.elements .empty with
    | .ok vs => demand (vs.length = 4 ∨ vs.length = 6)
    | .error fault => some fault
  | .system, args =>
    if i.kind.name ≠ "BlockingIOError" ∨ 5 < args.length then none
    else
      match fileArgument? args[2]? with
      | some (.float _) => some .wrongType
      | some (.int n) =>
        if Value.isCount n then none
        else some (refusal "ValueError" "cannot fit 'int' into an index-sized integer")
      | _ => none
  | _, _ => none

end Incident

namespace Fault

/-! ### Faults that are told of -/

/-- The parameters that a fault of printing is told with. -/
def printSignature : Signature :=
  { parameters := [{ name := "message" }, { name := "target", default? := some .none }] }

/-- The classes of errors of a USB device. -/
def deviceNames : List String := ["USBError", "USBTimeoutError"]

/-- The parameters that an error of a USB device is told with. -/
def usbSignature : Signature :=
  { parameters := [{ name := "strerror" }, { name := "error_code", default? := some .none },
      { name := "errno", default? := some .none }] }

def toldOfPrinting (stage : PrintStage) (call : Call) : Except Fault Fault :=
  match printSignature.bind call with
  | .ok [message, target] => .ok (.print { stage := stage, message := message, target := target })
  | _ => .error .wrongType

def toldOfDevice (name : String) (call : Call) : Except Fault Fault :=
  match usbSignature.bind call with
  | .ok [text, _, number] =>
    .ok (.incident { kind := IncidentClass.named name, args := [number, text] })
  | _ => .error .wrongType

/-- The names of values that may be told along with a class, which its text does not show. -/
def sideNotes : String → List String
  | "AttributeError" => ["name", "obj"]
  | "NameError" | "UnboundLocalError" => ["name"]
  | "ImportError" | "ModuleNotFoundError" => ["name", "path"]
  | _ => []

/-- The classes that stand for several faults at once. -/
def groupNames : List String := ["BaseExceptionGroup", "ExceptionGroup"]

/-- A group of faults is told with a message and a sequence of faults. No value is a fault, so
there is no such group. -/
def groupObstacle (call : Call) : Fault :=
  match call.inRow with
  | [.text _, .record ..] => .wrongType
  | [.text _, faults] =>
    match faults.elements .empty with
    | .ok [] =>
      Incident.refusal "ValueError" "second argument (exceptions) must be a non-empty sequence"
    | .ok (_ :: _) =>
      Incident.refusal "ValueError" "Item 0 of second argument (exceptions) is not an exception"
    | .error fault => fault
  | _ => .wrongType

/-- A fault of a class that is no fault of printing. -/
def toldOfClass (name : String) (call : Call) : Except Fault Fault :=
  let kind :=
    if IncidentClass.systemNames.contains name then
      (IncidentClass.numbered? call.inRow).getD (IncidentClass.named name)
    else IncidentClass.named name
  let incident : Incident := { kind := kind, args := call.inRow }
  if call.named.any fun entry => !((sideNotes name).map Text.ofString).contains entry.1 then
    .error .wrongType
  else
    match incident.obstacle? with
    | some fault => .error fault
    | none => .ok (.incident incident)

/-- The fault that a class name and a call tell of, unless the values of the call cannot tell of one
of that class. -/
def told (name : String) (call : Call) : Except Fault Fault :=
  match PrintStage.all.find? (·.name == name) with
  | some stage => toldOfPrinting stage call
  | none =>
    if deviceNames.contains name then toldOfDevice name call
    else if groupNames.contains name then .error (groupObstacle call)
    else toldOfClass name call

end Fault

end Zpl
