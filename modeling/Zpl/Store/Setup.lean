import Zpl.Print.Settings
import Zpl.Store.Printing

/-!
# Printers from settings

Settings are whatever answers to `get`, mostly a record. They name an interface, the network if
none, in any case of letters, and say what that interface needs to know.

## Main definitions

* `Action.makeBackend` — the backend that settings describe.
* `Action.makePrinter` — a printer behind that backend.
-/

namespace Zpl

namespace Settings

/-- What settings say about one thing; a record answers with nothing for what it leaves out. -/
def ask (settings : Value) (key : String) : Action Value :=
  Action.call settings "get" { inRow := [.text key] }

/-- What settings say about one thing, or something else where that does not count as true. -/
def askOr (settings : Value) (key : String) (alternative : Value) : Action Value := do
  let v ← ask settings key
  return v.orElse (← Action.directory) alternative

/-- What stands under a key that settings have an answer for; they have to be a record. -/
def demand (settings : Value) (key : String) : Action Value := do
  match settings.opened (← Action.directory) with
  | .record keys values => Action.entryOf keys values (.text key)
  | _ => throw .wrongType

/-- What settings say about something that they have to say. -/
def require (settings : Value) (key : String) (lack : Text) : Action Value := do
  let v ← ask settings key
  if v.truth (← Action.directory) then demand settings key else throw (refused lack)

def networkBackend (settings : Value) : Action Backend := do
  let host ← require settings "host" "network printing needs a host"
  let port ← (← askOr settings "port" (.int Backend.defaultPort)).toInt
  let timeout ← (← askOr settings "timeout" (.float Backend.defaultTimeout)).toFloat
  return .network host (.int port) (.float timeout)

def serialBackend (settings : Value) : Action Backend := do
  let device ← require settings "device" "serial printing needs a device, e.g. /dev/ttyUSB0"
  let baudrate ← (← askOr settings "baudrate" (.int Backend.defaultBaudrate)).toInt
  return .serial device (.int baudrate) (.float Backend.defaultSerialTimeout)

/-- An endpoint, if one is asked for. -/
def endpoint : Value → Except Fault Value
  | .none => .ok .none
  | v => do
    let n ← identifier v
    return .int n

def usbBackend (settings : Value) : Action Backend := do
  let product ← ask settings "usb_pid"
  if !product.truth (← Action.directory) then
    throw (refused "USB printing needs the printer's product id")
  let wanted ← ask settings "usb_endpoint"
  let product ← identifier (← demand settings "usb_pid")
  let vendor ← identifier (← askOr settings "usb_vid" (.int Backend.defaultVendor))
  let wanted ← endpoint wanted
  return .usb (.int vendor) (.int product) wanted

/-- The backend that settings describe, at the interface of a name in small letters. -/
def backend (settings name : Value) : Action Backend := do
  if name.same "network" then networkBackend settings
  else if name.same "serial" then serialBackend settings
  else if name.same "usb" then usbBackend settings
  else if name.same "dry_run" then
    return .dryRun (.object (← Action.add (.content (.list []))))
  else
    let quoted ← Action.quoted name
    throw (refused ("unknown interface " ++ quoted ++ "; use one of "
      ++ Text.join ", " (interfaces.map Text.ofString)))

end Settings

namespace Action

/-- A backend with settings of its own. -/
def distinctBackend : Backend → Action Backend
  | .network host port timeout => return .network host port (← made timeout)
  | .serial device baudrate timeout => return .serial device baudrate (← made timeout)
  | b => return b

/-- Makes the backend that settings describe. -/
def makeBackend (settings : Value) : Action Ref := do
  let wanted ← Settings.askOr settings "interface" (.text "network")
  let name ← call wanted "lower" {}
  add (.backend (← distinctBackend (← Settings.backend settings name)))

/-- Makes a printer behind the backend that settings describe. -/
def makePrinter (settings : Value) : Action Ref := do
  let backend ← makeBackend settings
  add (.printer (.object backend))

end Action

end Zpl
