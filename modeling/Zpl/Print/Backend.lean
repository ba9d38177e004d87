import Zpl.Value.Convert

/-!
# Backends

A backend is the way to one printer: a network port, a serial line or a USB device, or no printer
at all, only a record of what would have been sent.

## Main definitions

* `Backend` — a way to a printer, with its settings.
* `Backend.describe` — the name of the printer in messages.
* `Backend.hexForm` — an identifier in hexadecimal digits.
-/

namespace Zpl

/-- A way to a printer. -/
inductive Backend where
  /-- No way at all. -/
  | base
  | network (host port timeout : Value)
  | serial (device baudrate timeout : Value)
  /-- The device of a vendor and a product. Without an endpoint the first outgoing one is used. -/
  | usb (vendor product endpoint : Value)
  /-- A record of the jobs sent, which is kept as a list. -/
  | dryRun (sent : Value)
  deriving Repr

namespace Backend

/-- The port on which printers take jobs. -/
def defaultPort : Int := 9100

def defaultTimeout : Binary64 := Binary64.ofInt 5

def defaultBaudrate : Int := 9600

def defaultSerialTimeout : Binary64 := Binary64.ofInt 2

def defaultVendor : Int := 0x0A5F

def name : Backend → String
  | .base => "BaseBackend"
  | .network .. => "NetworkBackend"
  | .serial .. => "SerialBackend"
  | .usb .. => "USBBackend"
  | .dryRun _ => "DryRunBackend"

/-- The kind of a value that has no hexadecimal form, if the fault names it. -/
def kindWithoutHex? : Value → Option String
  | .float _ => some "float"
  | .text _ => some "str"
  | _ => none

/-- An identifier in at least four hexadecimal digits; a sign counts as one of them. -/
def hexForm (v : Value) : Except Fault Text :=
  match v.integer? with
  | some n => .ok (if n < 0 then .scalar '-' :: Text.ofHex 3 n.natAbs else Text.ofHex 4 n.natAbs)
  | none =>
    match kindWithoutHex? v with
    | some kind => .error (.noHexForm kind)
    | none => .error .wrongType

/-- The name of a USB device in messages. -/
def usbName (vendor product : Value) : Except Fault Text := do
  let vendor ← hexForm vendor
  let product ← hexForm product
  return "usb:" ++ vendor ++ ":" ++ product

/-- The name of the printer in messages. -/
def describe {m : Type → Type} [Monad m] [MonadLiftT (Except Fault) m] (s : Scribe m) :
    Backend → m Text
  | .base => pure "BaseBackend"
  | .network host port _ => do
    let host ← host.shown s
    let port ← port.shown s
    return host ++ ":" ++ port
  | .serial device baudrate _ => do
    let device ← device.shown s
    let baudrate ← baudrate.shown s
    return device ++ "@" ++ baudrate
  | .usb vendor product _ => monadLift (usbName vendor product)
  | .dryRun _ => pure "dry-run"

/-! ### Making backends -/

def ofNetwork (host port timeout : Value) : Except Fault Backend := do
  let port ← port.toInt
  let timeout ← timeout.toFloat
  return .network host (.int port) (.float timeout)

def ofSerial (device baudrate timeout : Value) : Except Fault Backend := do
  let baudrate ← baudrate.toInt
  let timeout ← timeout.toFloat
  return .serial device (.int baudrate) (.float timeout)

def ofUsb (product vendor endpoint : Value) : Except Fault Backend := do
  let vendor ← vendor.toInt
  let product ← product.toInt
  return .usb (.int vendor) (.int product) endpoint

end Backend

end Zpl
