import Zpl.Fault

/-!
# Events

What an operation does besides changing its objects: it writes log records, it warns about values
that it does not accept, and it acts on a printer link. All of it goes into one list, in order.

## Main definitions

* `LinkEvent` — an action on a link to a printer.
* `Event` — a log record, a warning, or an action on a link.
* `Issuing` — an operation that issues events and may fail.
-/

namespace Zpl

/-- Severity of a log record. -/
inductive Level where
  | debug
  | info
  | warning
  | error
  deriving DecidableEq, Repr

namespace Level

def name : Level → String
  | .debug => "DEBUG"
  | .info => "INFO"
  | .warning => "WARNING"
  | .error => "ERROR"

def rank : Level → Nat
  | .debug => 10
  | .info => 20
  | .warning => 30
  | .error => 40

end Level

/-- The part of the program that writes a log record. -/
inductive Source where
  | component
  | shape
  | text
  | barcode
  | label
  | template
  | backend
  | printer
  | commandLine
  deriving DecidableEq, Repr

/-- The name under which a part of the program logs. -/
def Source.name : Source → String
  | .component => "zpl_designer.core.component"
  | .shape => "zpl_designer.core.shapes"
  | .text => "zpl_designer.core.text"
  | .barcode => "zpl_designer.core.barcode"
  | .label => "zpl_designer.core.label"
  | .template => "zpl_designer.core.templates"
  | .backend => "zpl_designer.printing.backends"
  | .printer => "zpl_designer.printing.printer"
  | .commandLine => "zpl_designer.app"

/-- An action on a link to a printer. -/
inductive LinkEvent where
  /-- A network connection is asked for. -/
  | connect (host port timeout : Value)
  /-- The whole of a job is handed to a network connection. -/
  | sendAll (payload : Value)
  /-- A connection or a port is closed. -/
  | close
  /-- A serial port is opened. -/
  | openPort (device baudrate timeout writeTimeout : Value)
  | write (payload : Value)
  | flush
  /-- A USB device is looked up. -/
  | find (vendor product : Value)
  | setConfiguration
  /-- The kernel driver of an interface is detached. -/
  | detach (interface : Nat)
  | endpointWrite (address : Value) (payload : Value)
  /-- The resources of a USB device are given back. -/
  | dispose
  deriving Repr

/-- The bytes that an action hands to the printer. What is no byte string carries none. -/
def LinkEvent.payload : LinkEvent → List UInt8
  | .sendAll (.bytes payload) => payload
  | .write (.bytes payload) => payload
  | .endpointWrite _ (.bytes payload) => payload
  | _ => []

/-- Something an operation does besides changing its objects. -/
inductive Event where
  | log (level : Level) (source : Source) (message : Text)
  /-- A component's warning handler is called. -/
  | warning (kind : String) (id message : Value)
  | link (event : LinkEvent)
  deriving Repr

/-- The actions on links among some events. -/
def Event.links (events : List Event) : List LinkEvent :=
  events.filterMap fun
    | .link event => some event
    | _ => none

/-! ### Operations that issue events -/

/-- An operation that issues events. A failure keeps the events issued before it. -/
abbrev Issuing := EStateM Fault (List Event)

/-- A computation without state is a step of one with state. -/
instance {σ : Type} : MonadLift (Except Fault) (EStateM Fault σ) where
  monadLift e s :=
    match e with
    | .ok a => .ok a s
    | .error fault => .error fault s

@[simp] theorem liftM_ok {σ α : Type} (a : α) (s : σ) :
    (liftM (Except.ok a : Except Fault α) : EStateM Fault σ α) s = .ok a s := rfl

@[simp] theorem liftM_error {σ α : Type} (fault : Fault) (s : σ) :
    (liftM (Except.error fault : Except Fault α) : EStateM Fault σ α) s = .error fault s := rfl

namespace Issuing

def emit (event : Event) : Issuing Unit := modify (· ++ [event])

def log (level : Level) (source : Source) (message : Text) : Issuing Unit :=
  emit (.log level source message)

def link (event : LinkEvent) : Issuing Unit := emit (.link event)

/-- Fails if there is a fault. -/
def check (fault : Option Fault) : Issuing Unit :=
  match fault with
  | none => pure ()
  | some fault => throw fault

/-- Does something to a link at the end of an operation, whether the operation fails or not. -/
def closing {α : Type} (operation : Issuing α) (last : LinkEvent) : Issuing α := fun events =>
  match operation events with
  | .ok a events => .ok a (events ++ [.link last])
  | .error fault events => .error fault (events ++ [.link last])

end Issuing

end Zpl
