import Zpl.Print.Diagnosis
import Zpl.Print.Job
import Zpl.Print.Link
import Zpl.Store.Record

/-!
# Printing

A printer takes labels, documents and a few commands of its own, and hands them as jobs to its
backend. Whatever fails on the way is reported as a fault of printing that names the printer,
except a job that is refused before a printer comes into play.

## Main definitions

* `Action.buildJob` — the bytes of a job.
* `Action.deliver` — a value handed to a backend as a job.
* `Action.send` — a job sent by a printer.
* `Action.printLabel`, `Action.control` — what a printer does.
-/

namespace Zpl

/-- The commands that a printer carries out at once. -/
inductive ControlCommand where
  /-- Measure the length of labels and of the gap between them. -/
  | calibrate
  /-- Drop every queued document. -/
  | cancel
  /-- Print the configuration. -/
  | config
  deriving DecidableEq, Repr

namespace ControlCommand

def all : List ControlCommand := [.calibrate, .cancel, .config]

def name : ControlCommand → String
  | .calibrate => "calibrate"
  | .cancel => "cancel"
  | .config => "config"

/-- The text that makes a printer carry out a command. -/
def text : ControlCommand → Text
  | .calibrate => "~JC"
  | .cancel => "~JA"
  | .config => "~WC"

/-- The command that a value names. -/
def ofValue? (v : Value) : Option ControlCommand := all.find? fun c => v.same c.name

/-- The bytes of a command, which are a line of their own. -/
def job (c : ControlCommand) : Except Fault (List UInt8) := Job.encoded (c.text ++ "\n")

end ControlCommand

namespace Action

/-! ### Jobs -/

/-- The document that a value stands for: a label is written as one. -/
def documentOf (v : Value) : Action Value := do
  match v with
  | .object r =>
    match (← get).label? r with
    | some _ => dispatch r "to_zpl" [] do return .text (← document r)
    | none => return v
  | _ => return v

/-- The bytes of a job. -/
def buildJob (v copies : Value) : Action (List UInt8) := do
  let written ← documentOf v
  Job.ofDocument (← capacity) (← directory) written copies

/-! ### Backends -/

/-- The name of the printer behind a backend. -/
def describeBackend (r : Ref) : Action Text := do
  let b ← demand ((← get).backend? r)
  b.describe (← scribe)

/-- The name of the printer that a value says it is the way to. -/
def describe (backend : Value) : Action Value :=
  dispatchOn Store.backend? backend "describe" [] fun r _ => return .text (← describeBackend r)

/-- The greatest number of bytes that a job can be said to have: a byte string takes 33 more than
its bytes. -/
def maxJobLength : Int := Value.countBound - 34

/-- The bytes that a value is recorded as. A whole number is that many zeros, and a sequence of
numbers is the bytes with those numbers. -/
def recordedBytes (capacity : Nat) (d : Directory) (v : Value) : Except Fault (List UInt8) :=
  match v with
  | .bytes job => .ok job
  | .bool b => .ok (if b then [0] else [])
  | .int n =>
    if !Value.isCount n then .error .countTooLarge
    else if n < 0 then .error .negativeCount
    else if maxJobLength < n then .error .jobTooLong
    else do
      let count ← Value.repetitionCount capacity .jobTooLong n 1
      return List.replicate count 0
  | .text _ => .error .wrongType
  | v => do
    let vs ← v.elements d
    vs.mapM fun v =>
      match v.integer? with
      | some n => if 0 ≤ n ∧ n < 256 then .ok (UInt8.ofNat n.toNat) else .error .byteOutOfRange
      | none => .error .wrongType

/-- Adds a job at the end of a record. What is no list has to have something attached that does
so. -/
def record (sent job : Value) : Action Unit := do
  match sent, sent.opened (← directory) with
  | .object r, .list vs =>
    let bytes ← recordedBytes (← capacity) (← directory) job
    put r (.content (.list (vs ++ [.bytes bytes])))
  | _, _ =>
    let instead ← read sent "append"
    let bytes ← recordedBytes (← capacity) (← directory) job
    let _ ← invoke instead { inRow := [.bytes bytes] }

/-- The pieces in which a job goes to a USB device. -/
def usbPieces (s : Store) (r : Ref) (job : Value) : Except Fault (List Value) := do
  let size ← (s.attribute? r Backend.chunkField).getD (.error .missingAttribute)
  Link.pieces s.directory size job

/-- Hands a value to a backend as a job. -/
def deliverTo (r : Ref) (job : Value) : Action Unit := do
  let s ← get
  let c ← circumstances
  match ← demand (s.backend? r) with
  | .base => throw .notImplemented
  | .network host port timeout => issue (Link.overNetwork c host port timeout job)
  | .serial device baudrate timeout => issue (Link.overSerial c device baudrate timeout job)
  | .usb vendor product wanted =>
    match ← issue (Link.overUsb c vendor product wanted (usbPieces s r job)) with
    | none => pure ()
    | some lack => throw (Link.connectionFault lack.message (← describe (.object r)))
  | .dryRun sent => record sent job

/-- Hands a value as a job to whatever takes jobs. -/
def deliver (backend job : Value) : Action Unit :=
  dispatchUnitOn Store.backend? backend "send" [job] fun r => deliverTo r job

/-! ### Sending -/

/-- Reports faults of an operation as faults of printing that name the printer. -/
def diagnosing (target : Value) (operation : Action Unit) : Action Unit :=
  try operation
  catch fault => throw (if fault.isIntercepted then .print (fault.diagnosed target) else fault)

/-- Notes the progress of a job. -/
def noteSending (level : Level) (verb : Text) (job : List UInt8) (target : Value) :
    Action Unit := do
  logWorded level .printer do
    return verb ++ " " ++ Text.ofNat job.length ++ " bytes to " ++ (← shown target)

/-- Sends a job. -/
def send (backend : Value) (job : List UInt8) : Action Unit := do
  let target ← describe backend
  noteSending .debug "Sending" job target
  diagnosing target (deliver backend (.bytes job))
  noteSending .info "Sent" job target

/-! ### Printers -/

/-- The backend of a printer. -/
def backendOfPrinter (printer : Ref) : Action Value := do
  match (← get).thing? printer with
  | some (.printer backend) => return backend
  | _ => throw .missingAttribute

/-- The bytes of a job; that a text has no encoding is reported with the name of the printer. -/
def buildJobFor (backend v copies : Value) : Action (List UInt8) :=
  try buildJob v copies
  catch fault =>
    if fault.IsDerived .unicodeError then throw (.print (fault.diagnosed (← describe backend)))
    else throw fault

/-- Prints a label or a document. -/
def printLabel (printer : Ref) (v copies : Value) : Action Unit := do
  let backend ← backendOfPrinter printer
  let job ← buildJobFor backend v copies
  send backend job

/-- Has a printer carry out a command. -/
def control (printer : Ref) (action : Value) : Action Unit := do
  let backend ← backendOfPrinter printer
  match ControlCommand.ofValue? action with
  | some command => send backend (← command.job)
  | none =>
    if ← (← get).canName action then
      let quoted ← quoted action
      let target ← describe backend
      throw (.print {
        stage := .job
        message := .text ("unknown printer action " ++ quoted)
        target := target })
    else throw .wrongType

end Action

end Zpl
