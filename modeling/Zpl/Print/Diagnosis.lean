import Zpl.Fault.Wording
import Zpl.Value.Convert

/-!
# Why a document did not reach the printer

A print call reports whatever goes wrong on the way to a printer as a `PrintFault` that names the
printer. Trouble with the link is told in words that help at the printer; a text that cannot be
encoded is the document's fault, and other values that cannot be used are a matter of settings.
A fault that is one of printing already keeps its words, and its printer if it names one.

## Main definitions

* `Fault.family` — the family that decides how a fault is reported.
* `Fault.diagnosed` — the fault of printing that a fault is reported as.
-/

namespace Zpl

/-- What a failure of the operating system or of a link means for a printer. -/
inductive LinkTrouble where
  | refused
  | dropped
  | unanswered
  | missing
  | forbidden
  | other
  deriving DecidableEq, Repr

/-- The family of a fault decides how it is reported. -/
inductive Family where
  | link (trouble : LinkTrouble)
  | encoding
  | setting
  | general
  deriving DecidableEq, Repr

namespace Fault

/-- What a fault of a link means for a printer. -/
def trouble (fault : Fault) : LinkTrouble :=
  if fault.IsDerived .connectionRefusedError then .refused
  else if fault.IsDerived .connectionResetError ∨ fault.IsDerived .brokenPipeError then .dropped
  else if fault.IsDerived .timeoutError then .unanswered
  else if fault.IsDerived .fileNotFoundError then .missing
  else if fault.IsDerived .permissionError then .forbidden
  else .other

/-- The family of a fault. A class may be derived from several of those that are asked for here, and
then the first of them decides. -/
def family (fault : Fault) : Family :=
  if fault.IsDerived .osError then .link fault.trouble
  else if fault.IsDerived .unicodeError then .encoding
  else if fault.IsDerived .valueError ∨ fault.IsDerived .typeError ∨ fault.IsDerived .keyError then
    .setting
  else .general

/-- Whether a print call intercepts a fault; a request to leave the program passes through. -/
def isIntercepted (fault : Fault) : Bool := fault.IsDerived .exception

end Fault

namespace Incident

/-- The device that an incident is about: the file it names, or else whatever it says. -/
def device (i : Incident) : Text :=
  match i.file? with
  | some file => if file.truth .empty then plain file else i.text
  | none => i.text

end Incident

/-- What the text of a fault says about the device. -/
def Fault.device : Fault → Text
  | .incident i => i.device
  | fault => fault.text

namespace LinkTrouble

/-- Trouble with a link, in words that help at the printer. -/
def advice (fault : Fault) : LinkTrouble → Text
  | .refused => "connection refused; is raw ZPL printing enabled on port 9100?"
  | .dropped => "printer closed the connection before the label was sent"
  | .unanswered => "no answer from printer; check power and cabling"
  | .missing => "device not found (" ++ fault.device ++ ")"
  | .forbidden => "no permission to open the device (" ++ fault.device ++ ")"
  | .other => "link error: " ++ fault.text

end LinkTrouble

namespace Family

/-- The part of printing that a fault of a family belongs to. -/
def stage : Family → PrintStage
  | .link _ => .connection
  | .encoding => .job
  | .setting => .configuration
  | .general => .job

/-- The message that a fault of a family is reported with. -/
def message (fault : Fault) : Family → Text
  | .link trouble => trouble.advice fault
  | .encoding => "label text could not be encoded: " ++ fault.text
  | .setting => "bad printer setting: " ++ fault.text
  | .general => if fault.text.isEmpty then fault.name else fault.text

end Family

/-- A fault of printing that names a printer, if it names none yet. -/
def PrintFault.about (p : PrintFault) (target : Value) : PrintFault :=
  match p.target with
  | .none => { p with target := target }
  | _ => p

/-- The fault of printing that a fault is reported as, naming a printer. -/
def Fault.diagnosed (target : Value) : Fault → PrintFault
  | .print p => p.about target
  | fault =>
    { stage := fault.family.stage
      message := .text (fault.family.message fault)
      target := target
      cause := some fault }

end Zpl
