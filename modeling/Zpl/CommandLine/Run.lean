import Zpl.CommandLine.Options
import Zpl.Store.Method.Call

/-!
# The program

The program makes a label by a template, writes it out, to a file or to standard output, and sends
it to a printer; or it has the printer carry out a control command. Its exit status says how that
went: two for a command line or a label that there is nothing to do with, one for a printer that
was not reached. Log records go to standard error, as far as their level is shown.

## Main definitions

* `Outcome` — what a run leaves behind.
* `Program.run` — a run of the program.
-/

namespace Zpl

open CommandLine

/-- How a run ends. -/
inductive Ending where
  | exit (status : Nat)
  /-- The command line was refused with exit status two, and nothing was done. -/
  | refused (message : Text)
  /-- A fault that the program does not handle. -/
  | failed (fault : Fault)

/-- What a run leaves behind. -/
structure Outcome where
  ending : Ending
  stdout : Text := []
  stderr : Text := []
  /-- The files in the working directory. -/
  files : List (Text × Text) := []
  /-- What was written to files elsewhere. -/
  filesElsewhere : List (Text × Text) := []
  links : List LinkEvent := []

namespace Program

/-! ### What a task does -/

/-- What a task has written so far. -/
structure Written where
  stdout : Text := []
  files : List (Text × Text) := []
  filesElsewhere : List (Text × Text) := []

/-- How a task ends: with an exit status and a last line for standard error, or with a fault. -/
structure Report where
  written : Written := {}
  result : Except Fault (Nat × Text)
  events : List Event

def emptyLabelMessage : Text := "Label has no printable area; check --width/--height/--dpi."

/-- Makes the label of a request; the result is its text, which is empty if there is no room to
print. -/
def makeLabel (q : LabelRequest) : Action Text := do
  let made ← Label.ofInches (← Action.capacity) (← Action.directory) q.width q.height q.dpi
  let label ← Action.add (.label made)
  let code ←
    match q.layout with
    | .twoLines centered title subtitle barcode =>
      Template.twoLines (.object label) (.bool centered) title subtitle barcode
    | .threeLines title subtitle information barcode =>
      Template.threeLines (.object label) title subtitle information barcode
  let code ← (Writing.textOf code : Except Fault Text)
  if code.isEmpty then return []
  else if q.framed then Action.document label
  else return code

/-- Notes a fault of printing, and tells of it in a last line for standard error. -/
def tellOf (p : PrintFault) : Action (Nat × Text) := do
  Action.log .debug .commandLine "Print failure"
  let told ← p.text
  return (1, "Print failed: " ++ told ++ "\n")

/-- Carries out something with the printer that settings describe. A fault of printing is told on
standard error. -/
def withPrinter (settings : Value) (job : (printer : Ref) → Action Unit) :
    Action (Nat × Text) := do
  try
    job (← Action.makePrinter (← Action.made settings))
    return (0, [])
  catch
    | .print p => tellOf p
    | fault => throw fault

/-- The report of an action. -/
def report (c : Circumstances) (written : Written) (operation : Action (Nat × Text)) (s : Store) :
    Report :=
  let (result, s) := operation.attempt c s
  { written := written, result := result, events := s.events }

/-- Sends a document if that is asked for. -/
def send (settings : Value) (q : LabelRequest) (document : Text) : Action (Nat × Text) :=
  if q.sent then
    withPrinter settings fun printer => Action.printLabel printer (.text document) q.copies
  else return (0, [])

/-- What is left behind when a text goes to the file of a path. -/
def writtenTo (path content : Text) : File.Destination → Written
  | .file name => { files := [(name, content)] }
  | .elsewhere => { filesElsewhere := [(path, content)] }

/-- Writes a document to a file, and then sends it if that is asked for. -/
def save (c : Circumstances) (settings : Value) (q : LabelRequest) (document name : Text)
    (s : Store) : Report :=
  let path := File.normalized name
  match c.destination path with
  | .error fault => { result := .error fault, events := s.events }
  | .ok destination =>
    match Utf8.encode document with
    | .error fault =>
      { written := writtenTo path [] destination
        result := .error (.encoding fault)
        events := s.events }
    | .ok _ =>
      report c (writtenTo path (document ++ "\n") destination) (send settings q document)
        { s with events := s.events ++ [.log .info .commandLine ("Wrote " ++ path)] }

/-- Puts a document where it belongs. -/
def deliver (c : Circumstances) (settings : Value) (q : LabelRequest) (document : Text)
    (s : Store) : Report :=
  match q.output? with
  | some name => save c settings q document name s
  | none =>
    let stdout : Text := if q.sent then [] else document ++ "\n"
    report c { stdout := stdout } (send settings q document) s

/-- Carries out the request for a label. -/
def printRequest (c : Circumstances) (settings : Value) (q : LabelRequest) : Report :=
  match (makeLabel q).attempt c {} with
  | (.error fault, s) => { result := .error fault, events := s.events }
  | (.ok [], s) => { result := .ok (2, emptyLabelMessage ++ "\n"), events := s.events }
  | (.ok document, s) => deliver c settings q document s

/-- Carries out a task. -/
def perform (c : Circumstances) (settings : Value) : Task → Report
  | .label q => printRequest c settings q
  | .control action =>
    report c {} (withPrinter settings fun printer => Action.control printer action) {}

/-! ### A run -/

/-- The least level of log records that are shown. -/
def shownLevel (verbose quiet : Bool) : Level :=
  if verbose then .debug else if quiet then .error else .warning

/-- A log record as a line of standard error. -/
def logLine (level : Level) (source : Source) (message : Text) : Text :=
  level.name ++ (" " : Text) ++ Text.ofString source.name ++ ": " ++ message ++ "\n"

/-- The log records among some events that are shown. -/
def logLines (least : Level) (events : List Event) : Text :=
  events.flatMap fun
    | .log level source message =>
      if least.rank ≤ level.rank then logLine level source message else []
    | _ => []

/-- The outcome of a task. -/
def outcome (i : Invocation) (r : Report) : Outcome :=
  let shown := logLines (shownLevel i.verbose i.quiet) r.events
  { ending :=
      match r.result with
      | .ok (status, _) => .exit status
      | .error fault => .failed fault
    stdout := r.written.stdout
    stderr :=
      match r.result with
      | .ok (_, last) => shown ++ last
      | .error _ => shown
    files := r.written.files
    filesElsewhere := r.written.filesElsewhere
    links := Event.links r.events }

/-- A run of the program. `host` is the printer's host if no switch gives one. -/
def run (host : Option Text) (c : Circumstances) (words : List Text) : Outcome :=
  let host : Value :=
    match host with
    | some name => .text name
    | none => .none
  match Invocation.ofWords host words with
  | .error (.usage message) => { ending := .refused message }
  | .error .help => { ending := .exit 0 }
  | .ok i => outcome i (perform c i.settings i.task)

end Program

end Zpl
