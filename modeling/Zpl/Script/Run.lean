import Zpl.Script.Answer
import Zpl.Store.Attribute
import Zpl.Store.Construction
import Zpl.Store.Element
import Zpl.Store.Method.Call

/-!
# Scripts

A script works on objects that it makes and names. Each step is answered by what it resulted in,
by the state of the object that it worked on, and by the events it issued. A step that fails keeps
what it did before, and the script goes on.

A result is named before it is shown, so that an object may be shown by the name it has just got;
and showing a state may issue events, which are those of the step. What was issued before is shown
by the names of before.

## Main definitions

* `Step` — one step of a script.
* `Session` — the objects of a script and their names.
* `Session.run` — carries out a step.
-/

namespace Zpl

/-- One step of a script. It may work on whatever a name stands for. -/
inductive Step where
  /-- Makes an object of a named kind. -/
  | construct (kind : String) (heard : Bool) (call : LiteralCall)
  /-- Makes a label of a size in dots. -/
  | labelFromDots (call : LiteralCall)
  | makeBackend (settings : Literal)
  | makePrinter (settings : Literal)
  | write (on : String) (field : String) (v : Literal)
  | read (on : String) (field : String)
  | call (on : String) (method : String) (call : LiteralCall)
  /-- The text of a value. -/
  | spell (on : String)
  /-- The form of a value in diagnostics. -/
  | quote (on : String)
  | measure (on : String)
  /-- The states of the components of a label. -/
  | survey (on : String)
  | pick (on : String) (index : Literal)
  | template (name : String) (inRow : List Literal)
  | buildJob (call : LiteralCall)
  deriving Repr

namespace Step

/-- The name of what a step works on, if it is there before the step. -/
def on? : Step → Option String
  | .write on .. => some on
  | .read on _ => some on
  | .call on .. => some on
  | .spell on => some on
  | .quote on => some on
  | .measure on => some on
  | .survey on => some on
  | .pick on _ => some on
  | _ => none

/-- Whether the result of a step is an object that it makes, which its state then shows. -/
def isMaking : Step → Bool
  | .construct .. => true
  | .labelFromDots _ => true
  | .makeBackend _ => true
  | .makePrinter _ => true
  | _ => false

/-- The name of the label that a template is applied to. -/
def canvas? : Step → Option String
  | .template _ (.name label :: _) => some label
  | _ => none

end Step

namespace Action

def twoLinesSignature : Signature :=
  .required ["label", "centralized_text", "title_text", "subtitle_text", "barcode_text"]

def threeLinesSignature : Signature :=
  .required ["label", "title_text", "subtitle_text", "info_text", "barcode_text"]

/-- Applies a template by name. -/
def template (name : String) (values : List Value) : Action Value := do
  if name = "template1" then
    match ← twoLinesSignature.bind { inRow := values } with
    | [label, centered, title, subtitle, data] =>
      Template.twoLines label centered title subtitle data
    | _ => throw .wrongType
  else if name = "template2" then
    match ← threeLinesSignature.bind { inRow := values } with
    | [label, title, subtitle, information, data] =>
      Template.threeLines label title subtitle information data
    | _ => throw .wrongType
  else throw (.missingKey (Text.quoted (Text.ofString name)))

/-- The bytes of a job, from the values of a call. -/
def buildJobOf (call : Call) : Action Value := do
  match ← Printer.printSignature.bind call with
  | [v, copies] => return .bytes (← buildJob v copies)
  | _ => throw .wrongType

/-- What a step works on; a name that stands for nothing stands for none. -/
def target (scope : Scope) (name : String) : Value := (scope.lookup name).getD .none

/-- What a step results in. For a survey this is what there is to survey. -/
def perform (scope : Scope) : Step → Action Value
  | .construct kind heard call => do construct kind heard (← call.value scope)
  | .labelFromDots call => do Label.makeFromDots (← call.value scope)
  | .makeBackend settings => do
    let settings ← settings.value scope
    return .object (← makeBackend settings)
  | .makePrinter settings => do
    let settings ← settings.value scope
    return .object (← makePrinter settings)
  | .write on field v => do
    let v ← v.value scope
    writeTo (target scope on) field v
    return .none
  | .read on field => fetch (target scope on) field
  | .call on method arguments => do
    let arguments ← arguments.value scope
    call (target scope on) method arguments
  | .spell on => do return .text (← shown (target scope on))
  | .quote on => do return .text (← quoted (target scope on))
  | .measure on => do
    let n ← (target scope on).length (← directory)
    return .int n
  | .survey on => do return .tuple (← elements (target scope on))
  | .pick on index => do
    let parts ← fetch (target scope on) "components"
    made (← element parts (← index.value scope))
  | .template name inRow => do template name (← Literal.values scope inRow)
  | .buildJob call => do buildJobOf (← call.value scope)

end Action

/-- The objects of a script, and the names that it has given. -/
structure Session where
  circumstances : Circumstances := {}
  store : Store := {}
  scope : Scope := []

/-- What a step is answered by. -/
structure StepAnswer where
  result : Except FaultAnswer Answer
  state : Option (Except Fault Answer)
  /-- What was issued, each with the time at which its values are shown. -/
  events : List (Event × Moment)

namespace Session

/-- The value whose state an answer shows; where a name stands for nothing there is none. -/
def shown? (scope : Scope) (step : Step) (result : Except Fault Value) : Option Value :=
  match step.on?, result with
  | some on, _ =>
    match scope.lookup on with
    | some .none => none
    | found => found
  | none, .ok v =>
    if step.isMaking then some v
    else
      match step.canvas?.bind fun name => scope.lookup name with
      | some (.object r) => some (.object r)
      | _ => none
  | none, .error _ => none

/-- How the result of a step is shown: what is made shows in the state only, and a survey shows the
states of what it found. -/
def resultAnswer (scope : Scope) (step : Step) (v : Value) : Action Answer := do
  if step.isMaking then return .value .none
  else
    match step, v with
    | .survey _, .tuple vs =>
      let states ← vs.mapM (Answer.state scope)
      return .items states
    | _, v => Answer.ofValue (← get) scope v

/-- Names the result of a step, if it is to be named and there is one. -/
def naming (scope : Scope) (name : Option String) (result : Except Fault Value) : Scope :=
  match name, result with
  | _, .ok .none => scope
  | some name, .ok v => scope.bind name v
  | _, _ => scope

/-- What a step is answered by in place of a state: its result, or why there is none. -/
def answerTo (scope : Scope) (step : Step) :
    Except Fault Value → Action (Except FaultAnswer Answer)
  | .ok v => return .ok (← resultAnswer scope step v)
  | .error fault => return .error (← FaultAnswer.ofFault scope fault)

/-- What was issued up to some time. -/
def issued (store : Store) (scope : Scope) : List (Event × Moment) :=
  store.events.map fun event => (event, { store := store, scope := scope })

/-- Carries out a step and names its result. -/
def run (s : Session) (step : Step) (name : Option String) : StepAnswer × Session :=
  let (result, store) := (Action.perform s.scope step).attemptHeard s.circumstances s.store
  let before := issued store s.scope
  let shown := shown? s.scope step result
  let scope := naming s.scope name result
  let (answer, store) :=
    (answerTo scope step result).attemptHeard s.circumstances { store with events := [] }
  let answer :=
    match answer with
    | .ok answer => answer
    | .error fault => .error (.general fault)
  let (state, store) : Option (Except Fault Answer) × Store :=
    match shown with
    | some v =>
      let (state, store) := (Answer.state scope v).attemptHeard s.circumstances store
      (some state, store)
    | none => (none, store)
  ({ result := answer, state := state, events := before ++ issued store scope },
    { s with store := { store with events := [] }, scope := scope })

end Session

end Zpl
