import Zpl.Store.Field

/-!
# Printing objects

A component prints as its instruction, which is what was generated last; changing the component
does not change it. A label prints as the instructions of its components, and generates them all
anew to that end, which is logged. So a value that is printed into an instruction may generate
other instructions first.

A ready-made instruction stays as it is. A barcode generates its background first and puts the
background's instruction on a line before its own.

Objects that contain each other without end cannot be printed. Only a row, a list, a record, a view
of one or a set is recognized inside itself, and stands there as an ellipsis.

## Main definitions

* `Writing` — the operations that print objects, to a certain depth.
* `Action.scribe` — how the objects of a store are printed.
* `Action.generate` — generates the instruction of a component.
* `Action.code` — generates the instructions of a label.
-/

namespace Zpl

/-- Operations that print objects. -/
structure Writing where
  shown : Ref → Action Text
  quoted : Ref → Action Text
  /-- Generates the instruction of a component. -/
  generate : Ref → Action Unit

namespace Writing

/-- A scribe who prints objects by some operations. -/
def scribe (w : Writing) : Action (Scribe Action) :=
  return { facts := (← get).directory, shown := w.shown, quoted := w.quoted }

/-- A value that has to be text. -/
def textOf : Value → Except Fault Text
  | .text t => .ok t
  | _ => .error .wrongType

/-! ### Instructions -/

/-- Generates the instruction of whatever can be asked for it. -/
def generateFor (w : Writing) (v : Value) : Action Unit := do
  Action.dispatchUnitOn Store.component? v "generate_instruction" [] w.generate

/-- Generates what lies behind a barcode; the result are the lines before its own. -/
def generateBehind (w : Writing) : Value → Action (List Value)
  | .none => pure []
  | v => do
    w.generateFor v
    let behind ← Action.read v "instruction"
    return [behind]

/-- Generates the instruction of a component. -/
def generateComponent (w : Writing) (r : Ref) : Action Unit := do
  let replace (t : Text) : Action Unit :=
    Action.modifyComponent r fun c => { c with instruction := .text t }
  match (← Action.component r).kind with
  | .raw _ => pure ()
  | .barcode b =>
    let behind ← w.generateBehind b.background
    let bars ← (← Action.component r).rendered (← w.scribe)
    let lines ← behind.mapM fun line => (textOf line : Except Fault Text)
    replace (Text.join "\n" (lines ++ [bars]))
  | _ =>
    let t ← (← Action.component r).rendered (← w.scribe)
    replace t

/-! ### Labels -/

/-- The whole number that a message shows for a number. -/
def wholeText (v : Value) : Except Fault Text := do
  let n ← liftArithmetic (← v.toNumber).truncate
  Decimal.write n

/-- Generates the components of a label from a place on, one after the other; the result are their
instructions. A component may have something attached that clears the label meanwhile, so the label
is asked anew for each place. It does not grow meanwhile, so `fuel` may be its length. -/
def generateFrom (w : Writing) (label : Ref) : (fuel : Nat) → (place : Nat) → Action (List Value)
  | 0, _ => pure []
  | fuel + 1, place => do
    match (← Action.label label).components[place]? with
    | none => pure []
    | some r =>
      w.generateFor (.object r)
      let t ← Action.read (.object r) "instruction"
      let ts ← w.generateFrom label fuel (place + 1)
      return t :: ts

/-- Notes how many components were generated for a label. -/
def noteGenerated (label : Ref) (count : Nat) : Action Unit := do
  let l ← Action.label label
  Action.logWorded .debug .label do
    let width ← wholeText l.labelWidth
    let height ← wholeText l.labelHeight
    return "Generated " ++ Text.ofNat count ++ " component(s) for " ++ width ++ "x" ++ height
      ++ " label"

/-- Generates the components of a label; the result are their instructions, one to a line. -/
def code (w : Writing) (label : Ref) : Action Text := do
  let l ← Action.label label
  let instructions ← w.generateFrom label l.components.length 0
  noteGenerated label instructions.length
  let lines ← instructions.mapM fun line => (textOf line : Except Fault Text)
  return Text.join "\n" lines

/-! ### Objects as text -/

/-- A component in a diagnostic: its kind, identifier and position. -/
def quotedComponent (w : Writing) (c : Component) : Action Text := do
  let s ← w.scribe
  let id ← c.id.quoted s
  let x ← c.x.shown s
  let y ← c.y.shown s
  return c.kind.name ++ ("(id=" : Text) ++ id ++ ", x=" ++ x ++ ", y=" ++ y ++ ")"

/-- An object that has no text of its own. -/
def objectText (t : Thing) : Text := "<" ++ t.kindName ++ ">"

/-- What stands for a row, a list or a record inside itself. -/
def ellipsis : Value → Text
  | .tuple _ => "(...)"
  | .list _ => "[...]"
  | _ => "\x7b...\x7d"

/-- A row, a list or a record in a diagnostic. `around` are those that it stands in. -/
def quotedContent (inner : (around : List Ref) → Writing) (around : List Ref) (r : Ref)
    (v : Value) : Action Text := do
  if around.contains r then return ellipsis v
  else v.quoted (← (inner (r :: around)).scribe)

/-- A view of a record in a diagnostic: a list after the kind of the view. `around` are those that
it stands in, where nothing but dots stands for it. -/
def quotedView (inner : (around : List Ref) → Writing) (around : List Ref) (r : Ref) (t : Thing) :
    Action Text := do
  if around.contains r then return "..."
  else
    let parts := ((← get).parts? t).getD []
    let shown ← (Value.list parts).quoted (← (inner (r :: around)).scribe)
    return t.kindName ++ ("(" : Text) ++ shown ++ ")"

/-- A window on a record in a diagnostic: the record after the kind of the window. -/
def quotedWindow (w : Writing) (record : Ref) : Action Text := do
  let inside ← w.quoted record
  return "mappingproxy(" ++ inside ++ (")" : Text)

/-- A set in a diagnostic: its members in braces, if there are any. -/
def quotedSet (inner : (around : List Ref) → Writing) (around : List Ref) (r : Ref)
    (members : List Value) : Action Text := do
  if around.contains r then return "set(...)"
  else if members.isEmpty then return "set()"
  else return Value.recordText (← Value.quotedItems (← (inner (r :: around)).scribe) members)

/-- The part of the program that a kind of objects belongs to, where a kind as a whole has
methods. -/
def sourceOf (kind : String) : Source := if kind = "Label" then .label else .printer

/-- A kind of objects in a diagnostic. -/
def kindText (kind : String) : Text :=
  "<class '" ++ (sourceOf kind).name ++ ("." : Text) ++ kind ++ "'>"

/-- A method in a diagnostic: where it is defined, and of what it is a method. -/
def quotedMethod (w : Writing) (t : Thing) (m : BoundMethod) : Action Text := do
  match m.definer with
  | none => return objectText t
  | some definer =>
    let owner ←
      match m.shared with
      | some kind => pure (kindText kind)
      | none => m.owner.quoted (← w.scribe)
    return "<bound method " ++ definer ++ ("." : Text) ++ m.name ++ " of " ++ owner ++ ">"

/-- Prints an object by operations that print what lies in it. -/
def shownObject (inner : (around : List Ref) → Writing) (around : List Ref) (r : Ref) :
    Action Text := do
  match ← Action.thing r with
  | .component c => textOf c.instruction
  | .label _ =>
    let code ← Action.dispatch r "get_label_code" [] do
      return .text (← (inner around).code r)
    textOf code
  | .content v => quotedContent inner around r v
  | .view record side => quotedView inner around r (.view record side)
  | .window record => (inner around).quoted record
  | .set seats => quotedSet inner around r seats.members
  | .method m => quotedMethod (inner around) (.method m) m
  | t => return objectText t

/-- Quotes an object by operations that print what lies in it. -/
def quotedObject (inner : (around : List Ref) → Writing) (around : List Ref) (r : Ref) :
    Action Text := do
  match ← Action.thing r with
  | .component c => (inner around).quotedComponent c
  | .content v => quotedContent inner around r v
  | .view record side => quotedView inner around r (.view record side)
  | .window record => quotedWindow (inner around) record
  | .set seats => quotedSet inner around r seats.members
  | .method m => quotedMethod (inner around) (.method m) m
  | t => return objectText t

/-- The operations that print objects with no more than `fuel` objects inside each other. -/
def within : (fuel : Nat) → (around : List Ref) → Writing
  | 0 => fun _ =>
    { shown := fun _ => throw .tooDeep
      quoted := fun _ => throw .tooDeep
      generate := fun _ => throw .tooDeep }
  | fuel + 1 => fun around =>
    { shown := fun r => shownObject (within fuel) around r
      quoted := fun r => quotedObject (within fuel) around r
      generate := fun r => (within fuel around).generateComponent r }

end Writing

namespace Action

/-- The operations that print the objects of the store. -/
def writing : Action Writing := return Writing.within (← get).depth []

/-- How the objects of the store are printed. -/
def scribe : Action (Scribe Action) := do (← writing).scribe

/-- A value printed into a message. -/
def shown (v : Value) : Action Text := do v.shown (← scribe)

/-- A value in a diagnostic. -/
def quoted (v : Value) : Action Text := do v.quoted (← scribe)

/-- A value as a token. -/
def token (v : Value) : Action Text := do v.token (← scribe)

/-- Generates the instruction of a component. -/
def generate (r : Ref) : Action Unit := do (← writing).generate r

/-- Generates the components of a label; the result are their instructions, one to a line. -/
def code (label : Ref) : Action Text := do (← writing).code label

end Action

end Zpl
