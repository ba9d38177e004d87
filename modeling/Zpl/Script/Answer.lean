import Zpl.Script.Literal
import Zpl.Store.Printing

/-!
# Answers

What a script shows of its objects: a value, an object by the name it goes by, or the state of an
object, field by field. The state of a barcode contains that of its background, and the state of a
printer that of its backend. The name of the printer behind a backend is part of the state, so
showing a state may print objects.

## Main definitions

* `Answer` — what is shown.
* `Answer.ofValue` — a value, with names in place of objects.
* `Answer.state` — the state of an object.
* `FaultAnswer` — a fault as a script shows it.
* `Moment` — the objects of a script and their names at some time.
-/

namespace Zpl

/-- What a script shows. -/
inductive Answer where
  /-- A value that is no object and in which there is none. -/
  | value (v : Value)
  /-- An object: its kind, the name it goes by, and its identifier. -/
  | object (kind : String) (name : Option String) (id : Answer)
  | items (answers : List Answer)
  | fields (names : List String) (answers : List Answer)
  deriving Repr

namespace Answer

/-- The name of the field that shows the entry of a key. -/
def fieldName : Value → String
  | .none => "null"
  | .bool b => if b then "true" else "false"
  | .int n => (Text.ofInt n).toString
  | .float x => x.text.toString
  | .text t => t.toString
  | _ => ""

/-- The identifier of an object, if it has one. -/
def idOf (s : Store) (r : Ref) : Except Fault Value :=
  match s.attribute? r "id" with
  | some v => v
  | none => .ok .none

mutual

/-- A value, with names in place of objects. A whole number has to have few enough digits to be
written. `fuel` bounds objects within objects. -/
def ofValueWithin (s : Store) (scope : Scope) (fuel : Nat) (v : Value) : Except Fault Answer :=
  match v with
  | .int n => do
    let _ ← Decimal.write n
    return .value (.int n)
  | .tuple vs => do
    let answers ← ofValuesWithin s scope fuel vs
    return .items answers
  | .list vs => do
    let answers ← ofValuesWithin s scope fuel vs
    return .items answers
  | .record keys vs => do
    let answers ← ofValuesWithin s scope fuel vs
    return .fields (keys.map fieldName) answers
  | .object r =>
    match fuel with
    | 0 => .error .tooDeep
    | fuel + 1 =>
      match s.thing? r with
      | none => .error .missingAttribute
      | some (.content v) => ofValueWithin s scope fuel v
      | some t => do
        let id ← idOf s r
        let id ← ofValueWithin s scope fuel id
        return .object t.kindName (scope.nameOf? r) id
  | v => .ok (.value v)
termination_by (fuel, sizeOf v)

def ofValuesWithin (s : Store) (scope : Scope) (fuel : Nat) (vs : List Value) :
    Except Fault (List Answer) :=
  match vs with
  | [] => .ok []
  | v :: vs => do
    let answer ← ofValueWithin s scope fuel v
    let answers ← ofValuesWithin s scope fuel vs
    return answer :: answers
termination_by (fuel, sizeOf vs)

end

/-- A value, with names in place of objects. -/
def ofValue (s : Store) (scope : Scope) (v : Value) : Except Fault Answer :=
  ofValueWithin s scope s.depth v

/-! ### States -/

/-- Fields with the values of attributes. -/
def ofFields (scope : Scope) (fields : Fields) : Action (List (String × Answer)) :=
  fields.mapM fun (name, v) => do
    let v ← v
    let answer ← ofValue (← get) scope v
    return (name, answer)

/-- Named answers as one. -/
def ofEntries (entries : List (String × Answer)) : Answer :=
  .fields (entries.map (·.1)) (entries.map (·.2))

/-- The fields of an object. `state` shows the parts that lie within it. -/
def entries (scope : Scope) (state : Value → Action Answer) (r : Ref) (t : Thing) :
    Action (List (String × Answer)) := do
  match t with
  | .component c =>
    let own ← ofFields scope (c.fields.filter (·.1 != "background"))
    match c.kind with
    | .barcode b =>
      let part ← state b.background
      return own ++ [("background", part)]
    | _ => return own
  | .label l => ofFields scope l.fields
  | .backend b =>
    let own ← ofFields scope (b.shownFields (← Action.directory))
    let described ← Action.describe (.object r)
    let description ← ofValue (← get) scope described
    return own ++ [("describe", description)]
  | .printer backend =>
    let part ← state backend
    return [("backend", part)]
  | _ => return []

/-- Whether an object has a state to be shown. -/
def isShown : Thing → Bool
  | .component _ | .label _ | .backend _ | .printer _ => true
  | _ => false

/-- The state of an object; any other value has none. `fuel` bounds objects within objects. -/
def stateWithin (scope : Scope) : (fuel : Nat) → Value → Action Answer
  | 0, _ => throw .tooDeep
  | fuel + 1, .object r => do
    let t ← Action.thing r
    if isShown t then
      let own ← entries scope (stateWithin scope fuel) r t
      return ofEntries (("type", .value (.text t.kindName)) :: own)
    else return .value .none
  | _ + 1, _ => return .value .none

/-- The state of an object; any other value has none. -/
def state (scope : Scope) (v : Value) : Action Answer := do
  stateWithin scope (← get).depth v

end Answer

/-! ### Faults and events -/

/-- A fault as a script shows it. -/
inductive FaultAnswer where
  | general (fault : Fault)
  /-- A fault of printing: what is said about it, its message and its printer. -/
  | printing (fault : PrintFault) (told : Text) (message target : Answer)

namespace FaultAnswer

/-- What is said about a fault of printing, which may be about an object. -/
def told (p : PrintFault) : Action Text := do
  if p.target.truth (← Action.directory) then
    let target ← Action.shown p.target
    let message ← Action.shown p.message
    return target ++ ": " ++ message
  else Writing.textOf p.message

/-- A fault as a script shows it. -/
def ofFault (scope : Scope) : Fault → Action FaultAnswer
  | .print p => do
    let told ← told p
    let message ← Answer.ofValue (← get) scope p.message
    let target ← Answer.ofValue (← get) scope p.target
    return .printing p told message target
  | fault => return .general fault

end FaultAnswer

/-- The objects of a script and their names at some time. -/
structure Moment where
  store : Store
  scope : Scope

/-- A value as it was shown at some time. -/
def Moment.answer (m : Moment) (v : Value) : Except Fault Answer := Answer.ofValue m.store m.scope v

end Zpl
