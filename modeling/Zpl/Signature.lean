import Zpl.Value.Basic
import Zpl.Fault

/-!
# Calls and signatures

An operation is called with values in a row and with values by name. Its signature says which
parameters there are; binding gives each of them a value, or refuses the call.

## Main definitions

* `Signature` — the parameters of an operation.
* `Call` — the values it is called with.
* `Signature.bind` — a value for each parameter.
-/

namespace Zpl

/-- How a parameter can be given. -/
inductive Giving where
  | either
  /-- In a row only; such a parameter needs no name. -/
  | inRow
  | byName
  deriving DecidableEq, Repr

/-- A parameter. One without a default has to be given. -/
structure Parameter where
  name : String := ""
  default? : Option Value := none
  giving : Giving := .either
  deriving Repr

namespace Parameter

/-- Whether a parameter can be given in a row. -/
def takesPlace (p : Parameter) : Bool := p.giving != .byName

/-- Whether a parameter is given by a name. -/
def isNamed (p : Parameter) (name : Text) : Bool :=
  p.giving != .inRow && Text.ofString p.name == name

end Parameter

/-- The parameters of an operation, those given by name only last. -/
structure Signature where
  parameters : List Parameter := []
  /-- Whether further values in a row are taken together, as a list. -/
  gathers : Bool := false
  /-- Whether further values by name are taken together, as a record. -/
  gathersNamed : Bool := false
  deriving Repr

/-- The values that an operation is called with. -/
structure Call where
  inRow : List Value := []
  named : List (Text × Value) := []
  deriving Repr

namespace Signature

/-- A signature of parameters that all have to be given. -/
def required (names : List String) : Signature :=
  { parameters := names.map fun name => { name := name } }

/-- A signature of values in a row: some that have to be given, and then some that need not be. -/
def row (required : Nat) (optional : List Value := []) : Signature :=
  { parameters := List.replicate required { giving := .inRow }
      ++ optional.map fun v => { default? := some v, giving := .inRow } }

/-- The value of a parameter that stands in no row. -/
def named (call : Call) (p : Parameter) : Except Fault Value :=
  match call.named.find? fun entry => p.isNamed entry.1, p.default? with
  | some (_, v), _ => .ok v
  | none, some v => .ok v
  | none, none => .error .wrongType

/-- Gives the parameters values, first from a row and then by name. -/
def bindParameters (call : Call) : List Parameter → List Value → Except Fault (List Value)
  | [], _ => .ok []
  | p :: ps, row => do
    match p.takesPlace, row with
    | true, v :: row =>
      if call.named.any fun entry => p.isNamed entry.1 then throw .wrongType
      let values ← bindParameters call ps row
      return v :: values
    | _, _ =>
      let v ← named call p
      let values ← bindParameters call ps row
      return v :: values

/-- How many values in a row the parameters take. -/
def rowLength (s : Signature) : Nat := (s.parameters.filter Parameter.takesPlace).length

/-- The values by name that are none of the parameters'. -/
def furtherNamed (s : Signature) (call : Call) : List (Text × Value) :=
  call.named.filter fun entry => !s.parameters.any fun p => p.isNamed entry.1

/-- The values of a call for the parameters of a signature; what is gathered comes last. A call is
refused when it leaves out a parameter, gives one twice, or gives something that is none. -/
def bind (s : Signature) (call : Call) : Except Fault (List Value) := do
  let values ← bindParameters call s.parameters call.inRow
  let surplus := call.inRow.drop s.rowLength
  let further := s.furtherNamed call
  if !s.gathers && !surplus.isEmpty || !s.gathersNamed && !further.isEmpty then throw .wrongType
  else
    return values ++ (if s.gathers then [.list surplus] else [])
      ++ (if s.gathersNamed then [.ofFields further] else [])

/-! ### Refused calls -/

/-- The parameters that have to be given. -/
def demanded (s : Signature) : List Parameter :=
  s.parameters.filter fun p => p.takesPlace && p.default?.isNone

/-- Names between quotes, as a sentence lists them. -/
def listed (names : List String) : Text :=
  let quoted := names.map fun name => Text.ofString ("'" ++ name ++ "'")
  match quoted with
  | [first, second] => first ++ " and " ++ second
  | quoted =>
    match quoted.getLast?, quoted.dropLast with
    | some last, [] => last
    | some last, first => Text.join ", " first ++ ", and " ++ last
    | none, _ => []

/-- A number of things. -/
def counted (n : Nat) (thing : String) : Text :=
  Text.ofNat n ++ " " ++ thing ++ (if n = 1 then ([] : Text) else "s")

/-- How many values in a row an operation takes, the thing that it works on being one of them. -/
def room (s : Signature) : Text :=
  let most := s.rowLength + 1
  let least := s.demanded.length + 1
  if least = most then counted most "positional argument"
  else
    "from " ++ Text.ofNat least ++ " to " ++ Text.ofNat most ++ " positional arguments"

/-- What is said of a call that an operation of an object refuses, as far as values in a row are
concerned. -/
def complaint (s : Signature) (title : String) (call : Call) : Text :=
  let given := call.inRow.length + 1
  if s.rowLength + 1 < given && !s.gathers then
    title ++ ("() takes " : Text) ++ s.room ++ " but " ++ Text.ofNat given ++ " were given"
  else
    let missing := s.demanded.drop call.inRow.length
    title ++ ("() missing " : Text) ++ counted missing.length "required positional argument"
      ++ ": " ++ listed (missing.map (·.name))

/-- What is said of a call that an operation of a plain value refuses, as far as values in a row are
concerned. -/
def plainComplaint (s : Signature) (kind name : String) (call : Call) : Text :=
  let given := Text.ofNat call.inRow.length
  let least := s.demanded.length
  let named := Text.ofString name
  if s.parameters.isEmpty then kind ++ ("." : Text) ++ named ++ "() takes no arguments ("
    ++ given ++ " given)"
  else if s.rowLength = 0 then named ++ "() takes no positional arguments"
  else if least = s.rowLength then
    named ++ " expected " ++ counted least "argument" ++ ", got " ++ given
  else if call.inRow.length < least then
    named ++ " expected at least " ++ counted least "argument" ++ ", got " ++ given
  else named ++ " expected at most " ++ counted s.rowLength "argument" ++ ", got " ++ given

end Signature

end Zpl
