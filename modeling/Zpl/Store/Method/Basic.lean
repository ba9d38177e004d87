import Zpl.Store.Field

/-!
# Methods

Callers work on things through methods. A method has a name and a signature, and is carried out on
one thing. Which methods there are depends on the kind of the thing; an `Offer` is a method together
with the thing that has it.

## Main definitions

* `Method` — an operation on things of a kind.
* `Offer` — a method of one thing.
-/

namespace Zpl

/-- An operation on things of a kind. -/
structure Method (α : Type) where
  name : String
  signature : Signature := {}
  /-- Whether the method is one of the kind as a whole, and works on no thing. -/
  isShared : Bool := false
  run : α → List Value → Action Value

/-- A method of one thing. -/
structure Offer where
  name : String
  /-- The kind of the thing. -/
  kind : String
  /-- The kind of object that defines the method, if objects have it. -/
  definer : Option String := none
  isShared : Bool := false
  signature : Signature
  run : List Value → Action Value

namespace Method

variable {α : Type}

/-- A method that answers with a value and takes none. -/
def query (name : String) (f : α → Action Value) : Method α where
  name := name
  run a _ := f a

/-- A method that takes one value. -/
def asking (name : String) (signature : Signature) (f : α → Value → Action Value) : Method α where
  name := name
  signature := signature
  run a vs :=
    match vs with
    | [v] => f a v
    | _ => throw .wrongType

/-- A method that answers with nothing. -/
def procedure (name : String) (signature : Signature)
    (f : α → List Value → Action Unit) : Method α where
  name := name
  signature := signature
  run a vs := do
    f a vs
    return .none

/-- A method that takes one value and answers with nothing. -/
def taking (name parameter : String) (f : α → Value → Action Unit) : Method α :=
  procedure name (.required [parameter]) fun a vs =>
    match vs with
    | [v] => f a v
    | _ => throw .wrongType

/-- A method of one thing. -/
def offer (kind : String) (definer : String → Option String) (a : α) (m : Method α) : Offer where
  name := m.name
  kind := kind
  definer := definer m.name
  isShared := m.isShared
  signature := m.signature
  run vs := m.run a vs

/-- The methods of one thing, defined for values of its kind. -/
def offers (ms : List (Method α)) (kind : String) (a : α) : List Offer :=
  ms.map (offer kind (fun _ => none) a)

end Method

namespace Offer

/-- The kind that a method is one of as a whole, if it is. -/
def shared (offer : Offer) : Option String := if offer.isShared then some offer.kind else none

/-- What is said of a call that the method refuses. -/
def complaint (offer : Offer) (call : Call) : Text :=
  match offer.definer with
  | some definer => offer.signature.complaint (definer ++ "." ++ offer.name) call
  | none => offer.signature.plainComplaint offer.kind offer.name call

/-- The values of a call for the parameters of a method. -/
def bind (offer : Offer) (call : Call) : Except Fault (List Value) :=
  match offer.signature.bind call with
  | .ok values => .ok values
  | .error _ => .error (.unsuited (offer.complaint call))

end Offer

end Zpl
