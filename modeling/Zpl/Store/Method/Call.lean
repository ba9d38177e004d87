import Zpl.Store.Method.Bytes
import Zpl.Store.Method.Collection
import Zpl.Store.Method.Content
import Zpl.Store.Method.Number
import Zpl.Store.Method.Object

/-!
# Methods by name

Which methods a value has depends on what it is. A method is called by its name, or asked for by its
name and called later: meanwhile it is an object that remembers what it is a method of. Whatever
else goes by a name cannot be called, and what was attached under the name of a method is called
instead of the method.

## Main definitions

* `Store.offers` — the methods of a value.
* `Surroundings.within` — the surroundings in which methods call each other.
* `Action.callNamed` — calls what goes by a name.
* `Action.fetchNamed` — what goes by a name.
* `Action.attempt` — an operation carried out on a store.
-/

namespace Zpl

/-- The methods of an object. -/
def Thing.offers (r : Ref) : Thing → List Offer
  | .component c =>
    c.methods.map (Method.offer c.kind.name (fun name => some (c.kind.definer name)) r)
  | .label _ => Label.methods.map (Method.offer "Label" (fun _ => some "Label") r)
  | .backend b => Backend.methods.map (Method.offer b.name (fun _ => some b.name) r)
  | .printer _ => Printer.methods.map (Method.offer "ZplPrinter" (fun _ => some "ZplPrinter") r)
  | .content (.list _) => Method.offers Listing.methods "list" r
  | .content (.tuple vs) => Method.offers Row.methods "tuple" vs
  | .content (.record ..) => Method.offers Record.methods "dict" r
  | .window record => Method.offers Record.readers "mappingproxy" record
  | .set _ => Method.offers Collection.methods "set" r
  | .view _ .values => []
  | .view _ side => Method.offers Collection.viewMethods side.kindName r
  | _ => []

/-- The methods of a value. -/
def Store.offers (s : Store) : Value → List Offer
  | .bool b => Method.offers (Integer.methods fun n => .bool (n != 0)) "bool" (if b then 1 else 0)
  | .int n => Method.offers (Integer.methods .int) "int" n
  | .float x => Method.offers Binary64.methods "float" x
  | .text t => Method.offers Text.methods "str" t
  | .bytes bs => Method.offers Bytes.methods "bytes" bs
  | .object r => ((s.thing? r).map (·.offers r)).getD []
  | _ => []

/-- The method that a value has under a name. -/
def Store.offer? (s : Store) (v : Value) (name : String) : Option Offer :=
  (s.offers v).find? (·.name == name)

/-- Carries out a method. -/
def Offer.carryOut (offer : Offer) (call : Call) : Action Value := do
  Action.made (← offer.run (← offer.bind call))

namespace Action

/-! ### Calling what was asked for -/

/-- Tells a handler of a warning. -/
def tell (call : Call) : Action Value := do
  match ← (Signature.required ["component", "message"]).bind call with
  | [about, message] =>
    let id ← read about "id"
    issue (Issuing.emit (.warning (about.kindName (← directory)) id message))
    return .none
  | _ => throw .wrongType

/-- Calls a method that was asked for, or a handler; nothing else can be called. -/
def callObject (v : Value) (call : Call) : Action Value := do
  let .object r := v | throw (← uncallable v)
  match ← thing r with
  | .handler => tell call
  | .method m =>
    match (← get).offer? m.owner m.name with
    | some offer => offer.carryOut call
    | none => throw (← uncallable v)
  | _ => throw (← uncallable v)

/-! ### What goes by a name -/

/-- What a view shows the record of that it belongs to, if that is asked for: a window of its
own. -/
def windowOf? (r : Ref) (name : String) : Action (Option Value) := do
  match (← get).thing? r with
  | some (.view record _) =>
    if name = "mapping" then return some (.object (← add (.window record))) else return none
  | _ => return none

/-- An attribute of a value, if it has one of the name. -/
def attribute? (v : Value) (name : String) : Action (Option Value) := do
  match v with
  | .object r =>
    match (← get).attribute? r name, ← windowOf? r name with
    | some v, _ => return some (← v)
    | none, opened => return opened
  | v => return v.partOfNumber? name

/-- Calls what goes by a name: an attribute, or else a method. -/
def callNamed (v : Value) (name : String) (call : Call) : Action Value := do
  match ← attribute? v name with
  | some found => invoke found call
  | none =>
    match (← get).offer? v name with
    | some offer => offer.carryOut call
    | none => throw (← lacking v name)

/-- What goes by a name: an attribute, or else a method to be called later. -/
def fetchNamed (v : Value) (name : String) : Action Value := do
  match ← attribute? v name with
  | some found => made found
  | none =>
    match (← get).offer? v name with
    | some offer =>
      return .object (← add (.method {
        owner := v
        name := name
        shared := offer.shared
        definer := offer.definer }))
    | none => throw (← lacking v name)

end Action

namespace Surroundings

/-- The surroundings in which operations call each other by name to a depth of `fuel`, with a log
that is strict or not. -/
def hearing (isStrict : Bool) (c : Circumstances) : (fuel : Nat) → Surroundings
  | 0 =>
    { circumstances := c
      isStrict := isStrict
      invoke := fun _ _ => throw .tooDeep
      fetch := fun _ _ => throw .tooDeep
      call := fun _ _ _ => throw .tooDeep }
  | fuel + 1 =>
    let inner := hearing isStrict c fuel
    { circumstances := c
      isStrict := isStrict
      invoke := fun v call => Action.callObject v call inner
      fetch := fun v name => Action.fetchNamed v name inner
      call := fun v name call => Action.callNamed v name call inner }

/-- The surroundings of a depth of `fuel` with a log that is not strict. -/
def within (c : Circumstances) (fuel : Nat) : Surroundings := hearing false c fuel

end Surroundings

namespace Action

/-- An operation carried out on a store, with the store that it leaves. -/
def attemptIn {α : Type} (around : Surroundings) (operation : Action α) (s : Store) :
    Except Fault α × Store :=
  match operation around s with
  | .ok a s => (.ok a, s)
  | .error fault s => (.error fault, s)

/-- An operation carried out on a store under some circumstances. -/
def attempt {α : Type} (c : Circumstances) (operation : Action α) (s : Store) :
    Except Fault α × Store :=
  operation.attemptIn (.within c s.depth) s

/-- An operation carried out on a store while the log is strict. -/
def attemptHeard {α : Type} (c : Circumstances) (operation : Action α) (s : Store) :
    Except Fault α × Store :=
  operation.attemptIn (.hearing true c s.depth) s

end Action

end Zpl
