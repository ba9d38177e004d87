import Zpl.Component.Render
import Zpl.Component.Validation
import Zpl.Event
import Zpl.Label.Basic
import Zpl.Print.Link
import Zpl.Sequence.Seats
import Zpl.Signature

/-!
# The store

Components are shared: a label lists components that are still edited, one component may be on
several labels, and a barcode refers to its background. So objects live in a store, under numbers
that are never used again. Rows, lists and records are shared in the same way, and so is a method
that was asked for and not called yet; they are objects as well. The store also keeps the events
that operations issue, and attributes that callers attach to objects of their own accord.

## Main definitions

* `Thing` — an object.
* `Store` — the objects and the events issued so far.
* `Store.directory` — what is known about the objects without printing them.
* `Surroundings` — what operations on a store take as given.
* `Action` — an operation on a store; a failure keeps what was done before it.
* `Action.made` — a value that was just computed, as an object of its own.
-/

namespace Zpl

/-- A method of something, to be called later. -/
structure BoundMethod where
  owner : Value
  name : String
  /-- The kind that the method is one of as a whole, if it does not work on its owner. -/
  shared : Option String := none
  /-- The kind of object that defines the method. Rows, lists, records and values that are no
  objects have methods of their own, which no such kind defines. -/
  definer : Option String := none
  deriving Repr

/-- What a view of a record shows. -/
inductive RecordSide where
  | keys
  | values
  | entries
  deriving DecidableEq, Repr

/-- An object. -/
inductive Thing where
  | component (c : Component)
  | label (l : Label)
  | backend (b : Backend)
  /-- A printer behind a backend. -/
  | printer (backend : Value)
  /-- A row, a list or a record. -/
  | content (v : Value)
  /-- What a record holds, at the time that the view is looked at. -/
  | view (record : Ref) (side : RecordSide)
  /-- A record that is looked at and cannot be changed from here. -/
  | window (record : Ref)
  /-- A set of values that can be keys, no two of which are equal. -/
  | set (seats : Seats Value)
  | method (m : BoundMethod)
  /-- A handler that is told of warnings. -/
  | handler
  deriving Repr

namespace RecordSide

def kindName : RecordSide → String
  | .keys => "dict_keys"
  | .values => "dict_values"
  | .entries => "dict_items"

/-- What a view shows of the keys and the values of a record. -/
def parts (keys values : List Value) : RecordSide → List Value
  | .keys => keys
  | .values => values
  | .entries => (keys.zip values).map fun (key, v) => .tuple [key, v]

end RecordSide

namespace Thing

/-- The name of the kind of an object. -/
def kindName : Thing → String
  | .component c => c.kind.name
  | .label _ => "Label"
  | .backend b => b.name
  | .printer _ => "ZplPrinter"
  | .content v => v.kindName .empty
  | .view _ side => side.kindName
  | .window _ => "mappingproxy"
  | .set _ => "set"
  | .method m => if m.definer.isSome then "method" else "builtin_function_or_method"
  | .handler => "method"

end Thing

/-- Objects by number, attributes attached by callers, and events in order. -/
structure Store where
  things : List Thing := []
  attached : List ((Ref × String) × Value) := []
  events : List Event := []
  /-- How many values that are no numbers were told apart so far. -/
  nans : Nat := 0
  deriving Repr

namespace Store

def thing? (s : Store) (r : Ref) : Option Thing := s.things[r]?

def component? (s : Store) (r : Ref) : Option Component :=
  match s.thing? r with
  | some (.component c) => some c
  | _ => none

def label? (s : Store) (r : Ref) : Option Label :=
  match s.thing? r with
  | some (.label l) => some l
  | _ => none

def backend? (s : Store) (r : Ref) : Option Backend :=
  match s.thing? r with
  | some (.backend b) => some b
  | _ => none

/-- The row, list or record that an object is, or that one looks at through it. -/
def content? (s : Store) (r : Ref) : Option Value :=
  match s.thing? r with
  | some (.content v) => some v
  | some (.window record) =>
    match s.thing? record with
    | some (.content v) => some v
    | _ => none
  | _ => none

/-- The items of a list. -/
def items? (s : Store) (r : Ref) : Option (List Value) :=
  match s.content? r with
  | some (.list vs) => some vs
  | _ => none

/-- Whether a value is told of warnings when it stands in the place of a handler. -/
def isHandler (s : Store) : Value → Bool
  | .object r =>
    match s.thing? r with
    | some .handler => true
    | _ => false
  | _ => false

/-- Replaces an object. -/
def put (s : Store) (r : Ref) (t : Thing) : Store := { s with things := s.things.set r t }

/-- What an object hands out one by one, if it does. -/
def parts? (s : Store) : Thing → Option (List Value)
  | .label l => some (l.components.map .object)
  | .content v => (v.elements .empty).toOption
  | .view record side =>
    match s.content? record with
    | some (.record keys values) => some (side.parts keys values)
    | _ => none
  | .window record =>
    match s.content? record with
    | some (.record keys _) => some keys
    | _ => none
  | .set seats => some seats.members
  | _ => none

/-- The members of an object that is a set, or that is compared as one: a view of the keys or of
the entries of a record. -/
def members? (s : Store) (r : Ref) : Option (List Value) :=
  match s.thing? r with
  | some (.set seats) => some seats.members
  | some (.view record side) => if side = .values then none else s.parts? (.view record side)
  | _ => none

/-- What is known about an object without printing it. -/
def directory (s : Store) : Directory := fun r =>
  match s.thing? r with
  | some t => { kind := t.kindName, parts := s.parts? t, content := s.content? r }
  | none => {}

/-- A depth that objects within objects reach only if they contain each other without end. A list
within itself ends where it is met again, so every list may be passed once between any two other
objects. -/
def depth (s : Store) : Nat := (s.things.length + 2) * (s.things.length + 2)

/-! ### Objects in their places -/

@[simp] theorem thing?_put_self {s : Store} {r : Ref} (h : r < s.things.length) (t : Thing) :
    (s.put r t).thing? r = some t := by
  simp [put, thing?, h]

@[simp] theorem thing?_put_of_ne {s : Store} {r q : Ref} (h : r ≠ q) (t : Thing) :
    (s.put r t).thing? q = s.thing? q := by
  simp [put, thing?, h]

theorem lt_length_of_component? {s : Store} {r : Ref} {c : Component}
    (h : s.component? r = some c) : r < s.things.length := by
  simp only [component?, thing?] at h
  split at h
  · rename_i heq
    exact (List.getElem?_eq_some_iff.1 heq).1
  · simp at h

/-- A component that is put in place is there. -/
theorem component?_put_self {s : Store} {r : Ref} (h : r < s.things.length) (c : Component) :
    (s.put r (.component c)).component? r = some c := by
  simp [component?, h]

/-- Putting an object in place touches no other one. -/
theorem component?_put_of_ne {s : Store} {r q : Ref} (h : r ≠ q) (t : Thing) :
    (s.put r t).component? q = s.component? q := by
  simp [component?, h]

@[simp] theorem events_put (s : Store) (r : Ref) (t : Thing) : (s.put r t).events = s.events := rfl

@[simp] theorem attached_put (s : Store) (r : Ref) (t : Thing) :
    (s.put r t).attached = s.attached := rfl

end Store

/-! ### Actions -/

/-- What operations on a store take as given. -/
structure Surroundings where
  circumstances : Circumstances := {}
  /-- Whether the log is strict: a record that cannot be put into words ends the operation that it
  reports. Listeners usually keep such a failure to themselves. -/
  isStrict : Bool := false
  /-- How a value is called that stands in the place of a method. -/
  invoke : Value → Call → EStateM Fault Store Value
  /-- What goes by a name: an attribute, or else a method to be called later. -/
  fetch : Value → String → EStateM Fault Store Value
  /-- How what goes by a name is called. -/
  call : Value → String → Call → EStateM Fault Store Value

/-- An operation on a store. A failure keeps what was done before it. -/
abbrev Action := ReaderT Surroundings (EStateM Fault Store)

namespace Action

/-! How the operations that all others are put together from act on a store. -/

@[simp] theorem pure_apply {α : Type} (a : α) (around : Surroundings) (s : Store) :
    (pure a : Action α) around s = .ok a s := rfl

theorem bind_apply {α β : Type} (x : Action α) (f : α → Action β) (around : Surroundings)
    (s : Store) :
    (x >>= f) around s =
      match x around s with
      | .ok a s => f a around s
      | .error fault s => .error fault s := by
  simp only [bind, ReaderT.bind, EStateM.bind]
  cases x around s <;> rfl

@[simp] theorem throw_apply {α : Type} (fault : Fault) (around : Surroundings) (s : Store) :
    (throw fault : Action α) around s = .error fault s := rfl

@[simp] theorem get_apply (around : Surroundings) (s : Store) :
    (get : Action Store) around s = .ok s s := rfl

@[simp] theorem set_apply (t : Store) (around : Surroundings) (s : Store) :
    (set t : Action PUnit) around s = .ok () t := rfl

def directory : Action Directory := return (← get).directory

def circumstances : Action Circumstances := fun around => pure around.circumstances

/-- How many elements there is memory for at once. -/
def capacity : Action Nat := return (← circumstances).capacity

/-- Adds an object under a new number. -/
def add (t : Thing) : Action Ref := do
  let s ← get
  set { s with things := s.things ++ [t] }
  return s.things.length

def put (r : Ref) (t : Thing) : Action Unit := modify (·.put r t)

/-- A number that is one of its own: a not-a-number is told apart from all others by its payload,
if it is not yet. -/
def distinct (x : Binary64) : Action Binary64 := do
  match x with
  | .nan 0 =>
    let s ← get
    set { s with nans := s.nans + 1 }
    return .nan (s.nans + 1)
  | x => return x

mutual

/-- A value that was just computed, as one of its own: its rows, lists and records become objects.
What is an object stays the one that it is. -/
def made : Value → Action Value
  | .float x => do return .float (← distinct x)
  | .tuple vs => do
    let vs ← madeAll vs
    return .object (← add (.content (.tuple vs)))
  | .list vs => do
    let vs ← madeAll vs
    return .object (← add (.content (.list vs)))
  | .record keys values => do
    let keys ← madeAll keys
    let values ← madeAll values
    return .object (← add (.content (.record keys values)))
  | v => return v

def madeAll : List Value → Action (List Value)
  | [] => return []
  | v :: vs => do
    let v ← made v
    let vs ← madeAll vs
    return v :: vs

end

/-- Something that is there, or a fault that says it is not. -/
def demand {α : Type} : Option α → Action α
  | some a => pure a
  | none => throw .missingAttribute

def thing (r : Ref) : Action Thing := do demand ((← get).thing? r)

def component (r : Ref) : Action Component := do demand ((← get).component? r)

def label (r : Ref) : Action Label := do demand ((← get).label? r)

def modifyComponent (r : Ref) (f : Component → Component) : Action Unit := do
  let c ← component r
  put r (.component (f c))

def modifyLabel (r : Ref) (f : Label → Label) : Action Unit := do
  let l ← label r
  put r (.label (f l))

/-- Looking at a component that is there leaves the store as it is. -/
theorem component_eq_ok {s : Store} {r : Ref} {c : Component} (h : s.component? r = some c)
    (around : Surroundings) : component r around s = .ok c s := by
  have reads : component r around s = demand (s.component? r) around s := rfl
  rw [reads, h]
  rfl

/-- Changing a component that is there puts the changed one in its place. -/
theorem modifyComponent_eq_ok {s : Store} {r : Ref} {c : Component}
    (h : s.component? r = some c) (f : Component → Component) (around : Surroundings) :
    modifyComponent r f around s = .ok () (s.put r (.component (f c))) := by
  have reads : modifyComponent r f around s =
      ((demand (s.component? r)).bind fun c => put r (.component (f c))) around s := rfl
  rw [reads, h]
  rfl

/-- Carries out an operation that only issues events. -/
def issue {α : Type} (operation : Issuing α) : Action α := fun _ s =>
  match operation s.events with
  | .ok a events => .ok a { s with events := events }
  | .error fault events => .error fault { s with events := events }

def log (level : Level) (source : Source) (message : Text) : Action Unit :=
  issue (Issuing.log level source message)

/-- Logs a record that is put into words by whoever listens. If that fails there is no record, and
the operation goes on, unless the log is strict. -/
def logWorded (level : Level) (source : Source) (words : Action Text) : Action Unit :=
  fun around s =>
    match words around s with
    | .ok message s => log level source message around s
    | .error fault s => if around.isStrict then .error fault s else .ok () s

end Action

end Zpl
