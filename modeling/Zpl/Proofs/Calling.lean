import Zpl.Proofs.Component.Altering
import Zpl.Store.Method.Call

/-!
# Calls by name

A caller names a method, and which one that is depends on the object: an attribute of the name comes
first, then what was attached under it, and only then a method. Where no attribute and nothing
attached is in the way, a call carries out the method of the object.

## Main definitions

* `Store.IsFree` — a name of an object that stands for a method.
* `Surroundings.inside` — the surroundings of a method that a caller calls.
* `Action.attemptAll` — callers who call one object again and again.

## Main results

* `Action.callNamed_eq` — a call by name carries out the method of the name.
* `Action.attempt_method` — what comes of a call is what comes of the method.
* `Action.attempt_component` — the same for a component, where the names of methods are always free
  of attributes.
* `Action.attempt_altering` — and if that alters the component, what comes of the call is the altered
  component and no answer.
* `Action.attempt_fetch` — what comes of reading an attribute.
-/

namespace Zpl

namespace Store

/-- A name of an object that is no attribute of it and has nothing attached to it. -/
structure IsFree (s : Store) (r : Ref) (name : String) (x : Thing) : Prop where
  there : s.thing? r = some x
  noView : ∀ record side, x ≠ .view record side
  noField : (x.fields s.directory).lookup name = none
  noShared : x.sharedFields.lookup name = none
  unattached : s.attached.lookup (r, name) = none

/-- The name of a method of a label is free on a label where nothing is attached under it. -/
theorem isFree_label {s : Store} {l : Ref} {lab : Label} (hl : s.label? l = some lab)
    {name : String} (hname : lab.fields.lookup name = none)
    (unattached : s.attached.lookup (l, name) = none) : s.IsFree l name (.label lab) where
  there := label?_eq_some_iff.1 hl
  noView := nofun
  noField := hname
  noShared := rfl
  unattached := unattached

/-- The methods of a component go by other names than its attributes. -/
theorem lookup_fields_of_method {comp : Component} {m : Method Ref} (hm : m ∈ comp.methods)
    (d : Directory) : ((Thing.component comp).fields d).lookup m.name = none := by
  have apart : comp.methods.all (fun m =>
      (((Thing.component comp).fields d).lookup m.name).isNone) = true := by
    obtain ⟨id, x, y, labelWidth, labelHeight, alignment, instruction, listener, kind⟩ := comp
    cases kind with
    | raw size => rfl
    | text line => rfl
    | barcode b => rfl
    | shape form =>
      obtain ⟨figure, width, height, thickness, color⟩ := form
      cases figure <;> rfl
  exact Option.isNone_iff_eq_none.1 (List.all_eq_true.1 apart m hm)

/-- The name of a method of a component is free on a component where nothing is attached under
it. -/
theorem isFree_component {s : Store} {r : Ref} {comp : Component} (hc : s.component? r = some comp)
    {name : String} {m : Method Ref} (hm : comp.methods.find? (·.name == name) = some m)
    (unattached : s.attached.lookup (r, name) = none) : s.IsFree r name (.component comp) where
  there := component?_eq_some_iff.1 hc
  noView := nofun
  noField := by
    have named : m.name = name := by simpa using List.find?_some hm
    rw [← named]
    exact lookup_fields_of_method (List.mem_of_find?_eq_some hm) _
  noShared := rfl
  unattached := unattached

end Store

/-- The surroundings in which a method is carried out that a caller of the store `s` calls. -/
def Surroundings.inside (c : Circumstances) (s : Store) : Surroundings := .within c (s.depth - 1)

namespace Action

variable {around : Surroundings} {s : Store} {r : Ref} {name : String} {x : Thing} {o : Offer}

/-- Only views show the record that they belong to. -/
theorem windowOf?_eq_ok (hx : s.thing? r = some x) (noView : ∀ record side, x ≠ .view record side) :
    windowOf? r name around s = .ok none s := by
  simp only [windowOf?, bind_apply, get_apply, hx]
  cases x with
  | view record side => exact absurd rfl (noView record side)
  | _ => rfl

/-- A free name is no attribute. -/
theorem attribute?_of_isFree (h : s.IsFree r name x) :
    attribute? (.object r) name around s = .ok none s := by
  have stored : s.attribute? r name = none := by
    simp only [Store.attribute?, h.there, h.noField, h.unattached, h.noShared]
  refine bind_eq (get_apply _ _) (bind_eq (windowOf?_eq_ok h.there h.noView) ?_)
  simp only [stored]
  rfl

/-- What a caller reads is the attribute of the name, if nothing new has to be made to hand it
over. -/
theorem attempt_fetch (hx : s.thing? r = some x) (noView : ∀ record side, x ≠ .view record side)
    {v : Value} (hv : s.attribute? r name = some (.ok v))
    (hmade : ∀ around, made v around s = .ok v s) (c : Circumstances) :
    (fetch (.object r) name).attempt c s = (.ok v, s) := by
  obtain ⟨fuel, hfuel⟩ := s.depth_eq
  have found (around : Surroundings) :
      attribute? (.object r) name around s = .ok (some v) s := by
    refine bind_eq (get_apply _ _) (bind_eq (windowOf?_eq_ok hx noView) ?_)
    simp only [hv]
    rfl
  have fetched : fetch (.object r) name (.within c s.depth) s = .ok v s := by
    rw [hfuel]
    exact bind_eq (found _) (hmade _)
  rw [attempt_eq, outcome_eq_ok fetched, after_eq_ok fetched]

/-- Where a name is free, what is called by it is the method. -/
theorem callNamed_eq (h : s.IsFree r name x) (ho : (x.offers r).find? (·.name == name) = some o)
    (given : Call) : callNamed (.object r) name given around s = o.carryOut given around s := by
  have offered : s.offer? (.object r) name = some o := by
    simp only [Store.offer?, Store.offers, h.there]
    exact ho
  refine bind_eq (attribute?_of_isFree h) (bind_eq (get_apply _ _) ?_)
  rw [offered]

/-- Where nothing was put in its place, a method without a result is carried out. -/
theorem dispatchUnit_of_unattached (h : s.attached.lookup (r, name) = none) (values : List Value)
    (own : Action Unit) (around : Surroundings) :
    dispatchUnit r name values own around s = own around s := by
  rw [dispatchUnit, bind_apply, dispatch_of_unattached h, bind_apply]
  cases own around s <;> rfl

section

variable (h : s.IsFree r name x) {kind : String} {definer : String → Option String}
  {ms : List (Method Ref)} (hms : x.offers r = ms.map (Method.offer kind definer r))
  {m : Method Ref} (hm : ms.find? (·.name == name) = some m) {given : Call} {vs : List Value}
  (hbind : m.signature.bind given = .ok vs) (c : Circumstances)

include h hms hm hbind

/-- What is called by a free name is a method of the object, which takes the values of the call. -/
theorem callNamed_method (around : Surroundings) :
    callNamed (.object r) name given around s = (m.run r vs >>= made) around s := by
  have offered : (x.offers r).find? (·.name == name) = some (m.offer kind definer r) := by
    rw [hms, List.find?_map]
    exact congrArg (Option.map _) hm
  have bound : (m.offer kind definer r).bind given = .ok vs := by
    rw [Offer.bind]
    simp only [Method.offer, hbind]
  refine (callNamed_eq h offered given).trans (bind_eq (a := vs) ?_ rfl)
  rw [bound]
  rfl

theorem call_method :
    call (.object r) name given (.within c s.depth) s =
      (m.run r vs >>= made) (.inside c s) s := by
  obtain ⟨fuel, hfuel⟩ := s.depth_eq
  rw [Surroundings.inside, hfuel]
  exact callNamed_method h hms hm hbind (.within c (fuel + 1))

/-- What comes of calling a method by a free name. -/
theorem attempt_method :
    (call (.object r) name given).attempt c s =
      ((m.run r vs >>= made).outcome (.inside c s) s,
        (m.run r vs >>= made).after (.inside c s) s) := by
  have carried := call_method h hms hm hbind c
  rw [attempt_eq, outcome_congr carried, after_congr carried]

end

section

variable {comp : Component} (hc : s.component? r = some comp)
  (unattached : s.attached.lookup (r, name) = none) {m : Method Ref}
  (hm : comp.methods.find? (·.name == name) = some m) {given : Call} {vs : List Value}
  (hbind : m.signature.bind given = .ok vs) (c : Circumstances)

include hc unattached hm hbind

/-- What comes of calling a method of a component. -/
theorem attempt_component :
    (call (.object r) name given).attempt c s =
      ((m.run r vs >>= made).outcome (.inside c s) s,
        (m.run r vs >>= made).after (.inside c s) s) :=
  attempt_method (Store.isFree_component hc hm unattached) rfl hm hbind c

variable {own : Action Unit} (hrun : m.run r vs = do own; return .none)

include hrun

/-- What comes of calling a method of a component that answers with nothing. -/
theorem attempt_procedure :
    (call (.object r) name given).attempt c s =
      ((own.outcome (.inside c s) s).map fun _ => .none, own.after (.inside c s) s) := by
  rw [attempt_component hc unattached hm hbind c, hrun]
  simp only [outcome_bind, after_bind]
  cases own.outcome (.inside c s) s <;> rfl

/-- What comes of calling a method that alters the component that it is called on. -/
theorem attempt_altering {comp' : Component} (alters : own.Alters (.inside c s) s r comp comp') :
    (call (.object r) name given).attempt c s = (.ok .none, s.put r (.component comp')) := by
  have altered := alters.eq_ok hc
  rw [attempt_procedure hc unattached hm hbind c hrun, outcome_eq_ok altered, after_eq_ok altered]
  rfl

end

/-- Calls on one object, one after the other, whether they fail or not: what comes of them, and the
store that they leave. -/
def attemptAll (c : Circumstances) (r : Ref) :
    List (String × Call) → Store → List (Except Fault Value) × Store
  | [], s => ([], s)
  | (name, given) :: calls, s =>
    let (answer, t) := (call (.object r) name given).attempt c s
    let (answers, u) := attemptAll c r calls t
    (answer :: answers, u)

theorem attemptAll_cons {c : Circumstances} {given : Call} {answer : Except Fault Value} {t : Store}
    (h : (call (.object r) name given).attempt c s = (answer, t)) (calls : List (String × Call)) :
    attemptAll c r ((name, given) :: calls) s =
      (answer :: (attemptAll c r calls t).1, (attemptAll c r calls t).2) := by
  rw [attemptAll, h]

end Action

end Zpl
