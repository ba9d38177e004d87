import Zpl.Proofs.Component.Deed

/-!
# Checked attributes stay valid

Whatever a component is made from, and whatever is then called on it or assigned to it, every
checked attribute reads as one of the values that it is meant to have. Calls that fail halfway are
no exception, and neither are values that are no numbers, texts that are no tokens, or components
that lie behind others.

No discipline is asked of callers for this, except that they set alignments by the method for it. An
edit that was started for a component of one kind ends on one of that kind, although anything may be
printed in between, so what it records is judged by the kind that it looked at in the beginning.

## Main definitions

* `Store.IsSound` — a store of sound components, in which only methods of objects are called.
* `Store.IsReachable` — the stores that callers get to by editing components.

## Main results

* `Store.IsReachable.isSound` — callers get to sound stores only.
* `Store.IsReachable.component_isValid` — every component of a store that callers get to is valid.
-/

namespace Zpl

/-! ### Sound stores -/

/-- A thing that may stand in a sound store. -/
def Thing.IsSound : Thing → Prop
  | .component c => c.IsSound
  | .method _ => False
  | _ => True

namespace Store

/-- A store of sound components. Nobody put anything in the place of a method, and nobody asked for
a method to call it later. -/
structure IsSound (s : Store) : Prop where
  genuine : s.IsGenuine
  things : ∀ r x, s.thing? r = some x → x.IsSound

variable {s : Store} {r : Ref}

theorem IsSound.component (h : s.IsSound) {c : Component} (hc : s.component? r = some c) :
    c.IsSound :=
  h.things r _ (component?_eq_some_iff.1 hc)

/-- Where no alignment is set by itself, a store is sound. -/
theorem isSound_of_holds {least : Int} (h : (Discipline.free least True).Holds s) : s.IsSound := by
  refine ⟨h.quiet.genuine, fun r x hx => ?_⟩
  cases x with
  | component c => exact (h.fits r c (component?_eq_some_iff.2 hx)).isSound trivial
  | method m => exact h.quiet.methods r m hx
  | _ => trivial

end Store

/-! ### What callers get to -/

/-- The stores that callers get to who start without components, and then make components, call
their methods and assign to their attributes, whatever comes of it. An alignment is set by its
method only, and nothing is put in the place of a method. -/
inductive Store.IsReachable : Store → Prop where
  | start {s : Store} (genuine : s.IsGenuine)
      (empty : ∀ r x, s.thing? r = some x → (∀ c, x ≠ .component c) ∧ ∀ m, x ≠ .method m) :
      IsReachable s
  | construct {s : Store} (before : IsReachable s) (c : Circumstances) {kind : String}
      (isComponent : (Action.ingredients? kind).isSome) (heard : Bool) (call : Call) :
      IsReachable ((Action.construct kind heard call).attempt c s).2
  | call {s : Store} (before : IsReachable s) (c : Circumstances) {r : Ref}
      (isComponent : (s.component? r).isSome) (name : String) (call : Call) :
      IsReachable ((Action.call (.object r) name call).attempt c s).2
  | write {s : Store} (before : IsReachable s) (c : Circumstances) {r : Ref}
      (isComponent : (s.component? r).isSome) {name : String} (unaligned : name ≠ "alignment")
      (noMethod : name ∉ calledNames) (v : Value) :
      IsReachable ((Action.write r name v).attempt c s).2

namespace Store.IsReachable

variable {s : Store}

/-- What callers do is a run of deeds of which none sets an alignment by itself. -/
theorem isReachableBy (h : s.IsReachable) :
    s.IsReachableBy fun _ d _ => ∀ r v, d ≠ .write r "alignment" v := by
  induction h with
  | start genuine empty => exact .start genuine empty
  | construct before c isComponent heard call ih =>
    exact .deed (d := .construct _ heard call) ih c isComponent (by simp)
  | @call s before c r isComponent name call ih =>
    exact .deed (d := .call r name call) ih c isComponent (by simp)
  | @write s before c r isComponent name unaligned noMethod v ih =>
    refine .deed (d := .write r name v) ih c ⟨isComponent, noMethod⟩ fun q w h => ?_
    cases h
    exact unaligned rfl

/-- Callers get to sound stores only. -/
theorem isSound (h : s.IsReachable) : s.IsSound := by
  have holds : (Discipline.free 0 True).Holds s := by
    refine Discipline.holds_of_isReachableBy (Discipline.laws_free (by decide) True)
      (fun s d _ unaligned => ?_) h.isReachableBy
    exact Discipline.allows_free s (fun v _ => v.isThick_zero) fun _ => unaligned
  exact isSound_of_holds holds

/-- Whatever callers did, every checked attribute of every component is valid. -/
theorem component_isValid (h : s.IsReachable) {r : Ref} {c : Component}
    (hc : s.component? r = some c) : c.IsValid :=
  (h.isSound.component hc).isValid

/-- A rectangle is made with a corner radius that is not whole, and then given one that is no number
and an alignment that is not one of its kind. -/
theorem component_isValid_rectangle :
    let made := ((Action.construct "Rectangle" false
      { named := [("corner_radius", .float (.finite false 5 (-1)))] }).attempt {} {}).2
    let assigned := ((Action.write 0 "corner_radius" (.float (.nan 0))).attempt {} made).2
    let aligned := ((Action.call (.object 0) "set_alignment" { inRow := [.text "j"] }).attempt {}
      assigned).2
    aligned.IsReachable ∧ ∃ c, aligned.component? 0 = some c ∧
      c.Shows "corner_radius" (· = .int 2) ∧ c.IsValid := by
  intro made assigned aligned
  have reachable : aligned.IsReachable :=
    .call (.write (.construct (.start (fun _ _ _ => rfl) (by simp [Store.thing?])) {} rfl false _)
      {} rfl (by decide) (by decide) _) {} rfl _ _
  have there : ∃ c, aligned.component? 0 = some c ∧ c.Shows "corner_radius" (· = .int 2) :=
    ⟨_, rfl, _, rfl, rfl⟩
  obtain ⟨c, hc, radius⟩ := there
  exact ⟨reachable, c, hc, radius, reachable.component_isValid hc⟩

end Store.IsReachable

end Zpl
