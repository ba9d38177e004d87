import Zpl.Proofs.Spelling

/-!
# Altering a component

Most edits alter one component and do nothing else, whatever lies around it in the store. Such an
edit has one exact effect as long as the numbers that it works on are whole, and a sequence of them
is followed on the component alone: what stands in the place of the component before the sequence
and after it is all that there is to say.

## Main definitions

* `Action.Alters` — an action that puts a component in the place of another one.
* `Edit.fillingBorder` — how thick the border of a filled shape is.

## Main results

* `Action.Alters.bind` and the rules after it — edits that are put together.
* `Edit.alters_fillBackground` and others — what single edits make of a component.
-/

namespace Zpl

namespace Store

variable {s : Store} {r : Ref} {c : Component}

/-- What stands in its place already can be put there again. -/
theorem put_self {x : Thing} (h : s.thing? r = some x) : s.put r x = s := by
  obtain ⟨hr, rfl⟩ := List.getElem?_eq_some_iff.1 h
  simp [put]

@[simp] theorem put_put (s : Store) (r : Ref) (x y : Thing) :
    (s.put r x).put r y = s.put r y := by
  simp [put]

@[simp] theorem length_put (s : Store) (r : Ref) (x : Thing) :
    (s.put r x).things.length = s.things.length := by
  simp [put]

theorem put_component_self (h : s.component? r = some c) : s.put r (.component c) = s :=
  put_self (component?_eq_some_iff.1 h)

theorem IsGenuine.put (h : s.IsGenuine) (r : Ref) (x : Thing) : (s.put r x).IsGenuine :=
  h.congr rfl

end Store

namespace Action

variable {α β : Type} {around : Surroundings} {s t : Store} {r : Ref} {c c' c'' : Component}

/-- In a store where the component `c` stands in the place `r`, an action puts `c'` there instead,
and does nothing else. -/
def Alters (x : Action Unit) (around : Surroundings) (s : Store) (r : Ref) (c c' : Component) :
    Prop :=
  x around (s.put r (.component c)) = .ok () (s.put r (.component c'))

/-- An action that alters the component that is there. -/
theorem Alters.eq_ok {x : Action Unit} (h : x.Alters around s r c c')
    (hc : s.component? r = some c) : x around s = .ok () (s.put r (.component c')) := by
  rwa [Alters, Store.put_component_self hc] at h

namespace Alters

theorem pure : (Pure.pure () : Action Unit).Alters around s r c c := rfl

theorem bind {x : Action Unit} {f : Unit → Action Unit} (hx : x.Alters around s r c c')
    (hf : (f ()).Alters around s r c' c'') : (x >>= f).Alters around s r c c'' := bind_eq hx hf

/-- A value is found without a change, and then the component is altered by it. -/
theorem value_bind {x : Action α} {f : α → Action Unit} {a : α}
    (hx : x around (s.put r (.component c)) = .ok a (s.put r (.component c)))
    (hf : (f a).Alters around s r c c') : (x >>= f).Alters around s r c c' := bind_eq hx hf

section

variable (hr : r < s.things.length)

include hr

theorem modifyComponent (f : Component → Component) :
    (Action.modifyComponent r f).Alters around s r c (f c) := by
  rw [Alters, modifyComponent_eq_ok (Store.component?_put_self hr c), Store.put_put]

/-- What depends on the component may look at it first. -/
theorem component_bind {f : Component → Action Unit} (h : (f c).Alters around s r c c') :
    (Action.component r >>= f).Alters around s r c c' :=
  bind_eq (component_eq_ok (Store.component?_put_self hr c) around) h

end

/-- Where nothing was put in its place, a method is carried out. -/
theorem dispatchUnit {own : Action Unit} {name : String} (hs : s.IsGenuine)
    (hname : name ∈ Store.calledNames) (values : List Value) (h : own.Alters around s r c c') :
    (Action.dispatchUnit r name values own).Alters around s r c c' := by
  refine bind_eq (a := .none) ?_ rfl
  rw [dispatch_of_unattached (hs.put r _ r name hname)]
  exact bind_eq h rfl

end Alters

end Action

/-! ### Whole numbers -/

/-- Whole numbers are divided with rounding toward zero. -/
theorem Number.truncDiv_int (a : Int) {b : Int} (hb : b ≠ 0) :
    truncDiv (.int a) (.int b) = .ok (.int (a.tdiv b)) := by
  have magnitudes : (Number.int a).abs.floorDiv (Number.int b).abs =
      .ok (.int ((a.natAbs : Int).tdiv b.natAbs)) := by
    have divisor : (b.natAbs : Int) ≠ 0 := by omega
    rw [← Int.fdiv_eq_tdiv_of_nonneg (Int.natCast_nonneg _) (Int.natCast_nonneg _)]
    exact if_neg divisor
  rw [truncDiv, magnitudes, atLeast_int, isPositive_int]
  -- The quotient of the magnitudes is negated when one of the signs is negative, but not both.
  by_cases ha : 0 ≤ a <;> by_cases hpos : 0 < b
  · have dividend : (a.natAbs : Int) = a := by omega
    have divisor : (b.natAbs : Int) = b := by omega
    simp [ha, hpos, dividend, divisor, bind, Except.bind, pure, Except.pure]
  · have dividend : (a.natAbs : Int) = a := by omega
    have divisor : (b.natAbs : Int) = -b := by omega
    simp [ha, hpos, dividend, divisor, neg, bind, Except.bind, pure, Except.pure]
  · have dividend : (a.natAbs : Int) = -a := by omega
    have divisor : (b.natAbs : Int) = b := by omega
    simp [ha, hpos, dividend, divisor, neg, bind, Except.bind, pure, Except.pure]
  · have dividend : (a.natAbs : Int) = -a := by omega
    have divisor : (b.natAbs : Int) = -b := by omega
    simp [ha, hpos, dividend, divisor, bind, Except.bind, pure, Except.pure]

/-- A thickness of zero stands for one dot. -/
theorem Judgement.thickness_int {sc : Scribe Action} {n : Int} (h : 0 ≤ n) :
    thickness sc (.int n) = pure (.accepted (max 1 n)) := by
  rw [thickness, Value.dots?]
  by_cases hn : 0 < n
  · have positive : Number.isPositive (.int n) = true := by simpa using hn
    rw [Int.max_eq_right (by omega)]
    simp only [positive, if_true]
    rfl
  · obtain rfl : n = 0 := by omega
    rfl

namespace Edit

open Zpl.Action

variable {around : Surroundings} {s : Store} {r : Ref} {c : Component}

theorem addInto_int (a b : Int) (around : Surroundings) (s : Store) :
    addInto (.int a) (.int b) around s = .ok (.int (a + b)) s := rfl

theorem subInto_int (a b : Int) (around : Surroundings) (s : Store) :
    subInto (.int a) (.int b) around s = .ok (.int (a - b)) s := rfl

theorem add_int (a b : Int) (around : Surroundings) (s : Store) :
    add (.int a) (.int b) around s = .ok (.int (a + b)) s := rfl

theorem sub_int (a b : Int) (around : Surroundings) (s : Store) :
    sub (.int a) (.int b) around s = .ok (.int (a - b)) s := rfl

theorem twice_int (a : Int) (around : Surroundings) (s : Store) :
    twice (.int a) around s = .ok (.int (a * 2)) s := rfl

/-- Something centered has the same gap on either side, up to rounding toward zero. A truth value as
the width of a canvas counts as zero or one. -/
theorem centeringGap_of_integer? {v : Value} {outer : Int} (h : v.integer? = some outer)
    (inner : Int) (around : Surroundings) (s : Store) :
    centeringGap v (.int inner) around s = .ok (.int ((outer - inner).tdiv 2)) s := by
  have difference : v.sub (.int inner) = .ok (.int (outer - inner)) := by
    cases v with
    | bool b => cases h; rfl
    | int n => cases h; rfl
    | _ => cases h
  have half : (Number.int (outer - inner)).truncDiv 2 = .ok (.int ((outer - inner).tdiv 2)) :=
    Number.truncDiv_int _ (by decide)
  refine bind_eq (a := Value.int (outer - inner)) (t := s) ?_
    (bind_eq (a := Number.int (outer - inner)) (t := s) rfl
      (bind_eq (a := Number.int ((outer - inner).tdiv 2)) (t := s) ?_ rfl))
  · rw [difference]
    rfl
  · rw [half]
    rfl

theorem centeringGap_int (outer inner : Int) (around : Surroundings) (s : Store) :
    centeringGap (.int outer) (.int inner) around s = .ok (.int ((outer - inner).tdiv 2)) s :=
  centeringGap_of_integer? rfl inner around s

/-! ### Attributes -/

/-- A barcode is replaced by another one. -/
theorem modifyBarcode_eq_ok (hc : s.component? r = some c) {b : Barcode} (hk : c.kind = .barcode b)
    (f : Barcode → Barcode) (around : Surroundings) :
    modifyBarcode r f around s = .ok () (s.put r (.component { c with kind := .barcode (f b) })) := by
  refine bind_eq (component_eq_ok hc around) ?_
  rw [hk]
  exact modifyComponent_eq_ok hc _ around

/-- What an attribute accepts is stored. -/
theorem alters_assign (hr : r < s.things.length) {a : Attribute} {v : Value} {k : Kind}
    (h : ∀ sc : Scribe Action, c.kind.assign? sc a v = some (pure (.accepted k))) :
    (assign r a v).Alters around s r c { c with kind := k } := by
  refine .component_bind hr (.value_bind (a := _) rfl ?_)
  rw [h]
  exact .value_bind rfl (.modifyComponent hr _)

/-- The thickness of the border that fills a shape of some size: half its shorter side, rounded
down, but a dot at least. -/
def fillingBorder (width height : Int) : Int := max 1 ((min width height).fdiv 2)

/-- Half of the shorter side, rounded down. -/
theorem fillingThickness_int {form : Shape} {width height : Int} (hwidth : form.width = .int width)
    (hheight : form.height = .int height) :
    fillingThickness form = .ok (.int ((min width height).fdiv 2)) := by
  rw [fillingThickness, hwidth, hheight, Number.lessThan_int]
  by_cases h : width < height
  · rw [decide_eq_true h, Int.min_eq_left (by omega)]
    rfl
  · rw [decide_eq_false h, Int.min_eq_right (by omega)]
    rfl

/-- A shape is filled by a border of half its shorter side. -/
theorem alters_fillBackground (hr : r < s.things.length) {form : Shape}
    (hk : c.kind = .shape form) {width height : Int} (hwidth : form.width = .int width)
    (hheight : form.height = .int height) (h : 0 ≤ min width height) :
    (fillBackground r).Alters around s r c
      { c with kind := .shape { form with thickness := fillingBorder width height } } := by
  have half : 0 ≤ (min width height).fdiv 2 := Int.fdiv_nonneg h (by decide)
  have assigned : (assign r .thickness (.int ((min width height).fdiv 2))).Alters around s r c
      { c with kind := .shape { form with thickness := fillingBorder width height } } :=
    alters_assign hr fun sc => by
      rw [hk, Kind.assign?, Shape.assign?, Judgement.thickness_int half]
      rfl
  refine .component_bind hr ?_
  rw [hk]
  refine .value_bind (a := .int ((min width height).fdiv 2)) ?_ assigned
  rw [fillingThickness_int hwidth hheight]
  rfl

end Edit

end Zpl
