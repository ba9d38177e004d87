import Zpl.Proofs.Calling
import Zpl.Proofs.Label.Template

/-!
# The components of labels

A label keeps a list of components. Callers add to it, remove from it and clear it, on as many
labels as they like, and may list a component more than once or on several labels. What comes of a
run of such calls is what comes of the same operations on lists. The one thing that happens besides
is that a component without a canvas takes over that of the label to which it is added.

The step relation `Store.Restocked` says all that a call changes, for one label and for all
components. Since it speaks of objects by their numbers, it does not matter which of them are
shared.

## Main definitions

* `LabelDeed` — one call that changes which components a label has.
* `LabelDeed.listed`, `LabelDeed.fitted` — what a deed does to a list, and to a component.
* `Store.Restocked` — a store after a call on one of its labels.
* `Store.IsOrderly` — labels with whole sizes on which nothing but components is listed.

## Main results

* `LabelDeed.restocked` — one step.
* `LabelDeed.run_restocks` — a run, by induction.
* `LabelDeed.register` — what a label lists after a run, how it is looked at, and the canvases.
-/

namespace Zpl

/-- The object that a value is, if it is one. -/
def Value.ref? : Value → Option Ref
  | .object r => some r
  | _ => Option.none

namespace Component

/-- Whether a component was laid out without a canvas: both sides are zero. -/
def lacksCanvas (c : Component) : Bool := c.labelWidth.same 0 && c.labelHeight.same 0

/-- A component on the canvas of a label. -/
def onto (c : Component) (lab : Label) : Component :=
  { c with labelWidth := lab.labelWidth, labelHeight := lab.labelHeight }

/-- A component that is added to a label: without a canvas it takes over that of the label. -/
def fit (c : Component) (lab : Label) : Component := if c.lacksCanvas then c.onto lab else c

theorem fit_of_lacksCanvas {c : Component} (h : c.lacksCanvas = true) (lab : Label) :
    c.fit lab = c.onto lab := if_pos h

theorem fit_of_hasCanvas {c : Component} (h : c.lacksCanvas = false) (lab : Label) :
    c.fit lab = c := by rw [fit, h, if_neg Bool.false_ne_true]

/-- Once it was added to a label, adding a component there again changes nothing. -/
theorem fit_fit (c : Component) {lab lab' : Label} (hwidth : lab'.labelWidth = lab.labelWidth)
    (hheight : lab'.labelHeight = lab.labelHeight) : (c.fit lab).fit lab' = c.fit lab := by
  by_cases lacks : (c.fit lab).lacksCanvas = true
  · rw [fit_of_lacksCanvas lacks]
    cases own : c.lacksCanvas with
    | true =>
      rw [fit_of_lacksCanvas own, onto, onto, hwidth, hheight]
    | false =>
      rw [fit_of_hasCanvas own, own] at lacks
      exact absurd lacks Bool.false_ne_true
  · rw [fit_of_hasCanvas (Bool.eq_false_iff.2 lacks)]

end Component

/-! ### One call on a label -/

namespace Store

variable {s t u : Store} {l r : Ref} {lab : Label} {rs qs : List Ref} {f g : List Ref → List Ref}

/-- `t` is `s` after a call on the label `l` that changes its list by `f` and adds `rs`. -/
structure Restocked (l : Ref) (f : List Ref → List Ref) (rs : List Ref) (s t : Store) : Prop where
  label : ∀ lab, s.label? l = some lab →
    t.label? l = some { lab with components := f lab.components }
  component : ∀ lab, s.label? l = some lab → ∀ r c, s.component? r = some c →
    t.component? r = some (if r ∈ rs then c.fit lab else c)
  others : ∀ q x, s.thing? q = some x → (∀ c, x ≠ .component c) → q ≠ l → t.thing? q = some x
  length : t.things.length = s.things.length
  attached : t.attached = s.attached

namespace Restocked

theorem refl (l : Ref) (s : Store) : s.Restocked l id [] s where
  label := fun _ h => h
  component := fun _ _ _ _ h => h
  others := fun _ _ h _ _ => h
  length := rfl
  attached := rfl

theorem trans (h : s.Restocked l f rs t) (k : t.Restocked l g qs u) (hl : (s.label? l).isSome) :
    s.Restocked l (g ∘ f) (rs ++ qs) u := by
  obtain ⟨lab, hlab⟩ := Option.isSome_iff_exists.1 hl
  have hlab' := h.label lab hlab
  constructor
  case label =>
    intro lab₁ h₁
    obtain rfl := Option.some.inj (hlab.symm.trans h₁)
    exact k.label _ hlab'
  case component =>
    intro lab₁ h₁ r c hc
    obtain rfl := Option.some.inj (hlab.symm.trans h₁)
    have first := h.component lab hlab r c hc
    have second := k.component _ hlab' r _ first
    rw [second]
    simp only [List.mem_append]
    -- A component that both parts add is on the canvas of the label already.
    by_cases hr : r ∈ rs <;> by_cases hq : r ∈ qs
    · rw [if_pos hr, if_pos hq, if_pos (.inl hr)]
      exact congrArg some (Component.fit_fit c rfl rfl)
    · rw [if_pos hr, if_neg hq, if_pos (.inl hr)]
    · rw [if_neg hr, if_pos hq, if_pos (.inr hq)]
      rfl
    · rw [if_neg hr, if_neg hq, if_neg (not_or.2 ⟨hr, hq⟩)]
  case others =>
    intro q x hx hne hq
    exact k.others q x (h.others q x hx hne hq) hne hq
  case length => exact k.length.trans h.length
  case attached => exact k.attached.trans h.attached

end Restocked

/-- Other labels stay as they are. -/
theorem Restocked.label?_of_ne (h : s.Restocked l f rs t) (hl : s.label? l = some lab) {q : Ref}
    (hq : q ≠ l) : t.label? q = s.label? q := by
  cases hx : s.thing? q with
  | none =>
    have outside : t.thing? q = none := by
      rw [thing?, List.getElem?_eq_none_iff] at hx ⊢
      rwa [h.length]
    rw [label?, label?, hx, outside]
  | some x =>
    by_cases hcomponent : ∃ c, x = .component c
    · obtain ⟨c, rfl⟩ := hcomponent
      have after := h.component lab hl q c (component?_eq_some_iff.2 hx)
      rw [component?_eq_some_iff] at after
      rw [label?, label?, hx, after]
    · rw [label?, label?, hx, h.others q x hx (fun c hc => hcomponent ⟨c, hc⟩) hq]

/-- The list of a label is replaced by another one. -/
theorem restocked_put (hl : s.label? l = some lab) (f : List Ref → List Ref) :
    s.Restocked l f [] (s.put l (.label { lab with components := f lab.components })) where
  label := by
    intro lab₁ h₁
    obtain rfl := Option.some.inj (hl.symm.trans h₁)
    exact label?_put_self (lt_length_of_label? hl) _
  component := by
    intro _ _ r c hc
    exact component?_put_label hl hc _
  others := by
    intro q x hx _ hq
    rw [thing?_put_of_ne hq.symm, hx]
  length := by simp [put]
  attached := rfl

/-- A component takes over the canvas of a label. -/
theorem restocked_onto (hl : s.label? l = some lab) {c : Component} (hr : s.component? r = some c)
    (lacks : c.lacksCanvas = true) :
    s.Restocked l id [r] (s.put r (.component (c.onto lab))) where
  label := by
    intro lab₁ h₁
    have hne : r ≠ l := by
      rintro rfl
      rw [label?_eq_some_iff] at hl
      rw [component?_eq_some_iff, hl] at hr
      cases hr
    rw [label?, thing?_put_of_ne hne]
    exact h₁
  component := by
    intro lab₁ h₁ q d hd
    obtain rfl := Option.some.inj (hl.symm.trans h₁)
    rcases eq_or_ne r q with rfl | hne
    · obtain rfl := Option.some.inj (hr.symm.trans hd)
      rw [component?_put_self (lt_length_of_component? hr), if_pos (List.mem_singleton_self r),
        Component.fit_of_lacksCanvas lacks]
    · rw [component?_put_of_ne hne, if_neg (by simpa using hne.symm), hd]
  others := by
    intro q x hx hne _
    rw [thing?_put_of_ne ?_, hx]
    rintro rfl
    rw [component?_eq_some_iff, hx] at hr
    exact hne c (Option.some.inj hr)
  length := by simp [put]
  attached := rfl

/-- A component that has a canvas stays as it is when it is added. -/
theorem Restocked.with_canvas (h : s.Restocked l f [] t) {c : Component}
    (hr : s.component? r = some c) (canvas : c.lacksCanvas = false) : s.Restocked l f [r] t where
  label := h.label
  component := by
    intro lab hl q d hd
    rw [h.component lab hl q d hd, if_neg (by simp)]
    by_cases hq : q ∈ [r]
    · obtain rfl := List.mem_singleton.1 hq
      obtain rfl := Option.some.inj (hr.symm.trans hd)
      rw [if_pos hq, Component.fit_of_hasCanvas canvas]
    · rw [if_neg hq]
  others := h.others
  length := h.length
  attached := h.attached

end Store

namespace Action

variable {around : Surroundings} {s : Store} {l r : Ref} {lab : Label} {c : Component}
  {width height : Int}

theorem modifyLabel_eq_ok (h : s.label? l = some lab) (f : Label → Label) :
    modifyLabel l f around s = .ok () (s.put l (.label (f lab))) :=
  bind_eq (label_eq_ok h around) rfl

theorem lacksCanvas_eq_ok (hr : s.component? r = some c) :
    Action.lacksCanvas (.object r) around s = .ok c.lacksCanvas s := by
  refine bind_eq (a := c.labelWidth) (read_component hr rfl) ?_
  rw [Component.lacksCanvas]
  cases c.labelWidth.same 0 with
  | false => rfl
  | true => exact bind_eq (a := c.labelHeight) (read_component hr rfl) rfl

theorem setLabelSize_eq_ok (hr : s.component? r = some c) (hwidth : lab.labelWidth = .int width)
    (hheight : lab.labelHeight = .int height) :
    Edit.setLabelSize r lab.labelWidth lab.labelHeight around s =
      .ok () (s.put r (.component (c.onto lab))) := by
  have hlt := Store.lt_length_of_component? hr
  rw [Component.onto, hwidth, hheight]
  refine bind_eq rfl (bind_eq (modifyComponent_eq_ok hr _ around) (bind_eq rfl ?_))
  rw [modifyComponent_eq_ok (Store.component?_put_self hlt _), Store.put_put]

/-- A component is added at the end of the list of a label, after it took over the canvas of the
label if it had none. -/
theorem addComponent_restocks (hs : s.IsGenuine) (hl : s.label? l = some lab)
    (hwidth : lab.labelWidth = .int width) (hheight : lab.labelHeight = .int height)
    (hr : s.component? r = some c) (around : Surroundings) :
    ∃ t, addComponent l (.object r) around s = .ok () t ∧ s.Restocked l (· ++ [r]) [r] t := by
  have looks := label_eq_ok hl around
  have lacks : Action.lacksCanvas (.object r) around s = .ok c.lacksCanvas s :=
    lacksCanvas_eq_ok hr
  cases canvas : c.lacksCanvas with
  | false =>
    rw [canvas] at lacks
    refine ⟨_, bind_eq looks (bind_eq lacks (modifyLabel_eq_ok hl _)), ?_⟩
    exact (Store.restocked_put hl (· ++ [r])).with_canvas hr canvas
  | true =>
    rw [canvas] at lacks
    have fitted := Store.restocked_onto hl hr canvas
    have sized : dispatchUnitOn Store.component? (.object r) "set_label_size"
        [lab.labelWidth, lab.labelHeight]
        (fun r => Edit.setLabelSize r lab.labelWidth lab.labelHeight) around s =
          .ok () (s.put r (.component (c.onto lab))) :=
      dispatchUnitOn_eq_ok hs (by decide) hr (setLabelSize_eq_ok hr hwidth hheight)
    have there := fitted.label lab hl
    refine ⟨_, bind_eq looks (bind_eq lacks (bind_eq sized (modifyLabel_eq_ok there _))), ?_⟩
    have listed := fitted.trans (Store.restocked_put there (· ++ [r])) (by rw [hl]; rfl)
    rwa [List.append_nil] at listed

end Action

/-! ### Deeds -/

/-- What callers do with the components of a label. -/
inductive LabelDeed where
  | add (l : Ref) (v : Value)
  | addAll (l : Ref) (vs : List Value)
  /-- Adding what something hands out one by one, which are the values `vs`. -/
  | extend (l : Ref) (source : Value) (vs : List Value)
  | remove (l : Ref) (v : Value)
  | clear (l : Ref)

namespace LabelDeed

/-- The label that a deed is about. -/
def label : LabelDeed → Ref
  | add l _ | addAll l _ | extend l _ _ | remove l _ | clear l => l

def name : LabelDeed → String
  | add .. => "add_component"
  | addAll .. => "add_all_components"
  | extend .. => "extend"
  | remove .. => "remove_component"
  | clear .. => "clear"

/-- What is handed over in the call. -/
def given : LabelDeed → Call
  | add _ v | remove _ v => { inRow := [v] }
  | addAll _ vs => { inRow := vs }
  | extend _ source _ => { inRow := [source] }
  | clear _ => {}

/-- The values that a deed adds to its label. -/
def addends : LabelDeed → List Value
  | add _ v => [v]
  | addAll _ vs | extend _ _ vs => vs
  | remove .. | clear .. => []

/-- The objects that a deed adds to its label; nothing is passed over. -/
def added (d : LabelDeed) : List Ref := d.addends.filterMap Value.ref?

/-- What a deed does to the list of its label: it adds at the end, it removes the first occurrence
of an object, or it leaves nothing. -/
def listed (d : LabelDeed) (rs : List Ref) : List Ref :=
  match d with
  | remove _ (.object r) => rs.erase r
  | remove _ _ => rs
  | clear _ => []
  | d => rs ++ d.added

/-- What a deed does to the list of the label `l`. -/
def listedAt (l : Ref) (d : LabelDeed) (rs : List Ref) : List Ref :=
  if d.label = l then d.listed rs else rs

/-- What a deed does to a component, where the labels are those of `s`. -/
def fitted (s : Store) (r : Ref) (d : LabelDeed) (c : Component) : Component :=
  match s.label? d.label with
  | some lab => if r ∈ d.added then c.fit lab else c
  | none => c

/-- What a deed is answered by, where the list of its label is `rs`: whether something was
removed. -/
def answer (rs : List Ref) : LabelDeed → Value
  | remove _ v => .bool (v.ref?.any fun r => decide (r ∈ rs))
  | _ => .none

/-- The result of a deed, and the store that it leaves. -/
def attempt (c : Circumstances) (s : Store) (d : LabelDeed) : Except Fault Value × Store :=
  (Action.call (.object d.label) d.name d.given).attempt c s

/-- A deed is about a label, to which it adds nothing but components. -/
structure IsProper (s : Store) (d : LabelDeed) : Prop where
  label : (s.label? d.label).isSome
  addends : ∀ v ∈ d.addends, v = .none ∨ ∃ r c, v = .object r ∧ s.component? r = some c
  source : ∀ l source vs, d = extend l source vs → source.elements s.directory = .ok vs

end LabelDeed

/-- All labels have whole sizes and list nothing but components, and nobody has put anything in the
place of a method. -/
structure Store.IsOrderly (s : Store) : Prop where
  genuine : s.IsGenuine
  unattached : ∀ l, ∀ name ∈ ["extend", "get_component", "remove_component", "clear"],
    s.attached.lookup (l, name) = none
  sized : ∀ l lab, s.label? l = some lab →
    ∃ width height : Int, lab.labelWidth = .int width ∧ lab.labelHeight = .int height
  listed : ∀ l lab, s.label? l = some lab →
    ∀ r ∈ lab.components, ∃ c, s.component? r = some c

/-- The objects among some values, front to back. -/
theorem Value.filterMap_ref?_cons (v : Value) (vs : List Value) :
    (v :: vs).filterMap Value.ref? = v.ref?.toList ++ vs.filterMap Value.ref? := by
  cases hv : v.ref? with
  | none => rw [List.filterMap_cons_none hv, Option.toList_none, List.nil_append]
  | some r => rw [List.filterMap_cons_some hv, Option.toList_some, List.singleton_append]

namespace Action

variable {s : Store} {l : Ref} {lab : Label} {width height : Int}

/-- A component is added, and nothing is passed over. -/
theorem addValue_restocks (hs : s.IsGenuine) (hl : s.label? l = some lab)
    (hwidth : lab.labelWidth = .int width) (hheight : lab.labelHeight = .int height) {v : Value}
    (hv : v = .none ∨ ∃ r c, v = .object r ∧ s.component? r = some c) (around : Surroundings) :
    ∃ t, addComponent l v around s = .ok () t ∧
      s.Restocked l (· ++ v.ref?.toList) v.ref?.toList t := by
  rcases hv with rfl | ⟨r, c, rfl, hr⟩
  · refine ⟨s, rfl, ?_⟩
    have same : (· ++ Value.none.ref?.toList) = (id : List Ref → List Ref) :=
      funext List.append_nil
    rw [same]
    exact .refl l s
  · exact addComponent_restocks hs hl hwidth hheight hr around

/-- Components are added one after the other. -/
theorem addComponents_restocks (hs : s.IsGenuine) (hl : s.label? l = some lab)
    (hwidth : lab.labelWidth = .int width) (hheight : lab.labelHeight = .int height)
    {vs : List Value}
    (hvs : ∀ v ∈ vs, v = .none ∨ ∃ r c, v = .object r ∧ s.component? r = some c)
    (around : Surroundings) :
    ∃ t, addComponents l vs around s = .ok () t ∧
      s.Restocked l (· ++ vs.filterMap Value.ref?) (vs.filterMap Value.ref?) t := by
  induction vs generalizing s lab with
  | nil =>
    refine ⟨s, rfl, ?_⟩
    have same : (· ++ ([] : List Value).filterMap Value.ref?) = (id : List Ref → List Ref) :=
      funext List.append_nil
    rw [same]
    exact .refl l s
  | cons v vs ih =>
    obtain ⟨hv, hvs⟩ := List.forall_mem_cons.1 hvs
    obtain ⟨t, ht, added⟩ := addValue_restocks hs hl hwidth hheight hv around
    have called : dispatchUnit l "add_component" [v] (addComponent l v) around s = .ok () t := by
      rw [dispatchUnit_of_unattached (hs l _ (by decide)), ht]
    have still : ∀ v ∈ vs, v = .none ∨ ∃ r c, v = .object r ∧ t.component? r = some c := by
      intro v hv
      rcases hvs v hv with nothing | ⟨r, c, hobject, hr⟩
      · exact .inl nothing
      · exact .inr ⟨r, _, hobject, added.component lab hl r c hr⟩
    obtain ⟨u, hu, rest⟩ := ih (hs.congr added.attached) (added.label lab hl) hwidth hheight still
    refine ⟨u, bind_eq called hu, ?_⟩
    have both := added.trans rest (by rw [hl]; rfl)
    rw [Value.filterMap_ref?_cons]
    have same : ((· ++ vs.filterMap Value.ref?) ∘ (· ++ v.ref?.toList)) =
        (· ++ (v.ref?.toList ++ vs.filterMap Value.ref?) : List Ref → List Ref) :=
      funext fun rs => List.append_assoc rs _ _
    rwa [same] at both

/-- The first occurrence of an object is removed, and the answer says whether there was one. -/
theorem removeComponent_restocks (hl : s.label? l = some lab) (v : Value)
    (around : Surroundings) :
    ∃ t, removeComponent l v around s =
        .ok (v.ref?.any fun r => decide (r ∈ lab.components)) t ∧
      s.Restocked l (LabelDeed.remove l v).listed [] t := by
  have looks := label_eq_ok hl around
  have stays : s.Restocked l id [] s := .refl l s
  cases v with
  | object r =>
    by_cases hr : r ∈ lab.components
    · refine ⟨s.put l (.label { lab with components := lab.components.erase r }), ?_, ?_⟩
      · refine bind_eq looks ?_
        simp only [List.contains_eq_mem, hr, decide_true, if_true]
        exact bind_eq (modifyLabel_eq_ok hl _) (by simp [Value.ref?, hr])
      · exact Store.restocked_put hl fun rs => rs.erase r
    · refine ⟨s, ?_, ?_⟩
      · refine bind_eq looks ?_
        simp [Value.ref?, hr]
      · have same : lab.components.erase r = lab.components := List.erase_of_not_mem hr
        refine ⟨?_, stays.component, stays.others, rfl, rfl⟩
        intro lab₁ h₁
        obtain rfl := Option.some.inj (hl.symm.trans h₁)
        rw [hl]
        exact congrArg (fun rs => some { lab with components := rs }) same.symm
  | _ => exact ⟨s, bind_eq looks rfl, stays⟩

end Action

/-! ### One step -/

namespace LabelDeed

open Zpl.Action

variable {s : Store} {d : LabelDeed} {l : Ref} {lab : Label}

/-- A call on a label carries out a method of labels. -/
theorem attempt_label (hl : s.label? l = some lab) {name : String}
    (hname : lab.fields.lookup name = none) (unattached : s.attached.lookup (l, name) = none)
    {m : Method Ref} (hm : Label.methods.find? (·.name == name) = some m) (given : Call)
    {vs : List Value} (hbind : m.signature.bind given = .ok vs) {a : Value} {P : Store → Prop}
    (hrun : ∀ around, ∃ t, (m.run l vs >>= made) around s = .ok a t ∧ P t) (c : Circumstances) :
    ((call (.object l) name given).attempt c s).1 = .ok a ∧
      P ((call (.object l) name given).attempt c s).2 := by
  have free := Store.isFree_label hl hname unattached
  obtain ⟨t, ht, hP⟩ := hrun (.inside c s)
  rw [attempt_method free rfl hm hbind, outcome_eq_ok ht, after_eq_ok ht]
  exact ⟨rfl, hP⟩

/-- No method that a deed calls has anything put in its place. -/
theorem unattached (hs : s.IsOrderly) (d : LabelDeed) (l : Ref) :
    s.attached.lookup (l, d.name) = none := by
  cases d with
  | add | addAll => exact hs.genuine l _ (by simp [name, Store.calledNames])
  | extend | remove | clear => exact hs.unattached l _ (by simp [name])

/-- A deed on a label is answered as it should be, and does to the label and to components what it
says. -/
theorem restocked (hs : s.IsOrderly) (proper : d.IsProper s) (hl : s.label? d.label = some lab)
    (c : Circumstances) :
    (d.attempt c s).1 = .ok (d.answer lab.components) ∧
      s.Restocked d.label d.listed d.added (d.attempt c s).2 := by
  obtain ⟨width, height, hwidth, hheight⟩ := hs.sized _ _ hl
  have free := unattached hs d d.label
  cases d with
  | add l v =>
    refine attempt_label hl rfl free rfl _ rfl (fun around => ?_) c
    obtain ⟨t, ht, restocks⟩ := addValue_restocks hs.genuine hl hwidth hheight
      (proper.addends v (List.mem_singleton_self v)) around
    refine ⟨t, bind_eq (bind_eq ht rfl) rfl, ?_⟩
    have same : (add l v).added = v.ref?.toList := by
      rw [added, addends, Value.filterMap_ref?_cons, List.filterMap_nil, List.append_nil]
    have listed : (add l v).listed = (· ++ v.ref?.toList) :=
      funext fun rs => congrArg (rs ++ ·) same
    rw [same, listed]
    exact restocks
  | addAll l vs =>
    refine attempt_label hl rfl free rfl _ rfl (fun around => ?_) c
    obtain ⟨t, ht, restocks⟩ :=
      addComponents_restocks hs.genuine hl hwidth hheight proper.addends around
    exact ⟨t, bind_eq (bind_eq ht rfl) rfl, restocks⟩
  | extend l source vs =>
    refine attempt_label hl rfl free rfl _ rfl (fun around => ?_) c
    obtain ⟨t, ht, restocks⟩ :=
      addComponents_restocks hs.genuine hl hwidth hheight proper.addends around
    have handed : elements source around s = .ok vs s := by
      refine bind_eq (a := s.directory) rfl ?_
      rw [proper.source l source vs rfl]
      rfl
    have called : dispatchUnit l "add_all_components" vs (addComponents l vs) around s =
        .ok () t := by
      rw [dispatchUnit_of_unattached (hs.genuine l _ (by decide))]
      exact ht
    exact ⟨t, bind_eq (bind_eq (bind_eq handed called) rfl) rfl, restocks⟩
  | remove l v =>
    refine attempt_label hl rfl free rfl _ rfl (fun around => ?_) c
    obtain ⟨t, ht, removed⟩ := removeComponent_restocks hl v around
    exact ⟨t, bind_eq (bind_eq ht rfl) rfl, removed⟩
  | clear l =>
    refine attempt_label hl rfl free rfl _ rfl (fun around => ?_) c
    refine ⟨_, bind_eq (bind_eq (modifyLabel_eq_ok hl _) rfl) rfl, ?_⟩
    exact Store.restocked_put hl fun _ => []

/-- Nothing gets on a list but what is added. -/
theorem mem_of_mem_listed {rs : List Ref} {r : Ref} (h : r ∈ d.listed rs) :
    r ∈ rs ∨ r ∈ d.added := by
  cases d with
  | add | addAll | extend => exact List.mem_append.1 h
  | remove l v =>
    left
    cases v with
    | object q => exact List.mem_of_mem_erase h
    | _ => exact h
  | clear l => cases h

theorem exists_of_mem_added (proper : d.IsProper s) {r : Ref} (h : r ∈ d.added) :
    ∃ c, s.component? r = some c := by
  obtain ⟨v, hv, hr⟩ := List.mem_filterMap.1 h
  rcases proper.addends v hv with rfl | ⟨q, c, rfl, hq⟩
  · cases hr
  · obtain rfl : q = r := Option.some.inj hr
    exact ⟨c, hq⟩

/-- Labels stay orderly. -/
theorem isOrderly_attempt (hs : s.IsOrderly) (proper : d.IsProper s) (c : Circumstances) :
    (d.attempt c s).2.IsOrderly := by
  obtain ⟨lab, hl⟩ := Option.isSome_iff_exists.1 proper.label
  have step := (restocked hs proper hl c).2
  generalize (d.attempt c s).2 = t at step ⊢
  have stays {r : Ref} (h : ∃ c, s.component? r = some c) : ∃ c, t.component? r = some c := by
    obtain ⟨comp, hr⟩ := h
    exact ⟨_, step.component lab hl r comp hr⟩
  constructor
  case genuine => exact hs.genuine.congr step.attached
  case unattached =>
    intro q name hname
    rw [step.attached]
    exact hs.unattached q name hname
  case sized =>
    intro q lab' hq
    by_cases hne : q = d.label
    · subst hne
      rw [step.label lab hl] at hq
      obtain rfl := Option.some.inj hq
      exact hs.sized _ lab hl
    · rw [step.label?_of_ne hl hne] at hq
      exact hs.sized q lab' hq
  case listed =>
    intro q lab' hq r hr
    by_cases hne : q = d.label
    · subst hne
      rw [step.label lab hl] at hq
      obtain rfl := Option.some.inj hq
      rcases mem_of_mem_listed hr with old | new
      · exact stays (hs.listed _ lab hl r old)
      · exact stays (exists_of_mem_added proper new)
    · rw [step.label?_of_ne hl hne] at hq
      exact stays (hs.listed q lab' hq r hr)

/-! ### Runs -/

/-- The store that a run of deeds leaves. -/
def leaves (c : Circumstances) (s : Store) (ds : List LabelDeed) : Store :=
  ds.foldl (fun s d => (d.attempt c s).2) s

/-- Each deed of a run is proper when its turn comes. -/
def AreProper (c : Circumstances) : Store → List LabelDeed → Prop
  | _, [] => True
  | s, d :: ds => d.IsProper s ∧ AreProper c (d.attempt c s).2 ds

/-- What one deed does to every label and every component. -/
theorem attempt_spec (hs : s.IsOrderly) (proper : d.IsProper s) (c : Circumstances) :
    (∀ l, (d.attempt c s).2.label? l = (s.label? l).map fun lab =>
      { lab with components := d.listedAt l lab.components }) ∧
    ∀ r comp, s.component? r = some comp →
      (d.attempt c s).2.component? r = some (d.fitted s r comp) := by
  obtain ⟨lab, hl⟩ := Option.isSome_iff_exists.1 proper.label
  have step := (restocked hs proper hl c).2
  constructor
  · intro l
    by_cases hne : l = d.label
    · subst hne
      rw [step.label lab hl, hl, Option.map_some]
      simp only [listedAt, if_true]
    · rw [step.label?_of_ne hl hne]
      simp only [listedAt, if_neg (Ne.symm hne), Option.map_id']
  · intro r comp hr
    rw [step.component lab hl r comp hr, fitted, hl]

/-- A deed fits components as before where labels have the same sizes. -/
theorem fitted_congr {t : Store} {f : Ref → List Ref → List Ref}
    (h : ∀ l, t.label? l = (s.label? l).map fun lab =>
      { lab with components := f l lab.components }) (r : Ref) (d : LabelDeed) :
    d.fitted t r = d.fitted s r := by
  funext comp
  rw [fitted, fitted, h]
  cases s.label? d.label <;> rfl

/-- A run does to each label and each component what its deeds do, one after the other. -/
theorem run_restocks {c : Circumstances} {ds : List LabelDeed} (hs : s.IsOrderly)
    (hds : AreProper c s ds) :
    (leaves c s ds).IsOrderly ∧
    (∀ l, (leaves c s ds).label? l = (s.label? l).map fun lab =>
      { lab with components := ds.foldl (fun rs d => d.listedAt l rs) lab.components }) ∧
    ∀ r comp, s.component? r = some comp → (leaves c s ds).component? r =
      some (ds.foldl (fun comp d => d.fitted s r comp) comp) := by
  induction ds generalizing s with
  | nil => exact ⟨hs, fun l => by simp [leaves], fun r comp hr => hr⟩
  | cons d ds ih =>
    obtain ⟨proper, hds⟩ := hds
    obtain ⟨labels, components⟩ := attempt_spec hs proper c
    obtain ⟨orderly, restLabels, restComponents⟩ := ih (isOrderly_attempt hs proper c) hds
    refine ⟨orderly, ?_, ?_⟩
    · intro l
      refine (restLabels l).trans ?_
      rw [labels l, Option.map_map]
      rfl
    · intro r comp hr
      refine (restComponents r _ (components r comp hr)).trans ?_
      simp only [fitted_congr labels, List.foldl_cons]

/-- What is proper from the start on stays proper, as long as what is handed out one by one does not
depend on what was done. -/
theorem areProper_of_isProper (c : Circumstances) {ds : List LabelDeed} (hs : s.IsOrderly)
    (proper : ∀ d ∈ ds, d.IsProper s)
    (fixed : ∀ l source vs, extend l source vs ∈ ds → source = .tuple vs) :
    AreProper c s ds := by
  induction ds generalizing s with
  | nil => trivial
  | cons d ds ih =>
    obtain ⟨first, rest⟩ := List.forall_mem_cons.1 proper
    obtain ⟨labels, components⟩ := attempt_spec hs first c
    have fixed' : ∀ l source vs, extend l source vs ∈ ds → source = .tuple vs :=
      fun l source vs hd => fixed l source vs (List.mem_cons_of_mem d hd)
    refine ⟨first, ih (isOrderly_attempt hs first c) (fun e he => ?_) fixed'⟩
    constructor
    case label =>
      rw [labels, Option.isSome_map]
      exact (rest e he).label
    case addends =>
      intro v hv
      rcases (rest e he).addends v hv with nothing | ⟨r, comp, hobject, hr⟩
      · exact .inl nothing
      · exact .inr ⟨r, _, hobject, components r comp hr⟩
    case source =>
      rintro l source vs rfl
      obtain rfl := fixed' l source vs he
      rfl

/-- A component that has a canvas keeps it, and everything else. -/
theorem foldl_fitted_of_hasCanvas {comp : Component} (h : comp.lacksCanvas = false) (r : Ref)
    (ds : List LabelDeed) : ds.foldl (fun comp d => d.fitted s r comp) comp = comp := by
  induction ds with
  | nil => rfl
  | cons d ds ih =>
    have same : d.fitted s r comp = comp := by
      rw [fitted]
      cases s.label? d.label with
      | none => rfl
      | some lab => simp only [Component.fit_of_hasCanvas h, ite_self]
    rw [List.foldl_cons, same, ih]

end LabelDeed

/-! ### Looking at a label -/

namespace Store

variable {s : Store} {l : Ref} {lab : Label} {rs : List Ref}

/-- Whether a component goes by an identifier. -/
def isNamed (s : Store) (id : Value) (r : Ref) : Bool :=
  match s.component? r with
  | some comp => (s.agree comp.id id).toOption == some true
  | none => false

/-- The first of some components that goes by an identifier, or nothing. -/
def firstNamed (s : Store) (id : Value) (rs : List Ref) : Value :=
  ((rs.find? (s.isNamed id)).map .object).getD .none

/-- Whether an identifier can be compared to those of some components. -/
def Compares (s : Store) (id : Value) (rs : List Ref) : Prop :=
  ∀ r ∈ rs, ∀ comp, s.component? r = some comp → ∃ b, s.agree comp.id id = .ok b

theorem firstNamed_eq_ok (hcomponents : ∀ r ∈ rs, ∃ comp, s.component? r = some comp) {id : Value}
    (h : s.Compares id rs) (around : Surroundings) :
    Action.firstNamed id rs around s = .ok (s.firstNamed id rs) s := by
  induction rs with
  | nil => rfl
  | cons r rs ih =>
    obtain ⟨⟨comp, hr⟩, hcomponents⟩ := List.forall_mem_cons.1 hcomponents
    obtain ⟨first, h⟩ := List.forall_mem_cons.1 h
    obtain ⟨b, hb⟩ := first comp hr
    have agrees : (liftM (s.agree comp.id id) : Action Bool) around s = .ok b s := by
      rw [hb]
      rfl
    have own : s.isNamed id r = b := by
      rw [isNamed, hr]
      simp only [hb]
      cases b <;> rfl
    refine Action.bind_eq (Action.read_component hr rfl) (Action.bind_eq (Action.get_apply _ _)
      (Action.bind_eq agrees ?_))
    rw [firstNamed, List.find?_cons, own]
    cases b with
    | true => rfl
    | false => exact ih hcomponents h

/-- A label lists some components, however it is looked at: as an attribute, by its length, one by
one, or for the first one of an identifier. -/
structure Lists (c : Circumstances) (s : Store) (l : Ref) (rs : List Ref) : Prop where
  shown : s.attribute? l "components" = some (.ok (.tuple (rs.map .object)))
  length : (Value.object l).length s.directory = .ok rs.length
  elements : (Value.object l).elements s.directory = .ok (rs.map .object)
  find : ∀ id, s.Compares id rs →
    (Action.call (.object l) "get_component" { inRow := [id] }).attempt c s =
      (.ok (s.firstNamed id rs), s)

theorem IsOrderly.lists (hs : s.IsOrderly) (hl : s.label? l = some lab) (c : Circumstances) :
    s.Lists c l lab.components where
  shown := by
    simp only [attribute?, label?_eq_some_iff.1 hl]
    rfl
  elements := by
    simp only [Value.elements, directory, label?_eq_some_iff.1 hl]
    rfl
  length := by
    simp only [Value.length, Value.elements, directory, label?_eq_some_iff.1 hl, parts?]
    exact congrArg Except.ok (List.length_map _)
  find := by
    intro id h
    have unattached := hs.unattached l "get_component" (by simp)
    have finds (around : Surroundings) :
        Action.findComponent l id around s = .ok (s.firstNamed id lab.components) s :=
      Action.bind_eq (Action.label_eq_ok hl around)
        (firstNamed_eq_ok (hs.listed l lab hl) h around)
    have kept (around : Surroundings) : Action.made (s.firstNamed id lab.components) around s =
        .ok (s.firstNamed id lab.components) s := by
      rw [firstNamed]
      cases lab.components.find? (s.isNamed id) <;> rfl
    have called := LabelDeed.attempt_label (P := (· = s)) hl rfl unattached rfl
      { inRow := [id] } rfl
      (fun around => ⟨s, Action.bind_eq (finds around) (kept around), rfl⟩) c
    exact Prod.ext called.1 called.2

end Store

namespace LabelDeed

variable {s : Store} {l : Ref} {lab : Label} {rs : List Ref}

/-- Removing an object takes its first occurrence from the list, and nothing else. -/
structure Removes (c : Circumstances) (s : Store) (l : Ref) (rs : List Ref) : Prop where
  present : ∀ r ∈ rs, ∃ front rest, rs = front ++ r :: rest ∧ r ∉ front ∧
    ((remove l (.object r)).attempt c s).1 = .ok (.bool true) ∧
      (((remove l (.object r)).attempt c s).2.label? l).map (·.components) = some (front ++ rest)
  absent : ∀ v, (∀ r ∈ rs, v ≠ .object r) → ((remove l v).attempt c s).1 = .ok (.bool false) ∧
    (((remove l v).attempt c s).2.label? l).map (·.components) = some rs

theorem isProper_remove (hl : s.label? l = some lab) (v : Value) : (remove l v).IsProper s where
  label := by rw [label, hl, Option.isSome_some]
  addends := by simp [addends]
  source := nofun

theorem removes (hs : s.IsOrderly) (hl : s.label? l = some lab) (c : Circumstances) :
    Removes c s l lab.components where
  present := by
    intro r hr
    obtain ⟨answered, step⟩ := restocked hs (isProper_remove hl (.object r)) hl c
    obtain ⟨front, rest, hfront, hsplit, herase⟩ := List.exists_erase_eq hr
    refine ⟨front, rest, hsplit, hfront, ?_, ?_⟩
    · rw [answered, answer, Value.ref?, Option.any_some, decide_eq_true hr]
    · have there : ((remove l (.object r)).attempt c s).2.label? l = _ := step.label lab hl
      rw [there, Option.map_some, listed, herase]
  absent := by
    intro v hv
    obtain ⟨answered, step⟩ := restocked hs (isProper_remove hl v) hl c
    have same : (remove l v).answer lab.components = .bool false ∧
        (remove l v).listed lab.components = lab.components := by
      cases v with
      | object r =>
        have missing : r ∉ lab.components := fun hr => hv r hr rfl
        rw [answer, listed, List.erase_of_not_mem missing, Value.ref?, Option.any_some,
          decide_eq_false missing]
        exact ⟨rfl, rfl⟩
      | _ => exact ⟨rfl, rfl⟩
    refine ⟨by rw [answered, same.1], ?_⟩
    have there : ((remove l v).attempt c s).2.label? l = _ := step.label lab hl
    rw [there, Option.map_some, same.2]

/-! ### The register -/

/-- After every run of deeds on orderly labels, a label lists what it listed before with the same
operations carried out on the list, and shows it wherever it is looked at. Each further deed is
carried out, and answered; what is removed is the first occurrence, and nothing changes its place.
A component changes only when it is added while it has no canvas: then it takes over that of the
label. So one that has a canvas is never changed. -/
theorem register {c : Circumstances} {ds : List LabelDeed} (hs : s.IsOrderly)
    (hds : AreProper c s ds) :
    (∀ l lab, s.label? l = some lab →
      let rs := ds.foldl (fun rs d => d.listedAt l rs) lab.components
      (leaves c s ds).label? l = some { lab with components := rs } ∧
        (leaves c s ds).Lists c l rs ∧ Removes c (leaves c s ds) l rs ∧
        ∀ d : LabelDeed, d.label = l → d.IsProper (leaves c s ds) →
          (d.attempt c (leaves c s ds)).1 = .ok (d.answer rs)) ∧
    (∀ r comp, s.component? r = some comp →
      (leaves c s ds).component? r = some (ds.foldl (fun comp d => d.fitted s r comp) comp) ∧
        (comp.lacksCanvas = false → (leaves c s ds).component? r = some comp)) ∧
    ∀ r comp, (leaves c s ds).component? r = some comp →
      ∀ d : LabelDeed, d.IsProper (leaves c s ds) →
        ∃ lab, (leaves c s ds).label? d.label = some lab ∧
          (d.attempt c (leaves c s ds)).2.component? r = some
            (if r ∈ d.added ∧ comp.lacksCanvas = true then comp.onto lab else comp) := by
  obtain ⟨orderly, labels, components⟩ := run_restocks hs hds
  refine ⟨?_, ?_, ?_⟩
  · intro l lab hl rs
    have there := labels l
    rw [hl, Option.map_some] at there
    refine ⟨there, orderly.lists there c, removes orderly there c, ?_⟩
    rintro d rfl proper
    exact (restocked orderly proper there c).1
  · intro r comp hr
    refine ⟨components r comp hr, fun canvas => ?_⟩
    rw [components r comp hr, foldl_fitted_of_hasCanvas canvas]
  · intro r comp hr d proper
    obtain ⟨lab, hl⟩ := Option.isSome_iff_exists.1 proper.label
    refine ⟨lab, hl, ?_⟩
    rw [(restocked orderly proper hl c).2.component lab hl r comp hr]
    by_cases added : r ∈ d.added
    · simp only [added, true_and, if_true, Component.fit]
    · simp only [added, false_and, if_false]

/-- Two labels share a component, which takes over the canvas of the first one. -/
theorem register_shared :
    let s : Store :=
      { things := [.component { kind := .raw 0 }, .component { labelWidth := 5, kind := .raw 0 },
          .label { dpi := 203, labelWidth := 812, labelHeight := 406 },
          .label { dpi := 203, labelWidth := 100, labelHeight := 200 }] }
    let ds : List LabelDeed :=
      [.add 2 (.object 0), .addAll 3 [.none, .object 0, .object 1, .object 0],
        .extend 2 (.tuple [.object 1, .object 0]) [.object 1, .object 0], .remove 3 (.object 0)]
    ((leaves {} s ds).label? 2).map (·.components) = some [0, 1, 0] ∧
      ((leaves {} s ds).label? 3).map (·.components) = some [1, 0] ∧
      (leaves {} s ds).component? 0 =
        some { labelWidth := 812, labelHeight := 406, kind := .raw 0 } := by
  intro s ds
  have orderly : s.IsOrderly := by
    constructor
    case genuine => exact fun _ _ _ => rfl
    case unattached => exact fun _ _ _ => rfl
    case sized =>
      intro l lab hl
      match l, hl with
      | 2, hl | 3, hl =>
        obtain rfl := Option.some.inj hl
        exact ⟨_, _, rfl, rfl⟩
    case listed =>
      intro l lab hl r hr
      match l, hl with
      | 2, hl | 3, hl =>
        obtain rfl := Option.some.inj hl
        cases hr
  have addable : ∀ v ∈ [.none, .object 0, .object 1],
      v = Value.none ∨ ∃ r c, v = .object r ∧ s.component? r = some c := by
    simp [s, Store.component?, Store.thing?]
  have proper : ∀ d ∈ ds, d.IsProper s := by
    intro d hd
    simp only [ds, List.mem_cons, List.not_mem_nil, or_false] at hd
    have label : (s.label? d.label).isSome := by rcases hd with rfl | rfl | rfl | rfl <;> rfl
    have addends : ∀ v ∈ d.addends, v ∈ [.none, .object 0, .object 1] := by
      rcases hd with rfl | rfl | rfl | rfl <;> simp [addends]
    have source : ∀ l source vs, d = extend l source vs → source.elements s.directory = .ok vs := by
      rcases hd with rfl | rfl | rfl | rfl <;> rintro l source vs ⟨⟩
      rfl
    exact ⟨label, fun v hv => addable v (addends v hv), source⟩
  have fixed : ∀ l source vs, extend l source vs ∈ ds → source = .tuple vs := by
    rintro l source vs hd
    simp only [ds, List.mem_cons, List.not_mem_nil, or_false, reduceCtorEq, extend.injEq,
      false_or] at hd
    obtain ⟨-, rfl, rfl⟩ := hd
    rfl
  have run : AreProper {} s ds := areProper_of_isProper {} orderly proper fixed
  obtain ⟨lists, components, -⟩ := register orderly run
  rw [(lists 2 _ rfl).1, (lists 3 _ rfl).1, (components 0 _ rfl).1]
  exact ⟨rfl, rfl, rfl⟩

end LabelDeed

end Zpl
