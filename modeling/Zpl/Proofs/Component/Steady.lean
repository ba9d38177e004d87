import Zpl.Proofs.Component.Forms
import Zpl.Proofs.Component.Setting
import Zpl.Proofs.Component.Shade

/-!
# Values that are shown alike

What an attribute makes of a value is a matter of the text of the value, and the text of an object
may be another one each time. A label is shown by what its components say, so a label with a
component on it is shown differently after each change to the component. A value that is shown
alike, whatever the checked attributes of a component are set to and whatever is generated in order
to show it, is called steady. All values without objects are steady, and so is a list of them.

## Main definitions

* `Store.Variant` — a store with other values of the checked attributes of one component.
* `Action.IsSteady` — an action that comes to the same in all variants.
* `Store.ShowsAlike` — a value that is shown and quoted alike in all variants.
* `Store.WarnsOnly` — warnings of a component change nothing.
* `Store.accepts?` — the form in which an attribute accepts a value.

## Main results

* `Attribute.isSteady_judge` — an attribute makes the same of a steady value in all variants.
* `Store.showsAlike_of_isPlain`, `Store.showsAlike_of_content`, `Store.showsAlike_of_component` —
  values that are steady.
-/

namespace Zpl

/-! ### Variants -/

namespace Store

/-- `t` is `s` with other values of the checked attributes of the component `r`, and with other
instructions of touched components. -/
def Variant (touched : Ref → Prop) (r : Ref) (s t : Store) : Prop :=
  ∃ c k, s.component? r = some c ∧ k.rest = c.kind.rest ∧
    (s.put r (.component { c with kind := k })).Reprinted touched t

variable {touched : Ref → Prop} {s t u : Store} {r : Ref} {c : Component}

namespace Variant

theorem refl (hc : s.component? r = some c) : s.Variant touched r s := by
  refine ⟨c, c.kind, hc, rfl, ?_⟩
  rw [put_component_self hc]
  exact .refl touched s

theorem trans (h : s.Variant touched r t) (k : t.Reprinted touched u) : s.Variant touched r u := by
  obtain ⟨c, kind, hc, same, reprinted⟩ := h
  exact ⟨c, kind, hc, same, reprinted.trans k⟩

theorem length (h : s.Variant touched r t) : t.things.length = s.things.length := by
  obtain ⟨c, kind, -, -, reprinted⟩ := h
  rw [reprinted.length, length_put]

theorem attached (h : s.Variant touched r t) : t.attached = s.attached := by
  obtain ⟨c, kind, -, -, reprinted⟩ := h
  exact reprinted.attached

/-- The component is there, and only its checked attributes are other ones. -/
theorem component? (h : s.Variant touched r t) (hr : ¬ touched r) (hc : s.component? r = some c) :
    ∃ k, k.rest = c.kind.rest ∧ t.component? r = some { c with kind := k } := by
  obtain ⟨c', kind, hc', same, reprinted⟩ := h
  obtain rfl := Option.some.inj (hc.symm.trans hc')
  obtain ⟨v, hv, kept⟩ :=
    reprinted.component? (component?_put_self (lt_length_of_component? hc) _)
  rw [kept (.inr hr)] at hv
  exact ⟨kind, same, hv⟩

/-- What there is in a variant is the same, or it is a component of the same name. -/
theorem things (h : s.Variant touched r t) (q : Ref) : t.thing? q = s.thing? q ∨
    ∃ d d', s.thing? q = some (.component d) ∧ t.thing? q = some (.component d') ∧
      d'.kind.name = d.kind.name := by
  obtain ⟨c, kind, hc, same, reprinted⟩ := h
  have name : kind.name = c.kind.name := by rw [← kind.name_rest, same, c.kind.name_rest]
  rcases reprinted.things q with hq | ⟨-, d, v, hd, -, hq⟩
  · by_cases here : r = q
    · subst here
      rw [thing?_put_self (lt_length_of_component? hc)] at hq
      exact .inr ⟨c, _, component?_eq_some_iff.1 hc, hq, name⟩
    · rw [thing?_put_of_ne here] at hq
      exact .inl hq
  · by_cases here : r = q
    · subst here
      rw [thing?_put_self (lt_length_of_component? hc)] at hd
      cases hd
      exact .inr ⟨c, _, component?_eq_some_iff.1 hc, hq, name⟩
    · rw [thing?_put_of_ne here] at hd
      exact .inr ⟨d, _, hd, hq, rfl⟩

/-- An untouched component stays what it is, apart from its kind, which keeps its name. -/
theorem component?_of_untouched (h : s.Variant touched r t) {q : Ref} (hq : ¬ touched q)
    {d : Component} (hd : s.component? q = some d) :
    ∃ k, k.name = d.kind.name ∧ t.component? q = some { d with kind := k } := by
  by_cases here : r = q
  · subst here
    obtain ⟨k, same, hk⟩ := h.component? hq hd
    exact ⟨k, by rw [← k.name_rest, same, d.kind.name_rest], hk⟩
  · obtain ⟨c, kind, hc, -, reprinted⟩ := h
    obtain ⟨v, hv, kept⟩ := reprinted.component? ((component?_put_of_ne here _).trans hd)
    rw [kept (.inr hq)] at hv
    exact ⟨d.kind, rfl, hv⟩

/-- Whatever is no component is the same in all variants. -/
theorem thing? (h : s.Variant touched r t) {q : Ref} {x : Thing} (hx : s.thing? q = some x)
    (hne : ∀ c, x ≠ .component c) : t.thing? q = some x := by
  rcases h.things q with same | ⟨d, -, hd, -⟩
  · exact same.trans hx
  · exact absurd (Option.some.inj (hx.symm.trans hd)) (hne d)

theorem content? (h : s.Variant touched r t) (q : Ref) : t.content? q = s.content? q := by
  rcases h.things q with same | ⟨d, d', hd, hd', -⟩
  · simp only [Store.content?, same]
    split
    · rfl
    · rename_i record _
      rcases h.things record with same | ⟨d, d', hd, hd', -⟩
      · rw [same]
      · rw [hd, hd']
    · rfl
  · simp [Store.content?, hd, hd']

/-- What is known without printing is the same in all variants. -/
theorem directory_eq (h : s.Variant touched r t) : t.directory = s.directory := by
  have parts (x : Thing) : t.parts? x = s.parts? x := by
    cases x <;> simp only [parts?, h.content?]
  funext q
  rcases h.things q with same | ⟨d, d', hd, hd', name⟩
  · simp only [directory, same, h.content?, parts]
  · have kind : (Thing.component d').kindName = (Thing.component d).kindName := name
    have none : t.parts? (.component d') = s.parts? (.component d) := rfl
    simp only [directory, hd, hd', h.content?, kind, none]

theorem isHandler (h : s.Variant touched r t) {v : Value} (hv : s.isHandler v = true) :
    t.isHandler v = true := by
  cases v with
  | object q =>
    rcases h.things q with same | ⟨d, -, hd, -⟩
    · simp only [Store.isHandler, same]
      exact hv
    · simp [Store.isHandler, hd] at hv
  | _ => cases hv

/-- Objects are printed by the same operations in all variants. -/
theorem reader_eq (h : s.Variant touched r t) : t.reader = s.reader := by
  rw [reader, reader, h.directory_eq, depth, depth, h.length]

/-- Setting the checked attributes of the component once more leads to another variant. -/
theorem put (h : s.Variant touched r t) (hr : ¬ touched r) {d : Component}
    (hd : t.component? r = some d) {k : Kind} (hk : k.rest = d.kind.rest) :
    s.Variant touched r (t.put r (.component { d with kind := k })) := by
  obtain ⟨c, kind, hc, same, reprinted⟩ := h
  have here := lt_length_of_component? hc
  obtain ⟨v, hv, kept⟩ := reprinted.component? (component?_put_self here _)
  rw [kept (.inr hr)] at hv
  obtain rfl := Option.some.inj (hd.symm.trans hv)
  refine ⟨c, k, hc, hk.trans same, ⟨fun q => ?_, ?_, reprinted.attached⟩⟩
  · by_cases hq : r = q
    · subst hq
      rw [thing?_put_self here, thing?_put_self (lt_length_of_component? hd)]
      exact .inl rfl
    · have before := reprinted.things q
      rw [thing?_put_of_ne hq] at before
      rw [thing?_put_of_ne hq, thing?_put_of_ne hq]
      exact before
  · rw [length_put, reprinted.length, length_put, length_put]

end Variant

end Store

/-! ### Steady actions -/

namespace Action

variable {α β : Type} {touched : Ref → Prop} {s : Store} {r : Ref}

/-- An action that comes to the same in all variants of a store, whatever it is carried out in, and
that changes instructions of touched components at most. -/
def IsSteady (x : Action α) (touched : Ref → Prop) (r : Ref) (s : Store) : Prop :=
  ∃ result, ∀ around t, s.Variant touched r t →
    x.outcome around t = result ∧ t.Reprinted touched (x.after around t)

namespace IsSteady

theorem lift (e : Except Fault α) : (liftM e : Action α).IsSteady touched r s := by
  refine ⟨e, fun around t _ => ⟨outcome_lift e around t, ?_⟩⟩
  rw [after_lift]
  exact .refl touched t

theorem pure (a : α) : (Pure.pure a : Action α).IsSteady touched r s :=
  ⟨.ok a, fun _ t _ => ⟨rfl, .refl touched t⟩⟩

theorem bind {x : Action α} {f : α → Action β} (hx : x.IsSteady touched r s)
    (hf : ∀ a, (f a).IsSteady touched r s) : (x >>= f).IsSteady touched r s := by
  obtain ⟨first, hx⟩ := hx
  cases first with
  | error fault =>
    refine ⟨.error fault, fun around t ht => ?_⟩
    obtain ⟨result, reprinted⟩ := hx around t ht
    rw [outcome_bind, after_bind, result]
    exact ⟨rfl, reprinted⟩
  | ok a =>
    obtain ⟨second, hf⟩ := hf a
    refine ⟨second, fun around t ht => ?_⟩
    obtain ⟨result, reprinted⟩ := hx around t ht
    rw [outcome_bind, after_bind, result]
    exact ⟨(hf around _ (ht.trans reprinted)).1,
      reprinted.trans (hf around _ (ht.trans reprinted)).2⟩

theorem map {x : Action α} (hx : x.IsSteady touched r s) (f : α → β) :
    (f <$> x).IsSteady touched r s := by
  rw [map_eq_pure_bind]
  exact hx.bind fun a => .pure (f a)

end IsSteady

end Action

/-! ### Steady values -/

namespace Store

/-- A value is shown and quoted alike in all variants of a store, and nothing but instructions of
touched components changes meanwhile. -/
structure ShowsAlike (s : Store) (touched : Ref → Prop) (r : Ref) (v : Value) : Prop where
  shown : (v.shown s.reader).IsSteady touched r s
  quoted : (v.quoted s.reader).IsSteady touched r s

/-- Whoever is told of the warnings of a component in a variant of a store changes nothing but
instructions of touched components. -/
def WarnsOnly (s : Store) (touched : Ref → Prop) (r : Ref) : Prop :=
  ∀ around t message, s.Variant touched r t →
    t.Reprinted touched ((Edit.warn r message).after around t)

/-- The form in which an attribute accepts a value, if it does. -/
def accepts? (s : Store) (a : Attribute) (v : Value) : Option a.Form :=
  match (a.judge s.reader v : Action (Verdict a.Form)).outcome (.within {} s.depth) s with
  | .ok verdict => verdict.accepted?
  | .error _ => none

end Store

namespace Judgement

open Zpl.Action

variable {touched : Ref → Prop} {s : Store} {r : Ref} {v : Value} {sc : Scribe Action}

section

variable (hquoted : (v.quoted sc).IsSteady touched r s)

include hquoted

theorem isSteady_reject {α : Type} (before after : Text) :
    (reject sc before v after : Action (Verdict α)).IsSteady touched r s :=
  hquoted.bind fun _ => .pure _

omit hquoted in
theorem isSteady_acceptWhole (a : Number) :
    (acceptWhole a : Action (Verdict Int)).IsSteady touched r s :=
  .bind (.lift _) fun _ => .pure _

theorem isSteady_dots (name : Text) : (dots sc name v).IsSteady touched r s := by
  unfold dots
  split
  · exact isSteady_reject hquoted _ _
  · split
    · exact isSteady_acceptWhole _
    · exact .pure _

theorem isSteady_thickness : (thickness sc v).IsSteady touched r s := by
  unfold thickness
  split
  · exact isSteady_reject hquoted _ _
  · split
    · exact isSteady_acceptWhole _
    · split <;> exact .pure _

theorem isSteady_cornerRadius : (cornerRadius sc v).IsSteady touched r s := by
  unfold cornerRadius
  split
  · split
    · exact isSteady_acceptWhole _
    · exact isSteady_reject hquoted _ _
  · exact isSteady_reject hquoted _ _

theorem isSteady_positiveDots (name : Text) : (positiveDots sc name v).IsSteady touched r s := by
  unfold positiveDots
  split
  · split
    · exact isSteady_acceptWhole _
    · exact isSteady_reject hquoted _ _
  · exact isSteady_reject hquoted _ _

theorem isSteady_placement : (placement sc v).IsSteady touched r s := by
  unfold placement
  split
  · exact .pure _
  · exact isSteady_reject hquoted _ _

end

section

variable (hshown : (v.shown sc).IsSteady touched r s)

include hshown

theorem isSteady_content : (content sc v).IsSteady touched r s := by
  unfold content
  split
  · exact hshown.bind fun _ => .pure _
  · exact .pure _

theorem isSteady_token : (v.token sc).IsSteady touched r s := by
  unfold Value.token
  split
  · exact .pure _
  · exact hshown.bind fun _ => .pure _

theorem isSteady_slant : (slant sc v).IsSteady touched r s := by
  refine (isSteady_token hshown).bind fun t => ?_
  split <;> exact .pure _

variable (hquoted : (v.quoted sc).IsSteady touched r s)

include hquoted

theorem isSteady_color : (color sc v).IsSteady touched r s := by
  refine (isSteady_token hshown).bind fun t => ?_
  split
  · exact .pure _
  · exact isSteady_reject hquoted _ _

theorem isSteady_mode : (mode sc v).IsSteady touched r s := by
  refine (isSteady_token hshown).bind fun t => ?_
  split
  · exact .pure _
  · exact isSteady_reject hquoted _ _

theorem isSteady_orientation : (orientation sc v).IsSteady touched r s := by
  refine (isSteady_token hshown).bind fun t => ?_
  split
  · exact .pure _
  · exact isSteady_reject hquoted _ _

end

end Judgement

section

open Zpl.Action Judgement

variable {touched : Ref → Prop} {s t : Store} {r : Ref} {v : Value}

/-- An attribute makes the same of a steady value in all variants of a store. -/
theorem Attribute.isSteady_judge (h : s.ShowsAlike touched r v) (a : Attribute) :
    (a.judge s.reader v : Action (Verdict a.Form)).IsSteady touched r s := by
  obtain ⟨shown, quoted⟩ := h
  cases a with
  | size => exact .bind (.lift _) fun _ => .pure _
  | content => exact isSteady_content shown
  | fontSize => exact isSteady_dots quoted _
  | moduleWidth => exact isSteady_positiveDots quoted _
  | barHeight => exact isSteady_positiveDots quoted _
  | placement => exact (isSteady_placement quoted).map _
  | mode => exact isSteady_mode shown quoted
  | orientation => exact isSteady_orientation shown quoted
  | width => exact (isSteady_dots quoted _).map _
  | height => exact (isSteady_dots quoted _).map _
  | thickness => exact isSteady_thickness quoted
  | color => exact isSteady_color shown quoted
  | cornerRadius => exact isSteady_cornerRadius quoted
  | slant => exact isSteady_slant shown

/-- What an attribute accepts of a steady value shows in all variants. -/
theorem Store.Variant.accepts?_of_judge (ht : s.Variant touched r t) (h : s.ShowsAlike touched r v)
    (refl : s.Variant touched r s) {a : Attribute} {verdict : Verdict a.Form}
    {around : Surroundings} (judged : (a.judge s.reader v).outcome around t = .ok verdict) :
    s.accepts? a v = verdict.accepted? := by
  obtain ⟨result, same⟩ := a.isSteady_judge h
  rw [accepts?, (same _ s refl).1, ← (same around t ht).1, judged]

/-- An attribute accepts a steady value in all variants or in none, and always in one form. -/
theorem Store.Variant.accepts?_eq (ht : s.Variant touched r t) (h : s.ShowsAlike touched r v)
    (refl : s.Variant touched r s) (a : Attribute) : t.accepts? a v = s.accepts? a v := by
  obtain ⟨result, same⟩ := a.isSteady_judge h
  rw [accepts?, accepts?, ht.reader_eq, (same _ t ht).1, (same _ s refl).1]

end

/-! ### What is steady -/

namespace Store

open Zpl.Action

variable {touched : Ref → Prop} {s t : Store} {r q : Ref} {v : Value}

/-- An action that comes to the same without a look at the store is steady. -/
theorem isSteady_of_lift {α : Type} {x : Action α} (e : Except Fault α)
    (h : ∀ around t, s.Variant touched r t → x around t = (liftM e : Action α) around t) :
    x.IsSteady touched r s := by
  obtain ⟨result, same⟩ := @IsSteady.lift α touched s r e
  refine ⟨result, fun around t ht => ?_⟩
  rw [outcome_congr (h around t ht), after_congr (h around t ht)]
  exact same around t ht

/-- A value without objects is shown alike everywhere. -/
theorem showsAlike_of_isPlain (h : v.IsPlain) : s.ShowsAlike touched r v := by
  refine ⟨?_, ?_⟩
  · rw [Value.shown_eq _ h]
    exact .lift _
  · rw [Value.quoted_eq _ _ h]
    exact .lift _

/-- Plain content is quoted without a look at the store. -/
theorem quotedContent_eq (inner : List Ref → Writing) (q : Ref) (h : v.IsPlain)
    (around : Surroundings) (t : Store) : Writing.quotedContent inner [] q v around t =
      (liftM (v.quoted .plain) : Action Text) around t := by
  have looks : Writing.quotedContent inner [] q v around t =
      ((inner [q]).scribe >>= fun sc => v.quoted sc) around t := rfl
  rw [looks, bind_apply]
  exact congrFun (congrFun (Value.quoted_eq _ v h) around) t

/-- A row, a list or a record without objects in it is shown alike everywhere. -/
theorem showsAlike_of_content (hq : s.thing? q = some (.content v)) (h : v.IsPlain) :
    s.ShowsAlike touched r (.object q) := by
  obtain ⟨fuel, hfuel⟩ := s.depth_eq
  have there (around : Surroundings) (t : Store) (ht : s.Variant touched r t) :
      thing q around t = .ok (.content v) t :=
    Writing.thing_eq_ok (ht.thing? hq fun c hc => by cases hc) around
  constructor <;> refine isSteady_of_lift (v.quoted .plain) fun around t ht => ?_ <;>
    rw [reader, hfuel]
  · exact bind_eq (there around t ht) (quotedContent_eq _ q h around t)
  · exact bind_eq (there around t ht) (quotedContent_eq _ q h around t)

/-- A component whose identifier and place are plain is quoted without a look at the store. -/
theorem quotedComponent_eq (w : Writing) {d : Component} (hid : d.id.IsPlain) (hx : d.x.IsPlain)
    (hy : d.y.IsPlain) (around : Surroundings) (t : Store) : w.quotedComponent d around t =
      (liftM (do
        let id ← d.id.quoted .plain
        let x ← d.x.shown .plain
        let y ← d.y.shown .plain
        return d.kind.name ++ ("(id=" : Text) ++ id ++ ", x=" ++ x ++ ", y=" ++ y ++ ")" :
          Except Fault Text) : Action Text) around t := by
  refine bind_eq (a := { facts := t.directory, shown := w.shown, quoted := w.quoted }) rfl ?_
  refine congrFun (congrFun ?_ around) t
  rw [Value.quoted_eq _ _ hid, Value.shown_eq _ hx, Value.shown_eq _ hy]
  simp

/-- A component shows its instruction, and is quoted by its name and its place. If these are plain
and nothing generates it, it is shown alike everywhere; this goes for the component itself. -/
theorem showsAlike_of_component {d : Component} (hq : s.component? q = some d)
    (untouched : ¬ touched q) (hid : d.id.IsPlain) (hx : d.x.IsPlain) (hy : d.y.IsPlain) :
    s.ShowsAlike touched r (.object q) := by
  obtain ⟨fuel, hfuel⟩ := s.depth_eq
  have there (around : Surroundings) (t : Store) (ht : s.Variant touched r t) :
      ∃ k, k.name = d.kind.name ∧
        thing q around t = .ok (.component { d with kind := k }) t := by
    obtain ⟨k, name, hk⟩ := ht.component?_of_untouched untouched hq
    exact ⟨k, name, Writing.thing_eq_ok (component?_eq_some_iff.1 hk) around⟩
  constructor
  · refine isSteady_of_lift (Writing.textOf d.instruction) fun around t ht => ?_
    obtain ⟨k, -, found⟩ := there around t ht
    rw [reader, hfuel]
    exact bind_eq found rfl
  · refine isSteady_of_lift (do
      let id ← d.id.quoted .plain
      let x ← d.x.shown .plain
      let y ← d.y.shown .plain
      return d.kind.name ++ ("(id=" : Text) ++ id ++ ", x=" ++ x ++ ", y=" ++ y ++ ")")
      fun around t ht => ?_
    obtain ⟨k, name, found⟩ := there around t ht
    have look : (Value.object q).quoted s.reader around t =
        Writing.quotedObject (Writing.within (fuel + 1)) [] q around t := by
      rw [reader, hfuel]
      rfl
    rw [look, ← name]
    exact bind_eq found (quotedComponent_eq (d := { d with kind := k }) _ hid hx hy around t)

end Store

namespace Action

open Edit

variable {touched : Ref → Prop} {s t : Store} {r : Ref} {c : Component}

/-- Where a component can warn, its warnings change nothing. -/
theorem warnsOnly_of_canWarn (hr : ¬ touched r) (hc : s.component? r = some c)
    (can : c.CanWarn s) : s.WarnsOnly touched r := by
  intro around t message ht
  obtain ⟨k, -, there⟩ := ht.component? hr hc
  have still : Component.CanWarn t { c with kind := k } :=
    ⟨can.isPlain, can.shown, can.listener.imp_right fun hears => ht.isHandler hears⟩
  obtain ⟨events, warned⟩ := warn_eq_ok there still message around
  rw [after_eq_ok warned]
  exact ⟨fun _ => .inl rfl, rfl, rfl⟩

end Action

end Zpl
