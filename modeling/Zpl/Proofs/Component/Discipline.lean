import Zpl.Proofs.Component.Sparing
import Zpl.Proofs.Component.Validity
import Zpl.Proofs.Value.Whole
import Zpl.Store.Attribute
import Zpl.Store.Construction

/-!
# What callers keep to

Some of what a component is made of is not checked: positions, canvases and margins are stored and
computed with as they come, and a margin takes the side of a shape to wherever the arithmetic takes
it. What is true of such a component depends on what callers handed over. A discipline says what
callers keep to and what follows for components; it is lawful if the arithmetic of placing
components stays within it. Then every edit obeys it, and with the edits every run of callers.

The bottom margin is the one operation that a discipline may rule out, since it takes from the
height of a shape whatever is left of it.

An edit that was started for a component of one kind ends on one of that kind, although anything may
be printed in between. So what it records is judged by the kind that it looked at in the beginning,
which is why a store is said to evolve.

## Main definitions

* `Discipline` — what is handed over, and what shapes come to.
* `Discipline.Laws` — the arithmetic of placing components stays within a discipline.
* `Discipline.Holds`, `Discipline.Evolves` — every component of a store fits a discipline, and stays
  what it was.
* `Discipline.free` — callers do what they like.
* `Action.Obeys` — an action after which a discipline still holds, whether it fails or not.

## Main results

* `Discipline.Holds.spared` — a discipline goes on to hold where components are spared.
* `Kind.assign?_fits` — what an assignment accepts fits if the component did.
* `Action.Obeys.evolving_bind`, `.modifyComponent` and others — closure under what actions are made
  of.
* `Edit.obeys_setMargins`, `Edit.obeys_setAlignment`, `Edit.obeys_stackBelow` and others — edits.
-/

namespace Zpl

/-- An ellipse is known by its name. -/
theorem Figure.eq_ellipse {f : Figure} (h : f.name = ellipse.name) : f = .ellipse := by
  cases f with
  | ellipse => rfl
  | _ => simp [name] at h

/-! ### Disciplines -/

/-- A number that is taken for a thickness comes to a least one when its fraction is dropped. -/
def Value.IsThick (least : Int) (v : Value) : Prop :=
  ∀ a n, v.dots? = some a → a.isPositive = true → a.truncate = .ok n → least ≤ n

/-- Dropping its fraction takes no thickness below zero. -/
theorem Value.isThick_zero (v : Value) : v.IsThick 0 := by
  intro a n _ positive hn
  refine Number.le_truncate (Int.le_refl 0) ?_ hn
  rw [Number.atLeast, Bool.or_eq_true]
  exact .inl positive

/-- What callers keep to, and what it makes of shapes. -/
structure Discipline where
  /-- What stands as a position or as a side of a canvas. -/
  place : Value → Prop
  /-- What is handed over as a margin or as a padding. -/
  margin : Value → Prop
  /-- The width and the height of a shape, which the name of its figure goes with. -/
  sides : Ref → String → Number → Number → Prop
  /-- The least thickness of a shape. -/
  least : Int
  /-- Alignments are set by their method only. -/
  aligned : Prop

namespace Discipline

/-- The arithmetic of placing components stays within a discipline. The laws do not speak of what
a bottom margin leaves of a height. -/
structure Laws (D : Discipline) : Prop where
  least : D.least ≤ 1
  int (n : Int) : D.place (.int n)
  margin_of_place {v : Value} : D.place v → D.margin v
  none : D.margin .none
  add {v w u : Value} {around : Surroundings} {s : Store} : D.margin v → D.margin w →
    (Edit.add v w).outcome around s = .ok u → D.margin u
  twice {v u : Value} {around : Surroundings} {s : Store} : D.margin v →
    (Edit.twice v).outcome around s = .ok u → D.margin u
  addInto {v w u : Value} {around : Surroundings} {s : Store} : D.place v → D.margin w →
    (Edit.addInto v w).outcome around s = .ok u → D.place u
  subInto {v w u : Value} {around : Surroundings} {s : Store} : D.place v → D.margin w →
    (Edit.subInto v w).outcome around s = .ok u → D.place u
  sub {v w u : Value} {around : Surroundings} {s : Store} : D.place v → D.margin w →
    (Edit.sub v w).outcome around s = .ok u → D.place u
  gap {v w u : Value} {around : Surroundings} {s : Store} : D.place v → D.place w →
    (Edit.centeringGap v w).outcome around s = .ok u → D.place u
  empty (r : Ref) (name : String) : D.sides r name 0 0
  width {r : Ref} {name : String} {w h : Number} {n : Int} :
    D.sides r name w h → 0 ≤ n → D.sides r name (.int n) h
  height {r : Ref} {name : String} {w h : Number} {n : Int} :
    D.sides r name w h → 0 ≤ n → D.sides r name w (.int n)
  places {r : Ref} {name : String} {w h : Number} : D.sides r name w h →
    D.place (Value.ofNumber w) ∧ D.place (Value.ofNumber h)
  size {r : Ref} {name : String} {w h n : Number} {thickness : Int} : D.sides r name w h →
    h.add (.int thickness) = .ok n → D.place (Value.ofNumber n)
  narrowed {r : Ref} {name : String} {w h w' : Number} {v : Value} {around : Surroundings}
    {s : Store} : D.sides r name w h → D.margin v →
    (Edit.reduced w v).outcome around s = .ok w' → D.sides r name w' h

/-- What a bottom margin leaves of the height of a shape stays within a discipline as well. An
ellipse keeps its height and moves instead. -/
def Lowers (D : Discipline) (r : Ref) : Prop :=
  ∀ {name : String} {w h h' : Number} {v : Value} {around : Surroundings} {s : Store},
    name ≠ Figure.ellipse.name → D.sides r name w h → D.margin v →
    (Edit.reduced h v).outcome around s = .ok h' → D.sides r name w h'

/-- A shape is as thick as shapes are, and its sides are as they are. -/
structure FitsShape (D : Discipline) (r : Ref) (form : Shape) : Prop where
  thickness : D.least ≤ form.thickness
  sides : D.sides r form.figure.name form.width form.height

/-- What is checked is sound, and shapes fit. -/
structure FitsKind (D : Discipline) (r : Ref) (k : Kind) : Prop where
  sound : k.IsSound
  shape : ∀ form, k = .shape form → D.FitsShape r form

/-- A component stands where a discipline lets it stand, and its kind and its alignment fit. -/
structure Fits (D : Discipline) (r : Ref) (c : Component) : Prop where
  x : D.place c.x
  y : D.place c.y
  labelWidth : D.place c.labelWidth
  labelHeight : D.place c.labelHeight
  kind : D.FitsKind r c.kind
  alignment : D.aligned → ∃ a ∈ c.kind.alignments, c.alignment = .text (token a)

/-- Every component of a quiet store fits. -/
structure Holds (D : Discipline) (s : Store) : Prop where
  quiet : s.IsQuiet
  fits : ∀ r c, s.component? r = some c → D.Fits r c

/-- A discipline holds of `t`, and the components of `s` are still there and of their kinds. -/
structure Evolves (D : Discipline) (s t : Store) : Prop where
  holds : D.Holds t
  names : ∀ r c, s.component? r = some c →
    ∃ c', t.component? r = some c' ∧ c'.kind.name = c.kind.name

/-- What a component is put below: nothing or another component, unless anything can be a place. -/
def Stacks (D : Discipline) (s : Store) (v : Value) : Prop :=
  (∀ w, D.place w) ∨ v = .none ∨ ∃ q c, v = .object q ∧ s.component? q = some c

variable {D : Discipline} {s t u : Store} {r : Ref}

theorem Fits.isSound {c : Component} (h : D.Fits r c) (aligned : D.aligned) : c.IsSound :=
  ⟨h.kind.sound, h.alignment aligned⟩

namespace Evolves

theorem refl (h : D.Holds s) : D.Evolves s s := ⟨h, fun _ c hc => ⟨c, hc, rfl⟩⟩

theorem trans (h : D.Evolves s t) (k : D.Evolves t u) : D.Evolves s u := by
  refine ⟨k.holds, fun r c hc => ?_⟩
  obtain ⟨d, hd, same⟩ := h.names r c hc
  obtain ⟨e, he, same'⟩ := k.names r d hd
  exact ⟨e, he, same'.trans same⟩

end Evolves

namespace Holds

/-- Where the components were spared, a discipline goes on to hold. -/
theorem spared (hs : D.Holds s) (h : s.Spared t) : D.Evolves s t := by
  refine ⟨⟨h.isQuiet hs.quiet, fun r c hc => ?_⟩, fun r c hc => ?_⟩
  · obtain ⟨v, before⟩ := h.component?_before hc
    have fits := hs.fits r _ before
    exact ⟨fits.x, fits.y, fits.labelWidth, fits.labelHeight, fits.kind, fits.alignment⟩
  · obtain ⟨v, after⟩ := h.component? hc
    exact ⟨_, after, rfl⟩

/-- A component is replaced by one of its kind that fits. -/
theorem put (hs : D.Holds s) {c c' : Component} (hc : s.component? r = some c)
    (h : D.Fits r c') (same : c'.kind.name = c.kind.name) :
    D.Evolves s (s.put r (.component c')) := by
  have there := Store.lt_length_of_component? hc
  refine ⟨⟨⟨hs.quiet.genuine.congr rfl, fun q m hm => ?_⟩, fun q d hd => ?_⟩, fun q d hd => ?_⟩
  · by_cases hq : r = q
    · subst hq
      simp [Store.thing?_put_self there] at hm
    · rw [Store.thing?_put_of_ne hq] at hm
      exact hs.quiet.methods q m hm
  · by_cases hq : r = q
    · subst hq
      rw [Store.component?_put_self there] at hd
      exact Option.some.inj hd ▸ h
    · rw [Store.component?_put_of_ne hq] at hd
      exact hs.fits q d hd
  · by_cases hq : r = q
    · subst hq
      obtain rfl := Option.some.inj (hc.symm.trans hd)
      exact ⟨c', Store.component?_put_self there c', same⟩
    · exact ⟨d, (Store.component?_put_of_ne hq _).trans hd, rfl⟩

/-- A component is added that fits. -/
theorem add (hs : D.Holds s) {c : Component} (h : ∀ r, D.Fits r c) :
    D.Evolves s { s with things := s.things ++ [.component c] } := by
  refine ⟨⟨⟨hs.quiet.genuine.congr rfl, fun q m hm => ?_⟩, fun q d hd => ?_⟩, fun q d hd => ?_⟩
  · rcases Store.thing?_of_add hm with hm | hm
    · exact hs.quiet.methods q m hm
    · cases hm
  · rcases Store.thing?_of_add (Store.component?_eq_some_iff.1 hd) with hd | hd
    · exact hs.fits q d (Store.component?_eq_some_iff.2 hd)
    · cases hd
      exact h q
  · have there : (s.things ++ [Thing.component c])[q]? = s.things[q]? :=
      List.getElem?_append_left (Store.lt_length_of_component? hd)
    exact ⟨d, Store.component?_eq_some_iff.2 (there.trans (Store.component?_eq_some_iff.1 hd)), rfl⟩

end Holds

/-! #### No discipline -/

/-- Callers do what they like, apart from thicknesses and maybe alignments. -/
def free (least : Int) (aligned : Prop) : Discipline where
  place _ := True
  margin _ := True
  sides _ _ _ _ := True
  least := least
  aligned := aligned

variable {least : Int}

theorem laws_free (h : least ≤ 1) (aligned : Prop) : (free least aligned).Laws where
  least := h
  int _ := trivial
  margin_of_place _ := trivial
  none := trivial
  add _ _ _ := trivial
  twice _ _ := trivial
  addInto _ _ _ := trivial
  subInto _ _ _ := trivial
  sub _ _ _ := trivial
  gap _ _ _ := trivial
  empty _ _ := trivial
  width _ _ := trivial
  height _ _ := trivial
  places _ := ⟨trivial, trivial⟩
  size _ _ := trivial
  narrowed _ _ _ := trivial

theorem lowers_free (least : Int) (aligned : Prop) (r : Ref) : (free least aligned).Lowers r := by
  intro _ _ _ _ _ _ _ _ _ _ _
  trivial

end Discipline

/-! ### Assignments -/

namespace Action.Judges

variable {α : Type} {P Q : α → Prop}

theorem and {judgement : Action (Verdict α)} (h : judgement.Judges P) (k : judgement.Judges Q) :
    judgement.Judges fun a => P a ∧ Q a :=
  ⟨h.regenerates, fun around s a ha => ⟨h.accepts around s a ha, k.accepts around s a ha⟩⟩

theorem mono {judgement : Action (Verdict α)} (h : judgement.Judges P) (hPQ : ∀ a, P a → Q a) :
    judgement.Judges Q :=
  ⟨h.regenerates, fun around s a ha => hPQ a (h.accepts around s a ha)⟩

end Action.Judges

section

open Zpl.Action Judgement

variable {D : Discipline} {sc : Scribe Action} {a : Attribute} {v : Value} {r : Ref}

/-- What is accepted as a thickness is the thinnest line at least. -/
theorem Judgement.thickness_judges_thick (hsc : sc.Regenerates) {least : Int} (hleast : least ≤ 1)
    (hv : v.IsThick least) : (Judgement.thickness sc v).Judges (least ≤ ·) := by
  unfold Judgement.thickness
  split
  · exact reject_judges hsc _ _ _
  · rename_i b hb
    split
    · rename_i positive
      exact acceptWhole_judges fun n hn => hv b n hb positive hn
    · split
      · exact .accepted hleast
      · exact .ignored

theorem Shape.assign?_fits (laws : D.Laws) (hsc : sc.Regenerates) {form : Shape}
    (hform : D.FitsShape r form) (hv : a = .thickness → v.IsThick D.least)
    {judgement : Action (Verdict Shape)} (h : form.assign? sc v a = some judgement) :
    judgement.Judges (D.FitsShape r) := by
  obtain ⟨thickness, sides⟩ := hform
  cases a with
  | width => cases h; exact (dots_judges hsc _ v).map fun _ hn => ⟨thickness, laws.width sides hn⟩
  | height => cases h; exact (dots_judges hsc _ v).map fun _ hn => ⟨thickness, laws.height sides hn⟩
  | thickness =>
    cases h
    exact (thickness_judges_thick hsc laws.least (hv rfl)).map fun _ hn => ⟨hn, sides⟩
  | color => cases h; exact (color_judges hsc v).map fun _ _ => ⟨thickness, sides⟩
  | cornerRadius =>
    simp only [assign?] at h
    split at h
    · rename_i hfigure
      cases h
      rw [hfigure] at sides
      exact (cornerRadius_judges hsc v).map fun _ _ => ⟨thickness, sides⟩
    · simp at h
  | slant =>
    simp only [assign?] at h
    split at h
    · rename_i hfigure
      cases h
      rw [hfigure] at sides
      exact (slant_judges hsc v).map fun _ _ => ⟨thickness, sides⟩
    · simp at h
  | _ => simp [assign?] at h

/-- Whatever is assigned to a kind that fits, apart from a thickness that is too small, what is
accepted fits and is of the same kind. -/
theorem Kind.assign?_fits (laws : D.Laws) (hsc : sc.Regenerates) {k : Kind} (hk : D.FitsKind r k)
    (hv : a = .thickness → v.IsThick D.least) {judgement : Action (Verdict Kind)}
    (h : k.assign? sc a v = some judgement) :
    judgement.Judges fun k' => D.FitsKind r k' ∧ k'.name = k.name := by
  have sound := k.assign?_judges hsc hk.sound h
  suffices fits : judgement.Judges fun k' => ∀ form, k' = .shape form → D.FitsShape r form from
    (sound.and fits).mono fun _ both => ⟨⟨both.1.1, both.2⟩, both.1.2⟩
  cases k with
  | raw size =>
    cases a <;> cases h
    exact (rawSize_judges v).map fun _ _ _ h => by cases h
  | text line =>
    obtain ⟨_, hassign, h⟩ := Option.bind_eq_some_iff.1 h
    cases h
    exact (line.assign?_judges hsc hk.sound hassign).map fun _ _ _ h => by cases h
  | barcode b =>
    obtain ⟨_, hassign, h⟩ := Option.bind_eq_some_iff.1 h
    cases h
    exact (b.assign?_judges hsc hk.sound hassign).map fun _ _ _ h => by cases h
  | shape form =>
    obtain ⟨_, hassign, h⟩ := Option.bind_eq_some_iff.1 h
    cases h
    refine (form.assign?_fits laws hsc (hk.shape form rfl) hv hassign).map fun form' h' _ heq => ?_
    cases heq
    exact h'

end

/-! ### Actions -/

namespace Action

variable {α β : Type} {D : Discipline} {around : Surroundings} {s : Store} {r : Ref}

/-- A discipline that holds goes on to hold after an action, whether the action fails or not, and
components stay what they are. -/
def Obeys (x : Action α) (D : Discipline) (around : Surroundings) (s : Store) : Prop :=
  D.Holds s → D.Evolves s (x.after around s)

namespace Obeys

/-- What spares the components obeys every discipline. -/
theorem of_spares {x : Action α} (h : x.Spares around s) : x.Obeys D around s :=
  fun hs => hs.spared (h hs.quiet)

theorem of_regenerates {x : Action α} (h : x.Regenerates) : x.Obeys D around s :=
  of_spares (.of_regenerates h)

theorem pure (a : α) : (Pure.pure a : Action α).Obeys D around s := .refl

theorem throw (fault : Fault) : (throw fault : Action α).Obeys D around s := .refl

theorem lift (e : Except Fault α) : (liftM e : Action α).Obeys D around s :=
  of_spares (.lift e)

/-- What comes second may depend on where the result of the first comes from, and on that components
stay what they are. -/
theorem evolving_bind {x : Action α} {f : α → Action β} (hx : x.Obeys D around s)
    (hf : ∀ a t, D.Evolves s t → x.outcome around s = .ok a → (f a).Obeys D around t) :
    (x >>= f).Obeys D around s := by
  intro hs
  have ht := hx hs
  rw [after_bind]
  split
  · rename_i a ha
    exact ht.trans (hf a _ ht ha ht.holds)
  · exact ht

theorem bind {x : Action α} {f : α → Action β} (hx : x.Obeys D around s)
    (hf : ∀ a t, x.outcome around s = .ok a → (f a).Obeys D around t) :
    (x >>= f).Obeys D around s :=
  hx.evolving_bind fun a t _ => hf a t

/-- What comes second starts from spared components where the first spares them. -/
theorem spares_bind {x : Action α} {f : α → Action β} (hx : x.Spares around s)
    (hf : ∀ a t, s.Spared t → (f a).Obeys D around t) : (x >>= f).Obeys D around s := by
  intro hs
  have ht := hs.spared (hx hs.quiet)
  rw [after_bind]
  split
  · exact ht.trans (hf _ _ (hx hs.quiet) ht.holds)
  · exact ht

/-- What comes second starts from the same store where the first only looks at it. -/
theorem look_bind {x : Action α} {f : α → Action β} (hx : x.after around s = s)
    (hf : ∀ a, x.outcome around s = .ok a → (f a).Obeys D around s) :
    (x >>= f).Obeys D around s := by
  intro hs
  rw [after_bind, hx]
  split
  · rename_i a ha
    exact hf a ha hs
  · exact .refl hs

/-- What depends on a component may depend on that it fits. -/
theorem component_bind {f : Component → Action α}
    (hf : ∀ c, s.component? r = some c → D.Fits r c → (f c).Obeys D around s) :
    (component r >>= f).Obeys D around s := by
  refine look_bind (after_component r around s) fun c hc hs => ?_
  have there : s.component? r = some c := eq_some_of_outcome_demand hc
  exact hf c there (hs.fits r c there) hs

theorem get_bind {f : Store → Action α} (hf : (f s).Obeys D around s) :
    ((get : Action Store) >>= f).Obeys D around s := by
  intro hs
  rw [after_bind]
  exact hf hs

theorem directory_bind {f : Directory → Action α} (hf : (f s.directory).Obeys D around s) :
    (directory >>= f).Obeys D around s := by
  intro hs
  rw [after_bind]
  exact hf hs

/-- Whatever is done with the scribe of a store. -/
theorem scribe_bind {f : Scribe Action → Action α}
    (hf : ∀ sc : Scribe Action, sc.Regenerates → (f sc).Obeys D around s) :
    (scribe >>= f).Obeys D around s := by
  intro hs
  have hw := Writing.regenerates_within s.depth []
  rw [after_bind]
  exact hf _ ⟨hw.shown, hw.quoted⟩ hs

/-- Whatever is done with a verdict, of which something is known if it accepts. -/
theorem judged {judgement : Action (Verdict α)} {P : α → Prop} {f : Verdict α → Action β}
    (h : judgement.Judges P)
    (hf : ∀ verdict t, D.Evolves s t → (∀ a, verdict = .accepted a → P a) →
      (f verdict).Obeys D around t) : (judgement >>= f).Obeys D around s :=
  evolving_bind (of_regenerates h.regenerates) fun verdict t ht hverdict =>
    hf verdict t ht fun a ha => h.accepts around s a (ha ▸ hverdict)

/-- A component is changed to one of its kind that fits. -/
theorem modifyComponent {f : Component → Component}
    (hf : ∀ c, s.component? r = some c → D.Fits r c →
      D.Fits r (f c) ∧ (f c).kind.name = c.kind.name) :
    (modifyComponent r f).Obeys D around s := by
  refine component_bind fun c hc fits hs => ?_
  obtain ⟨fits', same⟩ := hf c hc fits
  exact hs.put hc fits' same

/-- A component that was looked at before becomes another one of its kind. -/
theorem setKind {t : Store} {c : Component} {k : Kind} (hc : s.component? r = some c)
    (ht : D.Evolves s t) (hk : D.FitsKind r k) (same : k.name = c.kind.name) :
    (Action.modifyComponent r fun c => { c with kind := k }).Obeys D around t := by
  refine modifyComponent fun c' hc' fits => ?_
  obtain ⟨c'', hc'', same'⟩ := ht.names r c hc
  obtain rfl := Option.some.inj (hc'.symm.trans hc'')
  have same : k.name = c'.kind.name := same.trans same'.symm
  refine ⟨⟨fits.x, fits.y, fits.labelWidth, fits.labelHeight, hk, fun aligned => ?_⟩, same⟩
  rw [Kind.alignments_of_name same]
  exact fits.alignment aligned

theorem add_component {c : Component} (h : ∀ r, D.Fits r c) :
    (add (.component c)).Obeys D around s :=
  fun hs => hs.add h

theorem forM {f : α → Action Unit} {as : List α}
    (hf : ∀ a ∈ as, ∀ t, (f a).Obeys D around t) : (as.forM f).Obeys D around s := by
  induction as generalizing s with
  | nil => exact .pure ()
  | cons a as ih =>
    refine bind (hf a (List.mem_cons_self ..) s) fun _ t _ => ?_
    exact ih fun a ha => hf a (List.mem_cons_of_mem _ ha)

/-- Where nothing was put in its place, a method is carried out. -/
theorem dispatchUnit {name : String} (hname : name ∈ Store.calledNames) (values : List Value)
    {own : Action Unit} (h : own.Obeys D around s) :
    (dispatchUnit r name values own).Obeys D around s := by
  refine bind (fun hs => ?_) fun _ _ _ => .pure _
  rw [after_dispatch hs.quiet.genuine hname]
  exact bind h (fun _ _ _ => .pure _) hs

end Obeys

end Action

/-! ### Edits -/

namespace Edit

open Zpl.Action

variable {D : Discipline} {around : Surroundings} {s : Store} {r : Ref}

/-- An assignment stores what its check lets through. -/
theorem obeys_assign (laws : D.Laws) (sparing : around.IsSparing) (r : Ref) {a : Attribute}
    {v : Value} (hv : a = .thickness → v.IsThick D.least) :
    (assign r a v).Obeys D around s := by
  refine .component_bind fun c hc fits => .scribe_bind fun sc hsc => ?_
  split
  · exact .throw _
  · rename_i judgement hjudgement
    have judges := Kind.assign?_fits laws hsc fits.kind hv hjudgement
    refine .judged judges fun verdict t ht accepts => ?_
    cases verdict with
    | accepted kind =>
      obtain ⟨hkind, same⟩ := accepts kind rfl
      exact .setKind hc ht hkind same
    | ignored => exact .pure _
    | rejected message => exact .of_spares (spares_warn sparing r message)

/-! #### Margins -/

theorem obeys_setX {x : Value} (hx : D.place x) :
    (modifyComponent r fun c => { c with x := x }).Obeys D around s :=
  .modifyComponent fun _ _ fits => ⟨{ fits with x := hx }, rfl⟩

theorem obeys_setY {y : Value} (hy : D.place y) :
    (modifyComponent r fun c => { c with y := y }).Obeys D around s :=
  .modifyComponent fun _ _ fits => ⟨{ fits with y := hy }, rfl⟩

theorem obeys_setLabelWidth {width : Value} (h : D.place width) :
    (modifyComponent r fun c => { c with labelWidth := width }).Obeys D around s :=
  .modifyComponent fun _ _ fits => ⟨{ fits with labelWidth := h }, rfl⟩

theorem obeys_setLabelHeight {height : Value} (h : D.place height) :
    (modifyComponent r fun c => { c with labelHeight := height }).Obeys D around s :=
  .modifyComponent fun _ _ fits => ⟨{ fits with labelHeight := h }, rfl⟩

section

variable (laws : D.Laws)

include laws

theorem obeys_setLabelSize (r : Ref) (width height : Value) :
    (setLabelSize r width height).Obeys D around s :=
  .bind (.lift _) fun _ _ _ => .bind (obeys_setLabelWidth (laws.int _)) fun _ _ _ =>
    .bind (.lift _) fun _ _ _ => obeys_setLabelHeight (laws.int _)

theorem obeys_setMarginLeft (r : Ref) {margin : Value} (hm : D.margin margin) :
    (setMarginLeft r margin).Obeys D around s :=
  .component_bind fun _ _ fits => .bind (.of_spares (spares_addInto _ _)) fun _ _ hx =>
    obeys_setX (laws.addInto fits.x hm hx)

theorem obeys_setMarginTop (r : Ref) {margin : Value} (hm : D.margin margin) :
    (setMarginTop r margin).Obeys D around s :=
  .component_bind fun _ _ fits => .bind (.of_spares (spares_addInto _ _)) fun _ _ hy =>
    obeys_setY (laws.addInto fits.y hm hy)

theorem obeys_moveLeft (r : Ref) {margin : Value} (hm : D.margin margin) :
    (moveLeft r margin).Obeys D around s :=
  .component_bind fun _ _ fits => .bind (.of_spares (spares_subInto _ _)) fun _ _ hx =>
    obeys_setX (laws.subInto fits.x hm hx)

theorem obeys_moveUp (r : Ref) {margin : Value} (hm : D.margin margin) :
    (moveUp r margin).Obeys D around s :=
  .component_bind fun _ _ fits => .bind (.of_spares (spares_subInto _ _)) fun _ _ hy =>
    obeys_setY (laws.subInto fits.y hm hy)

/-- A margin takes from the width of a shape. -/
theorem obeys_narrowShape {c : Component} {form : Shape} (hc : s.component? r = some c)
    (hk : c.kind = .shape form) {margin : Value} (hm : D.margin margin) :
    (narrowShape r form margin).Obeys D around s := by
  intro hs
  have fits := (hs.fits r c hc).kind
  rw [hk] at fits
  obtain ⟨thickness, sides⟩ := fits.shape form rfl
  refine Obeys.evolving_bind (.of_spares (spares_reduced _ _)) (fun width t ht hwidth => ?_) hs
  refine .setKind hc ht (k := .shape { form with width := width }) ⟨fits.sound, ?_⟩
    (by rw [hk]; rfl)
  rintro _ ⟨⟩
  exact ⟨thickness, laws.narrowed sides hm hwidth⟩

omit laws in
/-- A margin takes from the height of a shape, if a discipline lets it. -/
theorem obeys_lowerShape (lowers : D.Lowers r) {c : Component} {form : Shape}
    (hc : s.component? r = some c) (hk : c.kind = .shape form) (hfigure : form.figure ≠ .ellipse)
    {margin : Value} (hm : D.margin margin) : (lowerShape r form margin).Obeys D around s := by
  intro hs
  have fits := (hs.fits r c hc).kind
  rw [hk] at fits
  obtain ⟨thickness, sides⟩ := fits.shape form rfl
  refine Obeys.evolving_bind (.of_spares (spares_reduced _ _)) (fun height t ht hheight => ?_) hs
  refine .setKind hc ht (k := .shape { form with height := height }) ⟨fits.sound, ?_⟩
    (by rw [hk]; rfl)
  rintro _ ⟨⟩
  exact ⟨thickness, lowers (fun name => hfigure (Figure.eq_ellipse name)) sides hm hheight⟩

theorem obeys_setMarginRight (r : Ref) {margin : Value} (hm : D.margin margin) :
    (setMarginRight r margin).Obeys D around s := by
  refine .component_bind fun c hc _ => ?_
  split
  · rename_i form hk
    split
    · exact obeys_moveLeft laws r hm
    · exact obeys_narrowShape laws hc hk hm
  · exact obeys_moveLeft laws r hm
  · exact .component_bind fun _ _ fits => .bind (.of_spares (spares_subInto _ _)) fun _ _ h =>
      obeys_setLabelWidth (laws.subInto fits.labelWidth hm h)

theorem obeys_setMarginBottom (lowers : D.Lowers r) {margin : Value} (hm : D.margin margin) :
    (setMarginBottom r margin).Obeys D around s := by
  refine .component_bind fun c hc _ => ?_
  split
  · rename_i form hk
    split
    · exact obeys_moveUp laws r hm
    · rename_i hfigure
      exact obeys_lowerShape lowers hc hk hfigure hm
  · exact obeys_moveUp laws r hm
  · exact .component_bind fun _ _ fits => .bind (.of_spares (spares_subInto _ _)) fun _ _ h =>
      obeys_setLabelHeight (laws.subInto fits.labelHeight hm h)

theorem obeys_applyLeft (r : Ref) {margin : Value} (hm : D.margin margin) :
    (applyLeft r margin).Obeys D around s :=
  .dispatchUnit (by decide) _ (obeys_setMarginLeft laws r hm)

theorem obeys_applyTop (r : Ref) {margin : Value} (hm : D.margin margin) :
    (applyTop r margin).Obeys D around s :=
  .dispatchUnit (by decide) _ (obeys_setMarginTop laws r hm)

theorem obeys_applyRight (r : Ref) {margin : Value} (hm : D.margin margin) :
    (applyRight r margin).Obeys D around s :=
  .dispatchUnit (by decide) _ (obeys_setMarginRight laws r hm)

theorem obeys_applyBottom (lowers : D.Lowers r) {margin : Value} (hm : D.margin margin) :
    (applyBottom r margin).Obeys D around s :=
  .dispatchUnit (by decide) _ (obeys_setMarginBottom laws lowers hm)

theorem obeys_setFourMargins (lowers : D.Lowers r) {left top right bottom : Value}
    (hleft : D.margin left) (htop : D.margin top) (hright : D.margin right)
    (hbottom : D.margin bottom) : (setFourMargins r left top right bottom).Obeys D around s :=
  .bind (.of_spares (follows_add _ _)) fun _ _ hb =>
    .bind (obeys_applyBottom laws lowers (laws.add hbottom htop hb)) fun _ _ _ =>
      .bind (.of_spares (follows_add _ _)) fun _ _ hr =>
        .bind (obeys_applyRight laws r (laws.add hright hleft hr)) fun _ _ _ =>
          .bind (obeys_applyLeft laws r hleft) fun _ _ _ => obeys_applyTop laws r htop

theorem obeys_setSingleMargin (lowers : D.Lowers r) {margin : Value} (hm : D.margin margin) :
    (setSingleMargin r margin).Obeys D around s := by
  refine .component_bind fun c _ _ => ?_
  split
  · exact .dispatchUnit (by decide) _ (obeys_setFourMargins laws lowers hm hm hm hm)
  · exact .bind (obeys_applyLeft laws r hm) fun _ _ _ =>
      .bind (obeys_applyTop laws r hm) fun _ _ _ =>
        .bind (.of_spares (follows_twice _)) fun _ _ h =>
          .bind (obeys_applyRight laws r (laws.twice hm h)) fun _ _ _ =>
            .bind (.of_spares (follows_twice _)) fun _ _ h =>
              obeys_applyBottom laws lowers (laws.twice hm h)

theorem obeys_setMargins (lowers : D.Lowers r) {left top right bottom : Value}
    (hleft : D.margin left) (htop : D.margin top) (hright : D.margin right)
    (hbottom : D.margin bottom) : (setMargins r left top right bottom).Obeys D around s := by
  unfold setMargins
  split
  · exact obeys_setSingleMargin laws lowers hleft
  · exact .throw _
  · exact .throw _
  · exact .throw _
  · exact obeys_setFourMargins laws lowers hleft htop hright hbottom

/-! #### Alignment -/

omit laws in
/-- What is recorded is one of the alignments of the kind that was looked at before. -/
theorem obeys_recordAlignment {t : Store} {c : Component} {a : Alignment}
    (hc : s.component? r = some c) (ht : D.Evolves s t) (ha : a ∈ c.kind.alignments) :
    (recordAlignment r a).Obeys D around t := by
  refine .modifyComponent fun c' hc' fits => ⟨⟨fits.x, fits.y, fits.labelWidth, fits.labelHeight,
    fits.kind, fun _ => ⟨a, ?_, rfl⟩⟩, rfl⟩
  obtain ⟨c'', hc'', same⟩ := ht.names r c hc
  obtain rfl := Option.some.inj (hc'.symm.trans hc'')
  exact Kind.alignments_of_name same ▸ ha

theorem obeys_alignShape {c : Component} {form : Shape} (hc : s.component? r = some c)
    (hk : c.kind = .shape form) (v : Value) : (alignShape r form v).Obeys D around s := by
  refine .component_bind fun d hd fits => ?_
  obtain rfl := Option.some.inj (hc.symm.trans hd)
  have shape := fits.kind.shape form hk
  obtain ⟨width, height⟩ := laws.places shape.sides
  refine .evolving_bind (.of_spares (spares_alignmentOf v)) fun _ t ht _ => ?_
  have records {a : Alignment} (ha : a ∈ [.left, .center, .right, .bottom]) (u : Store)
      (hu : D.Evolves t u) : (recordAlignment r a).Obeys D around u :=
    obeys_recordAlignment hc (ht.trans hu) (by rw [hk]; exact ha)
  split
  · exact .evolving_bind (obeys_setX (laws.int 0)) fun _ u hu _ => records (by decide) u hu
  · exact .evolving_bind (.of_spares (follows_centeringGap _ _)) fun _ u hu h =>
      .evolving_bind (obeys_setX (laws.gap fits.labelWidth width h)) fun _ w hw _ =>
        records (by decide) w (hu.trans hw)
  · exact .evolving_bind (.of_spares (follows_sub _ _)) fun _ u hu h =>
      .evolving_bind (obeys_setX (laws.sub fits.labelWidth (laws.margin_of_place width) h))
        fun _ w hw _ => records (by decide) w (hu.trans hw)
  · refine .evolving_bind (.modifyComponent fun _ _ fits =>
      ⟨{ fits with y := fits.labelHeight }, rfl⟩) fun _ u hu _ => ?_
    exact .evolving_bind (obeys_moveUp laws r (laws.margin_of_place height)) fun _ w hw _ =>
      records (by decide) w (hu.trans hw)
  · exact .of_spares (spares_ignoreAlignment _ _ _ _)

omit laws in
/-- The length by which a barcode is laid out is a whole number. -/
theorem obeys_printedLength_bind {β : Type} {f : Value → Action β}
    (hf : ∀ n t, D.Evolves s t → (f (.int n)).Obeys D around t) :
    (printedLength r >>= f).Obeys D around s := by
  intro hs
  refine Obeys.evolving_bind (.of_spares (follows_printedLength r)) (fun v t ht hv => ?_) hs
  obtain ⟨n, rfl⟩ := int_of_printedLength hs.quiet hv
  exact hf n t ht

theorem obeys_alignBarcode {c : Component} {b : Barcode} (hc : s.component? r = some c)
    (hk : c.kind = .barcode b) (v : Value) : (alignBarcode r b v).Obeys D around s := by
  refine .component_bind fun _ _ fits =>
    .evolving_bind (.of_spares (spares_alignmentOf v)) fun _ t ht _ => ?_
  have records {a : Alignment} (ha : a ∈ [.left, .center, .right, .bottom]) (u : Store)
      (hu : D.Evolves t u) : (recordAlignment r a).Obeys D around u :=
    obeys_recordAlignment hc (ht.trans hu) (by rw [hk]; exact ha)
  split
  · exact .evolving_bind (obeys_setX (laws.int 0)) fun _ u hu _ => records (by decide) u hu
  · refine obeys_printedLength_bind fun length u hu => ?_
    exact .evolving_bind (.of_spares (follows_centeringGap _ _)) fun _ w hw h =>
      .evolving_bind (obeys_setX (laws.gap fits.labelWidth (laws.int length) h)) fun _ x hx _ =>
        records (by decide) x ((hu.trans hw).trans hx)
  · split
    · refine obeys_printedLength_bind fun length u hu => ?_
      have margin := laws.margin_of_place (laws.int length)
      exact .evolving_bind (.of_spares (follows_sub _ _)) fun _ w hw h =>
        .evolving_bind (obeys_setX (laws.sub fits.labelWidth margin h)) fun _ x hx _ =>
          records (by decide) x ((hu.trans hw).trans hx)
    · exact .pure _
  · split
    · have margin := laws.margin_of_place (laws.int b.footprint)
      exact .evolving_bind (.of_spares (follows_sub _ _)) fun _ u hu h =>
        .evolving_bind (obeys_setY (laws.sub fits.labelHeight margin h)) fun _ w hw _ =>
          records (by decide) w (hu.trans hw)
    · exact .pure _
  · exact .of_spares (spares_ignoreAlignment _ _ _ _)

/-- Each kind records its own alignments only. -/
theorem obeys_setAlignment (r : Ref) (v : Value) : (setAlignment r v).Obeys D around s := by
  refine .component_bind fun c hc _ => ?_
  split
  · rename_i form hk
    exact obeys_alignShape laws hc hk v
  · rename_i b hk
    exact obeys_alignBarcode laws hc hk v
  · rename_i line hk
    refine .evolving_bind (.of_spares (spares_alignmentOf v)) fun wanted t ht _ => ?_
    split
    · exact .of_spares (spares_ignoreAlignment _ _ _ _)
    · exact .of_spares (spares_ignoreAlignment _ _ _ _)
    · rename_i a hbottom _
      refine obeys_recordAlignment hc ht ?_
      rw [hk]
      cases a <;> simp_all [Kind.alignments]
  · rename_i size hk
    refine .evolving_bind (.of_spares (spares_alignmentOf v)) fun wanted t ht _ => ?_
    split
    · exact .of_spares (spares_ignoreAlignment _ _ _ _)
    · rename_i a _
      refine obeys_recordAlignment hc ht ?_
      rw [hk]
      cases a <;> simp [Kind.alignments, Tokened.all]

/-! #### Stacking and filling -/

omit laws in
/-- The attributes of a component are those that it shows. -/
theorem read_eq {q : Ref} {c : Component} (hc : s.component? q = some c) {name : String}
    {shown : Except Fault Value} (h : c.fields.lookup name = some shown) :
    Action.read (.object q) name around s = (liftM shown : Action Value) around s := by
  have found : s.attribute? q name = some shown := by
    simp [Store.attribute?, Store.component?_eq_some_iff.1 hc, Thing.fields, List.lookup_append, h]
  rw [Action.read, bind_apply, get_apply]
  simp only [found]

/-- What a component that fits shows as its size is a place. -/
theorem place_of_footprint {q : Ref} {c : Component} (fits : D.Fits q c) {size : Number}
    (h : c.footprint = .ok size) : D.place (Value.ofNumber size) := by
  obtain ⟨id, x, y, labelWidth, labelHeight, alignment, instruction, listener, kind⟩ := c
  cases kind with
  | shape form =>
    have sides := (fits.kind.shape form rfl).sides
    cases sum : form.height.add (.int form.thickness) with
    | ok n =>
      have shown : liftArithmetic (form.height.add (.int form.thickness)) = .ok size := h
      rw [sum] at shown
      cases shown
      exact laws.size sides sum
    | error fault =>
      have shown : liftArithmetic (form.height.add (.int form.thickness)) = .ok size := h
      rw [sum] at shown
      cases shown
  | _ => cases h; exact laws.int _

/-- What a component is put below has a place and a size that are places. -/
theorem obeys_stackBelow (r : Ref) {other : Value} (h : D.Stacks s other) :
    (stackBelow r other).Obeys D around s := by
  have moved {y size : Value} (hy : D.place y) (hsize : D.place size) (t : Store) :
      (do
        let below ← add y size
        let y ← addInto (← component r).y below
        modifyComponent r fun c => { c with y := y } : Action Unit).Obeys D around t :=
    .bind (.of_spares (follows_add _ _)) fun _ _ hbelow => .component_bind fun _ _ fits =>
      .bind (.of_spares (spares_addInto _ _)) fun _ _ h =>
        obeys_setY (laws.addInto fits.y
          (laws.add (laws.margin_of_place hy) (laws.margin_of_place hsize) hbelow) h)
  unfold stackBelow
  split
  · exact .pure _
  · rcases h with anywhere | nothing | ⟨q, d, rfl, hd⟩
    · exact .bind (.of_regenerates (.read _ _)) fun y _ _ =>
        .bind (.of_regenerates (.read _ _)) fun size t _ => moved (anywhere y) (anywhere size) t
    · contradiction
    · intro hs
      have fits := hs.fits q d hd
      have y : Action.read (.object q) "y" around s = _ := read_eq hd rfl
      have size : Action.read (.object q) "component_size" around s = _ := read_eq hd rfl
      refine Obeys.look_bind ((after_congr y).trans (after_lift _ _ _)) (fun u hu => ?_) hs
      refine Obeys.look_bind ((after_congr size).trans (after_lift _ _ _)) fun v hv => ?_
      rw [outcome_congr y, outcome_lift] at hu
      rw [outcome_congr size, outcome_lift] at hv
      cases hu
      cases hfootprint : d.footprint with
      | ok n =>
        rw [hfootprint] at hv
        cases hv
        exact moved fits.y (place_of_footprint laws fits hfootprint) s
      | error fault =>
        rw [hfootprint] at hv
        cases hv

omit laws in
/-- Half of a side, rounded down, is no thickness between zero and one. -/
theorem isThick_fillingThickness {least : Int} (hleast : least ≤ 1) {form : Shape} {a : Number}
    (h : fillingThickness form = .ok a) : (Value.ofNumber a).IsThick least := by
  have whole : a.IsWhole := by
    unfold fillingThickness at h
    split at h
    · exact halved h
    · exact halved h
  intro b n hb positive hn
  rw [Value.dots?_ofNumber] at hb
  cases hb
  exact Int.le_trans hleast (Number.one_le_truncate whole positive hn)
where
  halved {a b : Number} (h : liftArithmetic (b.floorDiv 2) = .ok a) : a.IsWhole := by
    cases hdiv : b.floorDiv 2 with
    | ok c =>
      rw [hdiv] at h
      cases h
      exact Number.isWhole_floorDiv hdiv
    | error fault =>
      rw [hdiv] at h
      cases h

theorem obeys_fillBackground (sparing : around.IsSparing) (r : Ref) :
    (fillBackground r).Obeys D around s := by
  refine .component_bind fun _ _ _ => ?_
  split
  · exact .bind (.lift _) fun a _ ha => obeys_assign laws sparing r fun _ =>
      isThick_fillingThickness laws.least ((outcome_lift _ _ _).symm.trans ha)
  · exact .throw _

omit laws in
theorem obeys_setInstruction (r : Ref) (v : Value) : (setInstruction r v).Obeys D around s := by
  refine .directory_bind (.component_bind fun _ _ _ => ?_)
  split
  · exact .modifyComponent fun _ _ fits => ⟨⟨fits.x, fits.y, fits.labelWidth, fits.labelHeight,
      fits.kind, fits.alignment⟩, rfl⟩
  · exact .throw _

omit laws in
/-- A barcode changes in what is not checked. -/
theorem obeys_modifyBarcode (r : Ref) {f : Barcode → Barcode}
    (hf : ∀ b, (Kind.barcode b).IsSound → (Kind.barcode (f b)).IsSound) :
    (modifyBarcode r f).Obeys D around s := by
  intro hs
  refine Obeys.component_bind (fun c hc fits => ?_) hs
  split
  · rename_i b hk
    have sound := fits.kind.sound
    rw [hk] at sound
    exact .setKind hc (.refl hs) ⟨hf b sound, fun form h => by cases h⟩ (by rw [hk]; rfl)
  · exact .throw _

omit laws in
/-- A line of text changes in what is not checked. -/
theorem obeys_modifyLine (r : Ref) {f : TextLine → TextLine}
    (hf : ∀ line, (f line).fontSize = line.fontSize) : (modifyLine r f).Obeys D around s := by
  intro hs
  refine Obeys.component_bind (fun c hc fits => ?_) hs
  split
  · rename_i line hk
    have sound := fits.kind.sound
    rw [hk] at sound
    have sound' : (Kind.text (f line)).IsSound := by rwa [Kind.IsSound, hf]
    exact .setKind hc (.refl hs) ⟨sound', fun form h => by cases h⟩ (by rw [hk]; rfl)
  · exact .throw _

end

end Edit

end Zpl
