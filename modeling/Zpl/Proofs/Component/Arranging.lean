import Zpl.Proofs.Component.Background
import Zpl.Proofs.Component.Deed
import Zpl.Proofs.Component.Drawing

/-!
# Arranging components

Backgrounds are exclusive if no two barcodes have the same one. Two methods change what lies behind
a barcode: one puts a component there that was just made, which nobody else can have behind it, and
one leaves nothing there. All other methods of components and labels, and all assignments but one,
edit components without a change to what lies behind them. So all of these keep backgrounds
exclusive.

## Main definitions

* `Store.IsExclusive` — no two barcodes have the same background.
* `Store.Arranges` — backgrounds are exclusive afterwards if they were before.
* `Component.Adjusts` — a method that edits its component, or keeps backgrounds exclusive.

## Main results

* `Store.IsExclusive.edited`, `Action.arranges_applyBackground` — what keeps backgrounds exclusive.
* `Component.adjusts_methods`, `Label.edits_methods` — every method of a component and of a label.
* `Action.follows_callNamed` — calling a method by its name.
* `Action.edits_write`, `Action.edits_construct` — assigning and making.
-/

namespace Zpl

/-- Only barcodes have something behind them. -/
theorem Kind.behind?_eq_some_iff {k : Kind} {v : Value} :
    k.behind? = some v ↔ ∃ b, k = .barcode b ∧ b.background = v := by
  cases k <;> simp [behind?]

/-- The background of a component is the object behind it. -/
theorem Component.background?_eq_some_iff {c : Component} {q : Ref} :
    c.background? = some q ↔ c.kind.behind? = some (.object q) := by
  rw [Kind.behind?_eq_some_iff]
  refine ⟨fun h => ?_, fun ⟨b, hk, hb⟩ => background?_of_kind hk hb⟩
  unfold background? at h
  split at h
  · rename_i hk
    cases h
    exact ⟨_, hk, rfl⟩
  · cases h

/-! ### Exclusive backgrounds -/

namespace Store

variable {touched : Ref → Prop} {s t : Store} {r : Ref}

/-- What lies behind a barcode is nothing, or a component with nothing behind it that lies behind no
other barcode. -/
structure IsExclusive (s : Store) : Prop where
  owned : ∀ r c v, s.component? r = some c → c.kind.behind? = some v →
    v = .none ∨ ∃ q d, v = .object q ∧ s.component? q = some d ∧ d.kind.behind? = none
  exclusive : ∀ r r' c c' q, s.component? r = some c → s.component? r' = some c' →
    c.kind.behind? = some (.object q) → c'.kind.behind? = some (.object q) → r = r'

namespace IsExclusive

/-- Editing components takes no background from a barcode and gives it none. -/
theorem edited (hs : s.IsExclusive) (h : s.Edited touched t) : t.IsExclusive where
  owned := by
    intro r c v hc hv
    cases before : s.component? r with
    | none => exact .inl (h.fresh r c before hc v hv)
    | some c₀ =>
      obtain ⟨c', hc', behind, -⟩ := h.component r c₀ before
      obtain rfl := Option.some.inj (hc.symm.trans hc')
      refine (hs.owned r c₀ v before (behind ▸ hv)).imp_right ?_
      rintro ⟨q, d, rfl, hd, empty⟩
      obtain ⟨d', hd', behind', -⟩ := h.component q d hd
      exact ⟨q, d', rfl, hd', behind'.trans empty⟩
  exclusive := by
    have before {r : Ref} {c : Component} {q : Ref} (hc : t.component? r = some c)
        (hq : c.kind.behind? = some (.object q)) :
        ∃ c₀, s.component? r = some c₀ ∧ c₀.kind.behind? = some (.object q) := by
      cases there : s.component? r with
      | none => cases h.fresh r c there hc _ hq
      | some c₀ =>
        obtain ⟨c', hc', behind, -⟩ := h.component r c₀ there
        obtain rfl := Option.some.inj (hc.symm.trans hc')
        exact ⟨c₀, rfl, behind ▸ hq⟩
    intro r r' c c' q hc hc' hq hq'
    obtain ⟨c₀, hc₀, hq₀⟩ := before hc hq
    obtain ⟨c₀', hc₀', hq₀'⟩ := before hc' hq'
    exact hs.exclusive r r' c₀ c₀' q hc₀ hc₀' hq₀ hq₀'

/-- What was not there before lies behind no barcode. -/
theorem unowned (hs : s.IsExclusive) (h : s.Edited touched t) {q : Ref}
    (new : s.things.length ≤ q) {c : Component} (hc : t.component? r = some c) :
    c.kind.behind? ≠ some (.object q) := by
  intro hq
  cases before : s.component? r with
  | none => cases h.fresh r c before hc _ hq
  | some c₀ =>
    obtain ⟨c', hc', behind, -⟩ := h.component r c₀ before
    obtain rfl := Option.some.inj (hc.symm.trans hc')
    rcases hs.owned r c₀ _ before (behind ▸ hq) with nothing | ⟨p, d, same, hd, -⟩
    · cases nothing
    · cases same
      exact Nat.not_lt.2 new (lt_length_of_component? hd)

/-- A barcode gets nothing behind it, or a component that lies behind no other barcode. -/
theorem put (hs : s.IsExclusive) {c c' : Component} {v w : Value} (hc : s.component? r = some c)
    (hw : c.kind.behind? = some w) (hv : c'.kind.behind? = some v)
    (owned : v = .none ∨ ∃ q d, v = .object q ∧ s.component? q = some d ∧ d.kind.behind? = none)
    (unowned : ∀ p d q, s.component? p = some d → d.kind.behind? = some (.object q) →
      v ≠ .object q) : (s.put r (.component c')).IsExclusive := by
  have there := lt_length_of_component? hc
  have here : (s.put r (.component c')).component? r = some c' := component?_put_self there c'
  -- A component with nothing behind it is no barcode, so it stays.
  have stays {u : Value} (h : u = .none ∨ ∃ q d, u = .object q ∧ s.component? q = some d ∧
      d.kind.behind? = none) : u = .none ∨ ∃ q d, u = .object q ∧
        (s.put r (.component c')).component? q = some d ∧ d.kind.behind? = none := by
    refine h.imp_right ?_
    rintro ⟨q, d, rfl, hd, empty⟩
    refine ⟨q, d, rfl, (component?_put_of_ne ?_ _).trans hd, empty⟩
    rintro rfl
    obtain rfl := Option.some.inj (hc.symm.trans hd)
    rw [hw] at empty
    cases empty
  constructor
  case owned =>
    intro p d u hd hu
    by_cases hp : r = p
    · subst hp
      obtain rfl := Option.some.inj (here.symm.trans hd)
      obtain rfl := Option.some.inj (hv.symm.trans hu)
      exact stays owned
    · rw [component?_put_of_ne hp] at hd
      exact stays (hs.owned p d u hd hu)
  case exclusive =>
    intro p p' d d' q hd hd' hq hq'
    by_cases hp : r = p <;> by_cases hp' : r = p'
    · exact hp.symm.trans hp'
    · subst hp
      rw [component?_put_of_ne hp'] at hd'
      obtain rfl := Option.some.inj (here.symm.trans hd)
      exact absurd (Option.some.inj (hv.symm.trans hq)) (unowned p' d' q hd' hq')
    · subst hp'
      rw [component?_put_of_ne hp] at hd
      obtain rfl := Option.some.inj (here.symm.trans hd')
      exact absurd (Option.some.inj (hv.symm.trans hq')) (unowned p d q hd hq)
    · rw [component?_put_of_ne hp] at hd
      rw [component?_put_of_ne hp'] at hd'
      exact hs.exclusive p p' d d' q hd hd' hq hq'

end IsExclusive

/-- Where backgrounds are exclusive in `s`, they are in `t`. -/
structure Arranges (s t : Store) : Prop where
  quiet : s.IsQuiet → t.IsQuiet
  exclusive : s.IsExclusive → t.IsExclusive

theorem Edited.arranges (h : s.Edited touched t) : s.Arranges t :=
  ⟨h.quiet, fun hs => hs.edited h⟩

instance : IsWideFrame Arranges :=
  .of_trans (fun h k => ⟨k.quiet ∘ h.quiet, k.exclusive ∘ h.exclusive⟩) Arranges.quiet fun h =>
    (show Edited (fun _ => False) _ _ from .of_spared h).arranges

end Store

/-! ### Applying and removing a background -/

namespace Action

variable {α : Type} {around : Surroundings} {s : Store} {r : Ref}

/-- What edits components arranges them. -/
theorem Follows.arranges {touched : Ref → Prop} {x : Action α} (h : x.Edits touched around s) :
    x.Follows Store.Arranges around s :=
  h.mono fun _ => Store.Edited.arranges

/-- A background that was just made is that of the barcode for which it was made. -/
theorem arranges_applyBackground (sparing : around.IsSparing) (r : Ref)
    (color paddingX paddingY : Value) :
    (applyBackground r color paddingX paddingY).Follows Store.Arranges around s := by
  intro hs
  by_cases isBarcode : ∃ c b, s.component? r = some c ∧ c.kind = .barcode b
  case neg =>
    refine Follows.component_bind (fun c hc => ?_) hs
    split
    · exact absurd ⟨c, _, hc, ‹_›⟩ isBarcode
    · exact .throw _
  case pos =>
    obtain ⟨c, b, hc, hk⟩ := isBarcode
    obtain ⟨edited, made⟩ :=
      yields_makeBackground sparing r c b color paddingX paddingY (Nat.le_refl _) hs
    rcases applyBackground_spec sparing hs hc hk color paddingX paddingY with
      ⟨fault, -, -, ended⟩ | ⟨q, v, hq, there, -, ended⟩
    · rw [ended]
      exact edited.arranges
    · obtain ⟨new, d, hd, empty⟩ := made q hq
      rw [ended]
      refine ⟨fun _ => (edited.quiet hs).put_component there _, fun exclusive => ?_⟩
      refine (exclusive.edited edited).put there (by rw [hk]; rfl) rfl
        (.inr ⟨q, d, rfl, hd, empty⟩) fun p d' q' hd' hq' same => ?_
      cases same
      exact exclusive.unowned edited new hd' hq'

/-- A barcode is left without a background. -/
theorem arranges_removeBackground (r : Ref) :
    (Edit.modifyBarcode r fun b => { b with background := .none }).Follows Store.Arranges
      around s := by
  refine .component_bind fun c hc => ?_
  split
  · rename_i b hk
    refine .component_bind fun c' hc' _ => ⟨fun hs => hs.put_component hc' _, fun exclusive => ?_⟩
    obtain rfl := Option.some.inj (hc.symm.trans hc')
    exact exclusive.put hc' (by rw [hk]; rfl) rfl (.inl rfl) fun _ _ _ _ _ same => by cases same
  · exact .throw _

end Action

/-! ### Methods -/

/-- The methods that change what lies behind a barcode. -/
def Component.backgroundMethods : List String := ["apply_background", "remove_background"]

namespace Method

variable {around : Surroundings} {touched : Ref → Ref → Prop}

/-- A method edits at most some components, depending on the object that it is a method of. -/
def Edits (m : Method Ref) (touched : Ref → Ref → Prop) (around : Surroundings) : Prop :=
  ∀ r vs s, (m.run r vs).Edits (touched r) around s

namespace Edits

theorem query (name : String) {f : Ref → Action Value}
    (h : ∀ r s, (f r).Edits (touched r) around s) : (Method.query name f).Edits touched around :=
  fun r _ s => h r s

theorem asking (name : String) (signature : Signature) {f : Ref → Value → Action Value}
    (h : ∀ r v s, (f r v).Edits (touched r) around s) :
    (Method.asking name signature f).Edits touched around := by
  intro r vs s
  unfold Method.asking
  dsimp only
  split
  · exact h r _ s
  · exact .throw _

theorem procedure (name : String) (signature : Signature) {f : Ref → List Value → Action Unit}
    (h : ∀ r vs s, (f r vs).Edits (touched r) around s) :
    (Method.procedure name signature f).Edits touched around :=
  fun r vs s => .bind (h r vs s) fun _ _ _ => .pure _

theorem taking (name parameter : String) {f : Ref → Value → Action Unit}
    (h : ∀ r v s, (f r v).Edits (touched r) around s) :
    (Method.taking name parameter f).Edits touched around := by
  refine procedure name _ fun r vs s => ?_
  split
  · exact h r _ s
  · exact .throw _

end Edits

end Method

namespace Component

open Zpl.Action

variable {around : Surroundings}

/-- A method edits at most its component, or is one of those that change a background. Those keep
backgrounds exclusive. -/
def Adjusts (m : Method Ref) (around : Surroundings) : Prop :=
  m.Edits Eq around ∨ m.name ∈ backgroundMethods ∧
    ∀ r vs s, (m.run r vs).Follows Store.Arranges around s

section

variable (sparing : around.IsSparing)

include sparing

theorem edits_assigning (name parameter : String) (a : Attribute) :
    (assigning name parameter a).Edits Eq around :=
  .taking name parameter fun _ v _ => Edit.edits_assign sparing rfl a v

omit sparing in
theorem edits_canvasMethods : ∀ m ∈ canvasMethods, m.Edits Eq around := by
  simp only [canvasMethods, List.forall_mem_cons]
  refine ⟨.procedure _ _ fun r vs s => ?_, .query _ fun r s => ?_, .query _ fun r s => ?_, by simp⟩
  · split
    · exact Edit.edits_setLabelSize rfl _ _
    · exact .throw _
  · exact .component_bind fun _ _ => .pure _
  · exact .component_bind fun _ _ => .pure _

omit sparing in
theorem edits_layoutMethods : ∀ m ∈ layoutMethods, m.Edits Eq around := by
  simp only [layoutMethods, List.forall_mem_cons]
  refine ⟨.taking _ _ fun r v _ => Edit.edits_setAlignment rfl v,
    .taking _ _ fun r v _ => Edit.edits_setMarginLeft rfl v,
    .taking _ _ fun r v _ => Edit.edits_setMarginTop rfl v,
    .taking _ _ fun r v _ => Edit.edits_setMarginRight rfl v,
    .taking _ _ fun r v _ => Edit.edits_setMarginBottom rfl v,
    .procedure _ _ fun r vs s => ?_,
    .taking _ _ fun r v _ => Edit.edits_stackBelow rfl v, by simp⟩
  split
  · exact Edit.edits_setMargins rfl _ _ _ _
  · exact .throw _

omit sparing in
theorem edits_instructionMethods : ∀ m ∈ instructionMethods, m.Edits Eq around := by
  simp only [instructionMethods, List.forall_mem_cons]
  exact ⟨.procedure _ _ fun r _ _ => .of_regenerates (regenerates_generate r),
    .query _ fun r _ => .component_bind fun _ _ => .pure _, by simp⟩

omit sparing in
theorem edits_rawMethods : ∀ m ∈ rawMethods, m.Edits Eq around := by
  simp only [rawMethods, List.forall_mem_cons]
  exact ⟨.taking _ _ fun r v _ => Edit.edits_setInstruction rfl v, by simp⟩

theorem edits_textMethods : ∀ m ∈ textMethods, m.Edits Eq around := by
  simp only [textMethods, List.forall_mem_cons]
  exact ⟨edits_assigning sparing _ _ _, edits_assigning sparing _ _ _,
    .taking _ _ fun r v _ => .directory_bind (Edit.edits_modifyLine rfl _), by simp⟩

theorem edits_shapeMethods : ∀ m ∈ shapeMethods, m.Edits Eq around := by
  simp only [shapeMethods, List.forall_mem_cons]
  exact ⟨edits_assigning sparing _ _ _, edits_assigning sparing _ _ _,
    edits_assigning sparing _ _ _, edits_assigning sparing _ _ _,
    .procedure _ _ fun r _ _ => Edit.edits_fillBackground rfl sparing, by simp⟩

theorem edits_figureMethods (figure : Figure) : ∀ m ∈ figureMethods figure, m.Edits Eq around := by
  cases figure with
  | rectangle _ =>
    simp only [figureMethods, List.forall_mem_cons]
    exact ⟨edits_assigning sparing _ _ _, by simp⟩
  | ellipse => simp [figureMethods]
  | diagonal _ =>
    simp only [figureMethods, List.forall_mem_cons]
    exact ⟨edits_assigning sparing _ _ _, by simp⟩

theorem adjusts_barcodeMethods : ∀ m ∈ barcodeMethods, Adjusts m around := by
  have assigns (name parameter : String) (a : Attribute) :
      Adjusts (assigning name parameter a) around :=
    .inl (edits_assigning sparing name parameter a)
  have asks : Adjusts (.query "get_barcode_length" Edit.barcodeLength) around :=
    .inl (.query _ fun r _ => Edit.follows_barcodeLength r)
  simp only [barcodeMethods, List.forall_mem_cons]
  refine ⟨.inl (.taking _ _ fun _ _ _ => .directory_bind (Edit.edits_modifyBarcode rfl ?_)),
    assigns _ _ _, assigns _ _ _, assigns _ _ _,
    .inl (.taking _ _ fun _ _ _ => .directory_bind (Edit.edits_modifyBarcode rfl ?_)),
    assigns _ _ _, assigns _ _ _, asks, .inr ⟨by decide, fun r vs s => ?_⟩,
    .inr ⟨by decide, fun r _ _ => .bind (arranges_removeBackground r) fun _ _ _ => .pure _⟩,
    by simp⟩
  · exact fun _ => rfl
  · exact fun _ => rfl
  dsimp only
  split
  · exact arranges_applyBackground sparing r _ _ _
  · exact .throw _

/-- Every method of a component but two edits at most the component, and no method makes barcodes
share a background. -/
theorem adjusts_methods (c : Component) : ∀ m ∈ c.methods, Adjusts m around := by
  have own : ∀ m ∈ kindMethods c.kind, Adjusts m around := by
    cases c.kind with
    | raw _ => exact fun m hm => .inl (edits_rawMethods m hm)
    | text _ => exact fun m hm => .inl (edits_textMethods sparing m hm)
    | barcode _ => exact adjusts_barcodeMethods sparing
    | shape form =>
      exact List.forall_mem_append.2 ⟨fun m hm => .inl (edits_shapeMethods sparing m hm),
        fun m hm => .inl (edits_figureMethods sparing form.figure m hm)⟩
  simp only [methods, List.forall_mem_append]
  exact ⟨⟨⟨fun m hm => .inl (edits_canvasMethods m hm),
    fun m hm => .inl (edits_layoutMethods m hm)⟩,
    fun m hm => .inl (edits_instructionMethods m hm)⟩, own⟩

end

end Component

namespace Action

variable {around : Surroundings} {s : Store} {l : Ref}

/-- A label is changed, which is no component. -/
theorem spares_modifyLabel (l : Ref) (f : Label → Label) :
    (modifyLabel l f).Spares around s := by
  intro hs
  rw [modifyLabel, after_bind, after_label]
  split
  · rename_i lab hlab
    have there := Store.label?_eq_some_iff.1 (eq_some_of_outcome_demand hlab)
    refine .put ?_ trivial
    rw [Store.component?, there]
  · exact .refl s

/-- A component that is added to a label takes over the canvas of the label at most. -/
theorem edits_addComponent (l : Ref) (v : Value) :
    (addComponent l v).Edits (fun _ => True) around s := by
  have lists (r : Ref) (t : Store) :
      (modifyLabel l fun l => { l with components := l.components ++ [r] }).Edits
        (fun _ => True) around t :=
    .of_spares (spares_modifyLabel l _)
  have lacking (v : Value) (t : Store) : (lacksCanvas v).Edits (fun _ => True) around t := by
    refine .bind (.of_regenerates (.read _ _)) fun width _ _ => ?_
    split
    · exact .bind (.of_regenerates (.read _ _)) fun _ _ _ => .pure _
    · exact .pure _
  unfold addComponent
  split
  · exact .pure _
  · refine .look_bind (after_label l around s) (Store.IsFrame.refl s) fun lab _ =>
      .bind (lacking _ _) fun lacks t _ => ?_
    dsimp only
    split
    · refine .bind (.dispatchUnitOn _ _ (by decide) _ (fun _ => .of_regenerates (.refuseCall _ _))
        fun r _ _ => Edit.edits_setLabelSize trivial _ _) fun _ _ _ => ?_
      split
      · exact lists _ _
      · exact .pure _
    · split
      · exact lists _ _
      · exact .pure _

theorem edits_addComponents (l : Ref) (vs : List Value) :
    (addComponents l vs).Edits (fun _ => True) around s :=
  .forM fun v _ _ _ => .dispatchUnit (by decide) _ (edits_addComponent l v)

theorem regenerates_firstNamed (id : Value) (rs : List Ref) : (firstNamed id rs).Regenerates := by
  induction rs with
  | nil => exact .pure _
  | cons r rs ih =>
    refine .bind (.read _ _) fun own => .bind .get fun s => .bind (.lift _) fun agrees => ?_
    split
    · exact .pure _
    · exact ih

end Action

namespace Label

open Zpl.Action

variable {around : Surroundings}

/-- Every method of a label edits components at most. -/
theorem edits_methods : ∀ m ∈ Label.methods, m.Edits (fun _ _ => True) around := by
  have shows {α : Type} (f : Label → α) (l : Ref) (s : Store) :
      (do return f (← label l) : Action α).Edits (fun _ => True) around s :=
    .bind (.of_after (after_label l around s)) fun _ _ _ => .pure _
  simp only [Label.methods, List.forall_mem_cons]
  refine ⟨.query _ (shows (·.labelWidth)), .query _ (shows (·.labelHeight)),
    .taking _ _ fun l v _ => edits_addComponent l v, .procedure _ _ fun l vs s => ?_,
    .taking _ _ fun l v s => .bind (.directory_bind (.lift _)) fun vs _ _ => ?_,
    .asking _ _ fun l v s => .bind (.of_after (after_label l around s)) fun _ _ _ =>
      .of_regenerates (regenerates_firstNamed v _),
    .asking _ _ fun l v s => .bind ?_ fun _ _ _ => .pure _,
    .procedure _ _ fun l _ _ => .of_spares (spares_modifyLabel l _),
    .query _ fun l _ => .bind (.of_regenerates (regenerates_code l)) fun _ _ _ => .pure _,
    .query _ fun l _ => .bind (.of_regenerates (regenerates_document l)) fun _ _ _ => .pure _,
    fun _ vs s => .bind (.lift _) fun values _ _ => ?_, by simp⟩
  · split
    · exact edits_addComponents l _
    · exact .throw _
  · exact .dispatchUnit (by decide) _ (edits_addComponents l vs)
  · refine .bind (.of_after (after_label l around s)) fun lab _ _ => ?_
    split
    · split
      · exact .bind (.of_spares (spares_modifyLabel l _)) fun _ _ _ => .pure _
      · exact .pure _
    · exact .pure _
  · split
    · exact .bind (.lift _) fun _ _ _ => .bind (.of_spares (.add trivial)) fun _ _ _ => .pure _
    · exact .throw _

end Label

/-! ### Calling, assigning and making -/

namespace Action

variable {R : Store → Store → Prop} {around : Surroundings} {s : Store} {r : Ref} {x : Thing}

/-- Whatever is called on an object by a name follows what the methods of the name follow. -/
theorem follows_callNamed [Store.IsWideFrame R] (sparing : around.IsSparing)
    (hx : s.thing? r = some x) (noView : ∀ record side, x ≠ .view record side) {kind : String}
    {definer : String → Option String} {ms : List (Method Ref)}
    (hms : x.offers r = ms.map (Method.offer kind definer r)) {name : String}
    (hm : ∀ m ∈ ms, m.name = name → ∀ vs, (m.run r vs).Follows R around s) (given : Call) :
    (callNamed (.object r) name given).Follows R around s := by
  have looks : (attribute? (.object r) name).after around s = s := by
    have opened : (windowOf? _ name) around s = _ := windowOf?_eq_ok hx noView
    simp only [attribute?, after_bind, outcome_get, after_get, outcome_eq_ok opened,
      after_eq_ok opened]
    split
    · rw [after_bind, after_lift]
      split <;> rfl
    · rfl
  refine .look_bind looks (Store.IsFrame.refl s) fun found _ => ?_
  split
  · exact .of_spares (sparing _ _ s)
  · refine .get_bind ?_
    split
    · rename_i o ho
      have offered : o ∈ s.offers (.object r) := List.mem_of_find?_eq_some ho
      have named := List.find?_some ho
      simp only [Store.offers, hx, Option.map_some, Option.getD_some, hms, List.mem_map] at offered
      obtain ⟨m, hmem, rfl⟩ := offered
      refine .look_bind (after_lift _ _ _) (Store.IsFrame.refl s) fun vs _ => ?_
      exact .bind (hm m hmem (beq_iff_eq.1 named) vs) fun _ _ _ => follows_made _ _ _
    · exact .of_regenerates (.bind (.lacking _ _) fun _ => .throw _)

/-- What is attached to an object elsewhere than in the place of a method is not called. -/
theorem edits_attach {touched : Ref → Prop} {name : String} (hname : name ∉ Store.calledNames)
    (v : Value) : (attach r name v).Edits touched around s := by
  refine fun _ => ⟨fun q c hc => ⟨c, hc, rfl, .inr ⟨_, rfl⟩⟩, fun q c hn hc => ?_, fun hs => ?_,
    Nat.le_refl _⟩
  · exact absurd (hn.symm.trans hc) (by simp)
  · refine ⟨fun q n hn => ?_, hs.methods⟩
    have other : ((q, n) == (r, name)) = false := by
      rw [beq_eq_false_iff_ne]
      rintro ⟨⟩
      exact hname hn
    change List.lookup (q, n) (((r, name), v) :: s.attached) = none
    rw [List.lookup_cons, other]
    exact hs.genuine q n hn

/-- What is stored unchecked elsewhere than as a background leaves what lies behind a component. -/
theorem behind_store? {c c' : Component} {name : String} {v : Value}
    (h : c.store? name v = some c') (hname : name = "background" → c.kind.behind? = none) :
    c'.kind.behind? = c.kind.behind? := by
  unfold Component.store? at h
  split at h <;> cases h
  all_goals try rfl
  case h_7 hk => rw [hk]; rfl
  case h_8 hk => rw [hk]; rfl
  case h_9 hk => rw [hk]; rfl
  case h_10 hk =>
    have nothing := hname rfl
    rw [hk] at nothing
    cases nothing

/-- An assignment edits the component, unless it is one to the background of a barcode. -/
theorem edits_write (sparing : around.IsSparing) {c : Component} (hc : s.component? r = some c)
    {name : String} (v : Value) (hmethod : name ∉ Store.calledNames)
    (hname : name = "background" → c.kind.behind? = none) :
    (write r name v).Edits (Eq r) around s := by
  refine .look_bind (after_thing r around s) (Store.IsFrame.refl s) fun x hx => ?_
  have there : s.thing? r = some x := eq_some_of_outcome_demand hx
  obtain rfl := Option.some.inj ((Store.component?_eq_some_iff.1 hc).symm.trans there)
  split
  · exact Edit.edits_assign sparing rfl _ v
  · rename_i hstore
    obtain ⟨c', hc', rfl⟩ := Option.map_eq_some_iff.1 hstore
    exact fun _ => .put rfl hc (behind_store? hc' hname)
  · refine .directory_bind ?_
    split
    · exact edits_attach hmethod v
    · exact .throw _

/-- An assignment to a label touches no component. -/
theorem edits_write_label {lab : Label} (hl : s.label? r = some lab) {name : String} (v : Value)
    (hmethod : name ∉ Store.calledNames) :
    (write r name v).Edits (fun _ => False) around s := by
  refine .look_bind (after_thing r around s) (Store.IsFrame.refl s) fun x hx => ?_
  have there := Store.label?_eq_some_iff.1 hl
  obtain rfl := Option.some.inj (there.symm.trans (eq_some_of_outcome_demand hx))
  split
  · contradiction
  · rename_i hstore
    obtain ⟨lab', -, rfl⟩ := Option.map_eq_some_iff.1 hstore
    refine .of_spares (.put ?_ trivial)
    rw [Store.component?, there]
  · refine .directory_bind ?_
    split
    · exact edits_attach hmethod v
    · exact .throw _

/-- What is made is a component with nothing behind it, or a label. -/
theorem edits_construct (sparing : around.IsSparing) {kind : String}
    (hkind : (ingredients? kind).isSome ∨ kind = "Label") (heard : Bool) (given : Call) :
    (construct kind heard given).Edits (s.things.length ≤ ·) around s := by
  unfold construct
  split
  · rename_i parameters ingredients _
    refine .bind (.lift _) fun values t ht => ?_
    have listening : (add .handler).Edits (s.things.length ≤ ·) around t :=
      .of_spares (.add trivial)
    have making (recipe : Recipe) (u : Store) (hu : s.Edited (s.things.length ≤ ·) u) :
        (do return .object (← create recipe) : Action Value).Edits (s.things.length ≤ ·) around u :=
      .bind (yields_create sparing recipe hu.grows).follows fun _ _ _ => .pure _
    cases heard with
    | true =>
      refine .bind listening fun r u hu => .bind (.pure _) fun listener w hw => ?_
      split
      · exact making _ w ((ht.trans hu).trans hw)
      · exact .throw _
    | false =>
      refine .bind (.pure _) fun listener u hu => ?_
      split
      · exact making _ u (ht.trans hu)
      · exact .throw _
  · rename_i hnone
    obtain rfl := hkind.resolve_left (by simp [hnone])
    refine .bind (.lift _) fun values t _ => ?_
    split
    · exact .capacity_bind (.directory_bind (.bind (.lift _) fun _ _ _ =>
        .bind (.of_spares (.add trivial)) fun _ _ _ => .pure _))
    · exact .throw _

end Action

end Zpl
