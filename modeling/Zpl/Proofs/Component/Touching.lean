import Zpl.Proofs.Calling
import Zpl.Proofs.Component.Sparing
import Zpl.Proofs.Component.Validity

/-!
# What edits touch

An edit is carried out on one component. Values are computed and printed on the way, which spares
the components, and then the result is stored in that one component. The other components stay as
they are, apart from their instructions, and no edit but two changes what lies behind a barcode.

## Main definitions

* `Store.IsWideFrame` — a relation that allows for all that spares the components.
* `Store.Edited` — some components are edited, and barcodes keep what lies behind them.
* `Action.Edits` — an action that edits at most some components.

## Main results

* `Kind.assign?_behind` — what an assignment accepts has the same behind it.
* `Edit.edits_setMargins`, `Edit.edits_setAlignment`, `Edit.edits_fillBackground` — some edits.
-/

namespace Zpl

/-! ### Relations that allow for what spares components -/

namespace Store

variable {R : Store → Store → Prop}

/-- A relation in which a store stands to each one in which the components were spared. -/
class IsWideFrame (R : Store → Store → Prop) : Prop extends IsOpenFrame R where
  of_spared {s t : Store} : s.Spared t → R s t

/-- Sparing the components covers all else that is asked of a relation. -/
theorem IsWideFrame.of_trans (trans : ∀ {s t u}, R s t → R t u → R s u)
    (quiet : ∀ {s t}, R s t → s.IsQuiet → t.IsQuiet) (of_spared : ∀ {s t}, s.Spared t → R s t) :
    IsWideFrame R where
  refl s := of_spared (.refl s)
  trans := trans
  quiet := quiet
  of_things ht ha := of_spared (.of_things ht ha)
  add hx := of_spared (.add hx)
  of_spared := of_spared

end Store

namespace Action.Follows

variable {α β : Type} {R : Store → Store → Prop} [wide : Store.IsWideFrame R]
  {around : Surroundings} {s : Store}

include wide

/-- What spares the components follows a relation that allows for it. -/
theorem of_spares {x : Action α} (h : x.Spares around s) : x.Follows R around s :=
  fun hs => wide.of_spared (h hs)

theorem of_regenerates {x : Action α} (h : x.Regenerates) : x.Follows R around s :=
  of_spares (.of_regenerates h)

/-- Whatever is done with a verdict, of which something is known if it accepts. -/
theorem judged {judgement : Action (Verdict α)} {P : α → Prop} {f : Verdict α → Action β}
    (h : judgement.Judges P)
    (hf : ∀ verdict t, R s t → (∀ a, verdict = .accepted a → P a) →
      (f verdict).Follows R around t) : (judgement >>= f).Follows R around s :=
  .yields_bind (P := fun verdict _ => ∀ a, verdict = .accepted a → P a)
    ((of_regenerates h.regenerates).yields fun _ hverdict _ a ha =>
      h.accepts around s a (ha ▸ hverdict)) hf

end Action.Follows

/-! ### Components that are edited -/

/-- What lies behind a barcode; other kinds have no such thing. -/
def Kind.behind? : Kind → Option Value
  | .barcode b => some b.background
  | _ => none

namespace Store

variable {edited : Ref → Prop} {s t u : Store} {r : Ref}

/-- A component in the place of another one is nothing that is called later. -/
theorem IsQuiet.put_component (hs : s.IsQuiet) {c : Component} (hc : s.component? r = some c)
    (c' : Component) : (s.put r (.component c')).IsQuiet := by
  refine ⟨hs.genuine.congr rfl, fun q m hm => ?_⟩
  by_cases hq : r = q
  · subst hq
    simp [thing?_put_self (lt_length_of_component? hc)] at hm
  · rw [thing?_put_of_ne hq] at hm
    exact hs.methods q m hm

/-- Components of `s` are edited: the others stay as they are, apart from their instructions, and
none gets anything else behind it. There may be more components, with nothing behind them. -/
structure Edited (edited : Ref → Prop) (s t : Store) : Prop where
  component : ∀ r c, s.component? r = some c → ∃ c', t.component? r = some c' ∧
    c'.kind.behind? = c.kind.behind? ∧ (edited r ∨ ∃ v, c' = { c with instruction := v })
  fresh : ∀ r c, s.component? r = none → t.component? r = some c →
    ∀ v, c.kind.behind? = some v → v = .none
  quiet : s.IsQuiet → t.IsQuiet
  grows : s.things.length ≤ t.things.length

namespace Edited

theorem of_spared (h : s.Spared t) : s.Edited edited t where
  component := by
    intro r c hc
    obtain ⟨v, hc'⟩ := h.component? hc
    exact ⟨_, hc', rfl, .inr ⟨v, rfl⟩⟩
  fresh := by
    intro r c hn hc
    rw [h.component?_eq_none hn] at hc
    cases hc
  quiet := h.isQuiet
  grows := h.grows

theorem trans (h : s.Edited edited t) (k : t.Edited edited u) : s.Edited edited u where
  component := by
    intro r c hc
    obtain ⟨c', hc', behind, kept⟩ := h.component r c hc
    obtain ⟨c'', hc'', behind', kept'⟩ := k.component r c' hc'
    refine ⟨c'', hc'', behind'.trans behind, ?_⟩
    rcases kept with hr | ⟨v, rfl⟩
    · exact .inl hr
    · rcases kept' with hr | ⟨v', rfl⟩
      · exact .inl hr
      · exact .inr ⟨v', rfl⟩
  fresh := by
    intro r c hn hc v hv
    cases ht : t.component? r with
    | none => exact k.fresh r c ht hc v hv
    | some c' =>
      obtain ⟨c'', hc'', behind, -⟩ := k.component r c' ht
      obtain rfl := Option.some.inj (hc.symm.trans hc'')
      exact h.fresh r c' hn ht v (behind ▸ hv)
  quiet hs := k.quiet (h.quiet hs)
  grows := Nat.le_trans h.grows k.grows

instance : IsWideFrame (Edited edited) := .of_trans trans quiet of_spared

/-- A component is replaced by one that has the same behind it. -/
theorem put (hr : edited r) {c c' : Component} (hc : s.component? r = some c)
    (behind : c'.kind.behind? = c.kind.behind?) : s.Edited edited (s.put r (.component c')) := by
  have there := lt_length_of_component? hc
  constructor
  case component =>
    intro q d hd
    by_cases hq : r = q
    · subst hq
      obtain rfl := Option.some.inj (hc.symm.trans hd)
      exact ⟨c', component?_put_self there c', behind, .inl hr⟩
    · exact ⟨d, (component?_put_of_ne hq _).trans hd, rfl, .inr ⟨d.instruction, rfl⟩⟩
  case fresh =>
    intro q d hn hd
    have hq : r ≠ q := by
      rintro rfl
      rw [hc] at hn
      cases hn
    rw [component?_put_of_ne hq, hn] at hd
    cases hd
  case quiet => exact fun hs => hs.put_component hc c'
  case grows => simp [Store.put]

/-- A component is added that has nothing behind it. -/
theorem add {c : Component} (hc : ∀ v, c.kind.behind? = some v → v = .none) :
    s.Edited edited { s with things := s.things ++ [.component c] } where
  component := by
    intro q d hd
    have there : (s.things ++ [Thing.component c])[q]? = s.things[q]? :=
      List.getElem?_append_left (lt_length_of_component? hd)
    refine ⟨d, ?_, rfl, .inr ⟨d.instruction, rfl⟩⟩
    exact component?_eq_some_iff.2 (there.trans (component?_eq_some_iff.1 hd))
  fresh := by
    intro q d hn hd
    rcases thing?_of_add (component?_eq_some_iff.1 hd) with hd | hd
    · rw [component?_eq_some_iff.2 hd] at hn
      cases hn
    · cases hd
      exact hc
  quiet := by
    intro hs
    refine ⟨hs.genuine.congr rfl, fun q m hm => ?_⟩
    rcases thing?_of_add hm with hm | hm
    · exact hs.methods q m hm
    · cases hm
  grows := by simp

end Edited

end Store

/-! ### Assignments -/

section

open Zpl.Action Judgement

variable {sc : Scribe Action} {a : Attribute} {v : Value}

/-- Whatever is accepted for a part is put into something of which `Q` holds. -/
theorem Action.Judges.of_regenerates {α β : Type} {Q : β → Prop} {f : α → β}
    {judgement : Action (Verdict α)} (h : judgement.Regenerates) (hf : ∀ a, Q (f a)) :
    (Verdict.map f <$> judgement).Judges Q :=
  Judges.map (P := fun _ => True) ⟨h, fun _ _ _ _ => trivial⟩ fun a _ => hf a

theorem TextLine.assign?_regenerates (hsc : sc.Regenerates) {line : TextLine}
    {judgement : Action (Verdict TextLine)} (h : line.assign? sc v a = some judgement) :
    judgement.Regenerates := by
  suffices judged : judgement.Judges fun _ => True from judged.regenerates
  cases a <;> cases h
  case content => exact (content_judges hsc v).map fun _ _ => trivial
  case fontSize => exact (dots_judges hsc _ v).map fun _ _ => trivial

theorem Shape.assign?_regenerates (hsc : sc.Regenerates) {form : Shape}
    {judgement : Action (Verdict Shape)} (h : form.assign? sc v a = some judgement) :
    judgement.Regenerates := by
  suffices judged : judgement.Judges fun _ => True from judged.regenerates
  obtain ⟨figure, width, height, thickness, color⟩ := form
  cases a <;> cases figure <;> cases h
  all_goals
    first
    | exact (dots_judges hsc _ v).map fun _ _ => trivial
    | exact (thickness_judges hsc v).map fun _ _ => trivial
    | exact (color_judges hsc v).map fun _ _ => trivial
    | exact (cornerRadius_judges hsc v).map fun _ _ => trivial
    | exact (slant_judges hsc v).map fun _ _ => trivial

theorem Barcode.assign?_behind (hsc : sc.Regenerates) {b : Barcode}
    {judgement : Action (Verdict Barcode)} (h : b.assign? sc v a = some judgement) :
    judgement.Judges fun b' => b'.background = b.background := by
  cases a <;> cases h
  case moduleWidth => exact (positiveDots_judges hsc _ v).map fun _ _ => rfl
  case barHeight => exact (positiveDots_judges hsc _ v).map fun _ _ => rfl
  case placement => exact (placement_judges hsc v).map fun _ _ => rfl
  case mode => exact (mode_judges hsc v).map fun _ _ => rfl
  case orientation => exact (orientation_judges hsc v).map fun _ _ => rfl

/-- Whatever is assigned to a kind, what is accepted has the same behind it. -/
theorem Kind.assign?_behind (hsc : sc.Regenerates) {k : Kind} {judgement : Action (Verdict Kind)}
    (h : k.assign? sc a v = some judgement) :
    judgement.Judges fun k' => k'.behind? = k.behind? := by
  cases k with
  | raw size =>
    cases a <;> cases h
    exact (rawSize_judges v).map fun _ _ => rfl
  | text line =>
    obtain ⟨_, hassign, h⟩ := Option.bind_eq_some_iff.1 h
    cases h
    exact .of_regenerates (line.assign?_regenerates hsc hassign) fun _ => rfl
  | barcode b =>
    obtain ⟨_, hassign, h⟩ := Option.bind_eq_some_iff.1 h
    cases h
    exact (b.assign?_behind hsc hassign).map fun _ => congrArg some
  | shape form =>
    obtain ⟨_, hassign, h⟩ := Option.bind_eq_some_iff.1 h
    cases h
    exact .of_regenerates (form.assign?_regenerates hsc hassign) fun _ => rfl

end

/-! ### Edits -/

namespace Action

variable {α β : Type} {edited edited' : Ref → Prop} {around : Surroundings} {s : Store} {r : Ref}

/-- An action that edits at most some components of a quiet store, whether it fails or not. -/
abbrev Edits (x : Action α) (edited : Ref → Prop) (around : Surroundings) (s : Store) : Prop :=
  x.Follows (Store.Edited edited) around s

end Action

namespace Edit

open Zpl.Action

variable {edited : Ref → Prop} {around : Surroundings} {s : Store} {r : Ref}

/-- A component is changed to one that has the same behind it. -/
theorem edits_modify (hr : edited r) {f : Component → Component}
    (hf : ∀ c, s.component? r = some c → (f c).kind.behind? = c.kind.behind?) :
    (modifyComponent r f).Edits edited around s :=
  .component_bind fun c hc _ => .put hr hc (hf c hc)

/-- A component that was looked at before becomes one that has the same behind it. -/
theorem edits_setKind (hr : edited r) {t : Store} {c : Component} {k : Kind}
    (hc : s.component? r = some c) (ht : s.Edited edited t) (hk : k.behind? = c.kind.behind?) :
    (modifyComponent r fun c => { c with kind := k }).Edits edited around t := by
  refine edits_modify hr fun c' hc' => ?_
  obtain ⟨d, hd, behind, -⟩ := ht.component r c hc
  obtain rfl := Option.some.inj (hc'.symm.trans hd)
  exact hk.trans behind.symm

theorem edits_setX (hr : edited r) (x : Value) :
    (modifyComponent r fun c => { c with x := x }).Edits edited around s :=
  edits_modify hr fun _ _ => rfl

theorem edits_setY (hr : edited r) (y : Value) :
    (modifyComponent r fun c => { c with y := y }).Edits edited around s :=
  edits_modify hr fun _ _ => rfl

/-- An assignment stores what its check lets through. -/
theorem edits_assign (sparing : around.IsSparing) (hr : edited r) (a : Attribute) (v : Value) :
    (assign r a v).Edits edited around s := by
  refine .component_bind fun c hc => .scribe_bind fun sc hsc => ?_
  split
  · exact .throw _
  · rename_i judgement hjudgement
    refine .judged (Kind.assign?_behind hsc hjudgement) fun verdict t ht accepts => ?_
    cases verdict with
    | accepted kind => exact edits_setKind hr hc ht (accepts kind rfl)
    | ignored => exact .pure _
    | rejected message => exact .of_spares (spares_warn sparing r message)

section

variable (hr : edited r)

include hr

theorem edits_setLabelSize (width height : Value) :
    (setLabelSize r width height).Edits edited around s :=
  .bind (.lift _) fun _ _ _ => .bind (edits_modify hr fun _ _ => rfl) fun _ _ _ =>
    .bind (.lift _) fun _ _ _ => edits_modify hr fun _ _ => rfl

/-! #### Margins -/

theorem edits_setMarginLeft (margin : Value) : (setMarginLeft r margin).Edits edited around s :=
  .component_bind fun _ _ => .bind (.of_spares (spares_addInto _ _)) fun _ _ _ => edits_setX hr _

theorem edits_setMarginTop (margin : Value) : (setMarginTop r margin).Edits edited around s :=
  .component_bind fun _ _ => .bind (.of_spares (spares_addInto _ _)) fun _ _ _ => edits_setY hr _

theorem edits_moveLeft (margin : Value) : (moveLeft r margin).Edits edited around s :=
  .component_bind fun _ _ => .bind (.of_spares (spares_subInto _ _)) fun _ _ _ => edits_setX hr _

theorem edits_moveUp (margin : Value) : (moveUp r margin).Edits edited around s :=
  .component_bind fun _ _ => .bind (.of_spares (spares_subInto _ _)) fun _ _ _ => edits_setY hr _

/-- A shape has nothing behind it before and after a margin takes from a side. -/
theorem edits_narrowShape {c : Component} {form : Shape} (hc : s.component? r = some c)
    (hk : c.kind = .shape form) (margin : Value) :
    (narrowShape r form margin).Edits edited around s :=
  .bind (.of_spares (spares_reduced _ _)) fun _ _ ht => edits_setKind hr hc ht (by rw [hk]; rfl)

theorem edits_lowerShape {c : Component} {form : Shape} (hc : s.component? r = some c)
    (hk : c.kind = .shape form) (margin : Value) :
    (lowerShape r form margin).Edits edited around s :=
  .bind (.of_spares (spares_reduced _ _)) fun _ _ ht => edits_setKind hr hc ht (by rw [hk]; rfl)

theorem edits_setMarginRight (margin : Value) :
    (setMarginRight r margin).Edits edited around s := by
  refine .component_bind fun c hc => ?_
  split
  · rename_i form hk
    split
    · exact edits_moveLeft hr margin
    · exact edits_narrowShape hr hc hk margin
  · exact edits_moveLeft hr margin
  · exact .component_bind fun _ _ => .bind (.of_spares (spares_subInto _ _)) fun _ _ _ =>
      edits_modify hr fun _ _ => rfl

theorem edits_setMarginBottom (margin : Value) :
    (setMarginBottom r margin).Edits edited around s := by
  refine .component_bind fun c hc => ?_
  split
  · rename_i form hk
    split
    · exact edits_moveUp hr margin
    · exact edits_lowerShape hr hc hk margin
  · exact edits_moveUp hr margin
  · exact .component_bind fun _ _ => .bind (.of_spares (spares_subInto _ _)) fun _ _ _ =>
      edits_modify hr fun _ _ => rfl

theorem edits_applyLeft (margin : Value) : (applyLeft r margin).Edits edited around s :=
  .dispatchUnit (by decide) _ (edits_setMarginLeft hr margin)

theorem edits_applyTop (margin : Value) : (applyTop r margin).Edits edited around s :=
  .dispatchUnit (by decide) _ (edits_setMarginTop hr margin)

theorem edits_applyRight (margin : Value) : (applyRight r margin).Edits edited around s :=
  .dispatchUnit (by decide) _ (edits_setMarginRight hr margin)

theorem edits_applyBottom (margin : Value) : (applyBottom r margin).Edits edited around s :=
  .dispatchUnit (by decide) _ (edits_setMarginBottom hr margin)

theorem edits_setFourMargins (left top right bottom : Value) :
    (setFourMargins r left top right bottom).Edits edited around s :=
  .bind (follows_add _ _) fun _ _ _ =>
    .bind (edits_applyBottom hr _) fun _ _ _ =>
      .bind (follows_add _ _) fun _ _ _ =>
        .bind (edits_applyRight hr _) fun _ _ _ =>
          .bind (edits_applyLeft hr left) fun _ _ _ => edits_applyTop hr top

theorem edits_setSingleMargin (margin : Value) :
    (setSingleMargin r margin).Edits edited around s := by
  refine .component_bind fun c _ => ?_
  split
  · exact .dispatchUnit (by decide) _ (edits_setFourMargins hr _ _ _ _)
  · exact .bind (edits_applyLeft hr margin) fun _ _ _ =>
      .bind (edits_applyTop hr margin) fun _ _ _ =>
        .bind (follows_twice _) fun _ _ _ =>
          .bind (edits_applyRight hr _) fun _ _ _ =>
            .bind (follows_twice _) fun _ _ _ => edits_applyBottom hr _

theorem edits_setMargins (left top right bottom : Value) :
    (setMargins r left top right bottom).Edits edited around s := by
  unfold setMargins
  split
  · exact edits_setSingleMargin hr left
  · exact .throw _
  · exact .throw _
  · exact .throw _
  · exact edits_setFourMargins hr left top right bottom

/-! #### Alignment -/

theorem edits_recordAlignment (a : Alignment) : (recordAlignment r a).Edits edited around s :=
  edits_modify hr fun _ _ => rfl

theorem edits_alignShape (form : Shape) (v : Value) :
    (alignShape r form v).Edits edited around s := by
  refine .component_bind fun c _ => .bind (.of_spares (spares_alignmentOf v)) fun _ _ _ => ?_
  split
  · exact .bind (edits_setX hr _) fun _ _ _ => edits_recordAlignment hr _
  · exact .bind (follows_centeringGap _ _) fun _ _ _ =>
      .bind (edits_setX hr _) fun _ _ _ => edits_recordAlignment hr _
  · exact .bind (follows_sub _ _) fun _ _ _ =>
      .bind (edits_setX hr _) fun _ _ _ => edits_recordAlignment hr _
  · exact .bind (edits_modify hr fun _ _ => rfl) fun _ _ _ =>
      .bind (edits_moveUp hr _) fun _ _ _ => edits_recordAlignment hr _
  · exact .of_spares (spares_ignoreAlignment _ _ _ _)

theorem edits_alignBarcode (b : Barcode) (v : Value) :
    (alignBarcode r b v).Edits edited around s := by
  refine .component_bind fun c _ => .bind (.of_spares (spares_alignmentOf v)) fun _ _ _ => ?_
  split
  · exact .bind (edits_setX hr _) fun _ _ _ => edits_recordAlignment hr _
  · exact .bind (follows_printedLength r) fun _ _ _ =>
      .bind (follows_centeringGap _ _) fun _ _ _ =>
        .bind (edits_setX hr _) fun _ _ _ => edits_recordAlignment hr _
  · split
    · exact .bind (follows_printedLength r) fun _ _ _ =>
        .bind (follows_sub _ _) fun _ _ _ =>
          .bind (edits_setX hr _) fun _ _ _ => edits_recordAlignment hr _
    · exact .pure _
  · split
    · exact .bind (follows_sub _ _) fun _ _ _ =>
        .bind (edits_setY hr _) fun _ _ _ => edits_recordAlignment hr _
    · exact .pure _
  · exact .of_spares (spares_ignoreAlignment _ _ _ _)

theorem edits_setAlignment (v : Value) : (setAlignment r v).Edits edited around s := by
  refine .component_bind fun c _ => ?_
  split
  · exact edits_alignShape hr _ v
  · exact edits_alignBarcode hr _ v
  · refine .bind (.of_spares (spares_alignmentOf v)) fun _ _ _ => ?_
    split
    · exact .of_spares (spares_ignoreAlignment _ _ _ _)
    · exact .of_spares (spares_ignoreAlignment _ _ _ _)
    · exact edits_recordAlignment hr _
  · refine .bind (.of_spares (spares_alignmentOf v)) fun _ _ _ => ?_
    split
    · exact .of_spares (spares_ignoreAlignment _ _ _ _)
    · exact edits_recordAlignment hr _

/-! #### Stacking and filling -/

theorem edits_stackBelow (other : Value) : (stackBelow r other).Edits edited around s := by
  unfold stackBelow
  split
  · exact .pure _
  · exact .bind (.of_regenerates (.read _ _)) fun _ _ _ =>
      .bind (.of_regenerates (.read _ _)) fun _ _ _ =>
        .bind (follows_add _ _) fun _ _ _ => .component_bind fun _ _ =>
          .bind (.of_spares (spares_addInto _ _)) fun _ _ _ => edits_setY hr _

theorem edits_fillBackground (sparing : around.IsSparing) :
    (fillBackground r).Edits edited around s := by
  refine .component_bind fun _ _ => ?_
  split
  · exact .bind (.lift _) fun _ _ _ => edits_assign sparing hr _ _
  · exact .throw _

theorem edits_setInstruction (v : Value) : (setInstruction r v).Edits edited around s := by
  refine .directory_bind (.component_bind fun _ _ => ?_)
  split
  · exact edits_modify hr fun _ _ => rfl
  · exact .throw _

/-- A barcode changes, but not in what lies behind it. -/
theorem edits_modifyBarcode {f : Barcode → Barcode} (hf : ∀ b, (f b).background = b.background) :
    (modifyBarcode r f).Edits edited around s := by
  refine .component_bind fun c hc => ?_
  split
  · rename_i b hk
    refine edits_modify hr fun c' hc' => ?_
    obtain rfl := Option.some.inj (hc.symm.trans hc')
    rw [hk]
    exact congrArg some (hf b)
  · exact .throw _

theorem edits_modifyLine (f : TextLine → TextLine) : (modifyLine r f).Edits edited around s := by
  refine .component_bind fun c hc => ?_
  split
  · rename_i line hk
    refine edits_modify hr fun c' hc' => ?_
    obtain rfl := Option.some.inj (hc.symm.trans hc')
    rw [hk]
    rfl
  · exact .throw _

end

end Edit

end Zpl
