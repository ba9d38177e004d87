import Zpl.Proofs.Component.Deed
import Zpl.Proofs.Component.Filling
import Zpl.Proofs.Component.Margins

/-!
# What lies behind a barcode

A barcode is given a background that is laid out by where the barcode stands, how long its bars
print and how much room it takes downwards, and that reaches further by paddings. The background is
made as an empty rectangle, and its attributes are set one after the other by the checks that all
callers go through. None of them refuses anything: the barcode keeps its sizes above zero whatever
callers do to it, a padding below zero counts for nothing, and the color is looked up beforehand.

The color is looked up twice, and in between a rectangle is made. Both times it is the same color,
even if it is asked for by an object that generates other ones to show what it says.

## Main definitions

* `Extent.padded`, `Extent.filled` — an extent that reaches further on all sides, and the rectangle
  that fills it.
* `Store.masked` — a store in which a barcode has got its background.
* `Store.Alike` — stores in which a value names the same color.

## Main results

* `Action.exists_mask` — the color of a background is known when it is asked for.
* `Store.Alike.choice?_eq` — it is the same color if it is asked for again.
* `Action.background_snapshot` — what comes of a call for a background.
-/

namespace Zpl

/-! ### Paddings -/

namespace Extent

/-- An extent that reaches further by paddings, to the left and the right and upwards and
downwards. There are no paddings below zero. -/
def padded (e : Extent) (paddingX paddingY : Int) : Extent where
  x := e.x - max 0 paddingX
  y := e.y - max 0 paddingY
  width := e.width + max 0 paddingX * 2
  height := e.height + max 0 paddingY * 2

/-- One extent lies within another one. -/
structure IsWithin (e f : Extent) : Prop where
  left : f.x ≤ e.x
  top : f.y ≤ e.y
  right : e.x + e.width ≤ f.x + f.width
  bottom : e.y + e.height ≤ f.y + f.height

variable {e : Extent} {paddingX paddingY : Int}

theorem padded_max : e.padded (max 0 paddingX) (max 0 paddingY) = e.padded paddingX paddingY := by
  simp [padded]

/-- Greater paddings take nothing away on any side. -/
theorem isWithin_padded {paddingX' paddingY' : Int} (hx : paddingX ≤ paddingX')
    (hy : paddingY ≤ paddingY') :
    (e.padded paddingX paddingY).IsWithin (e.padded paddingX' paddingY') := by
  constructor <;> simp only [padded] <;> omega

/-- The rectangle that fills an extent. -/
def filled (e : Extent) (outerWidth outerHeight : Int) (color : Color) : Component where
  x := .int e.x
  y := .int e.y
  labelWidth := .int outerWidth
  labelHeight := .int outerHeight
  kind := .shape {
    figure := .rectangle 0, width := .int e.width, height := .int e.height,
    thickness := max 1 (min e.width e.height / 2), color := color }

end Extent

theorem Measures.behind_eq (m : Measures) (x y paddingX paddingY : Int) (color : Color) :
    m.behind x y paddingX paddingY color =
      ((Extent.mk x y m.width m.height).padded paddingX paddingY).filled m.outerWidth m.outerHeight
        color := by
  rw [behind, mask, Border.thickness_filling]
  rfl

/-! ### Frames -/

namespace Store

variable {s t : Store} {touched : Ref → Prop}

/-- A component is added to two stores that differ in instructions. -/
theorem Regenerated.plus (h : s.Regenerated touched t) (c : Component) :
    (s.plus c).Regenerated (fun r => touched r ∧ r ≠ s.next) (t.plus c) := by
  have next : t.next = s.next := h.length
  refine ⟨⟨fun r => ?_, by simp [Store.plus, h.length], h.attached⟩, h.nans, h.notes⟩
  by_cases there : r < s.next
  · rw [thing?_plus_of_lt there, thing?_plus_of_lt (next ▸ there)]
    exact (h.things r).imp_right fun changed => ⟨⟨changed.1, Nat.ne_of_lt there⟩, changed.2⟩
  · left
    simp only [Store.thing?, Store.plus]
    rw [List.getElem?_append_right (Nat.not_lt.1 there),
      List.getElem?_append_right (h.length ▸ Nat.not_lt.1 there), h.length]

theorem Hushed.noting (h : s.Hushed t) {notes : List Event}
    (routine : ∀ e ∈ notes, e.isRoutine = true) : s.Hushed (t.noting notes) :=
  h.trans ⟨notes, routine, rfl⟩

end Store

/-! ### Colors -/

namespace Action

variable {around : Surroundings} {s t : Store} {v : Value} {a : Text}

/-- A value that bears a token is looked up as a color where it is assigned. -/
theorem color_of_bears (hs : s.IsGenuine) (h : s.Bears around.isStrict v a) {color : Color}
    (hchoice : choice? a = some color) : ∃ notes : List Event,
    (∀ e ∈ notes, e.isRoutine = true) ∧
      Judgement.color s.reader v around s = .ok (.accepted color) (s.noting notes) := by
  obtain ⟨notes, routine, looked⟩ := h.token_eq hs
  rw [token_apply] at looked
  refine ⟨notes, routine, bind_eq looked ?_⟩
  rw [hchoice]
  rfl

/-- The color of a background is known when it is asked for, and it is the same color when it is
assigned to a component that was made meanwhile. -/
theorem exists_mask (hs : s.IsGenuine) (h : (token v).outcome around s = .ok a) : ∃ mask t,
    maskColor v around s = .ok mask t ∧ s.Regenerated (Generable v) t ∧ s.Hushed t ∧
      ∀ c, ∃ notes : List Event, (∀ e ∈ notes, e.isRoutine = true) ∧
        Judgement.color (t.plus c).reader mask around (t.plus c) =
          .ok (.accepted ((choice? a).getD .white)) ((t.plus c).noting notes) := by
  have kept := regenerated_token hs h
  have hushed := (spells_token v).hushed around s hs
  have looked := eq_ok_of_outcome h
  generalize (token v).after around s = t at kept hushed looked
  cases hchoice : choice? (α := Color) a with
  | none =>
    refine ⟨.text (Zpl.token Color.white), t, bind_eq looked (by rw [hchoice]; rfl), kept, hushed,
      fun c => ⟨[], by simp, ?_⟩⟩
    rw [Judgement.color_token, Store.noting_nil]
    rfl
  | some color =>
    refine ⟨v, t, bind_eq looked (by rw [hchoice]; rfl), kept, hushed, fun c => ?_⟩
    rcases (Store.token_cases hs h).2 with bears | ⟨-, nameless, -⟩
    · obtain ⟨notes, -, same⟩ := bears.token_eq hs
      obtain rfl : t = s.noting notes := after_eq_ok looked ▸ after_eq_ok same
      have genuine : ((s.noting notes).plus c).IsGenuine := hs.congr rfl
      refine color_of_bears genuine (bears.mono fun r x hx => ?_) hchoice
      exact (Store.thing?_plus_of_lt (List.getElem?_eq_some_iff.1 hx).1 c).trans hx
    · rw [hchoice] at nameless
      cases nameless

end Action

/-! ### Backgrounds -/

namespace Store

variable {s t : Store} {r : Ref} {comp : Component} {k : Kind} {behind : Component}
  {touched : Ref → Prop}

/-- A store in which a component is of another kind, and which has one component more. -/
def masked (s : Store) (r : Ref) (comp : Component) (k : Kind) (behind : Component) : Store :=
  (s.put r (.component { comp with kind := k })).plus behind

theorem next_masked : (s.put r (.component { comp with kind := k })).next = s.next :=
  length_put s r _

theorem component?_masked_next : (s.masked r comp k behind).component? s.next = some behind := by
  have same : (s.put r (.component { comp with kind := k })).next = s.next := next_masked
  rw [masked, ← same]
  exact component?_plus _ _

theorem component?_masked_self (hc : s.component? r = some comp) :
    (s.masked r comp k behind).component? r = some { comp with kind := k } :=
  component?_plus_of_some (component?_put_self (lt_length_of_component? hc) _) behind

theorem thing?_masked_of_ne {q : Ref} (hr : r ≠ q) (hq : q ≠ s.next) :
    (s.masked r comp k behind).thing? q = s.thing? q := by
  rcases Nat.lt_or_gt_of_ne hq with h | h
  · rw [masked, thing?_plus_of_lt (by rw [next_masked]; exact h), thing?_put_of_ne hr]
  · have old : s.thing? q = none := List.getElem?_eq_none (Nat.le_of_lt h)
    have new : (s.masked r comp k behind).thing? q = none := by
      refine List.getElem?_eq_none ?_
      simp only [masked, plus, List.length_append, length_put, List.length_singleton]
      exact h
    rw [old, new]

/-- The same is done in two stores that differ in instructions. -/
theorem Regenerated.masked (h : s.Regenerated touched t) (hc : s.component? r = some comp)
    (hraw : k.isRaw = comp.kind.isRaw) (behind : Component) : ∃ now,
    t.component? r = some now ∧ now.kind = comp.kind ∧
      (s.masked r comp k behind).Regenerated (fun q => touched q ∧ q ≠ s.next)
        (t.masked r now k behind) := by
  obtain ⟨v, hv, put⟩ := h.put hc
  have both := (put { comp with kind := k } hraw rfl).plus behind
  rw [next_masked] at both
  exact ⟨_, hv, rfl, both⟩

end Store

/-! ### The same color again -/

namespace Store

/-- A place holds the same in two stores, as far as what a value bears depends on it. -/
structure AlikeAt (v : Value) (s t : Store) (q : Ref) : Prop where
  label : t.label? q = s.label? q
  ready : ∀ u, t.HasReady q u ↔ s.HasReady q u
  self : v = .object q →
    (t.component? q).map (·.instruction) = (s.component? q).map (·.instruction)

/-- What a value bears depends on the same in two stores. -/
def Alike (v : Value) (s t : Store) : Prop := ∀ q, AlikeAt v s t q

variable {v : Value} {s t u : Store} {q r : Ref}

namespace AlikeAt

theorem of_thing? (h : t.thing? q = s.thing? q) : AlikeAt v s t q := by
  have same : t.component? q = s.component? q := by simp only [Store.component?, h]
  exact ⟨by simp only [Store.label?, h], fun u => by rw [HasReady, same, HasReady], fun _ => by
    rw [same]⟩

/-- A component that is not ready-made takes the place of another one, or of nothing. -/
theorem of_component {c : Component} (hs : ∀ x, s.thing? q = some x →
      ∃ d, x = .component d ∧ d.kind.isRaw = false)
    (hc : t.component? q = some c) (hraw : c.kind.isRaw = false)
    (self : v = .object q → (s.component? q).map (·.instruction) = some c.instruction) :
    AlikeAt v s t q where
  label := by
    rw [component?_eq_some_iff] at hc
    simp only [Store.label?, hc]
    cases hx : s.thing? q with
    | none => rfl
    | some x =>
      obtain ⟨d, rfl, -⟩ := hs x hx
      rfl
  ready u := by
    constructor
    · rintro ⟨d, hd, raw, -⟩
      obtain rfl := Option.some.inj (hc.symm.trans hd)
      simp [hraw] at raw
    · rintro ⟨d, hd, raw, -⟩
      obtain ⟨e, he, raw'⟩ := hs _ (component?_eq_some_iff.1 hd)
      cases he
      simp [raw'] at raw
  self h := by rw [hc, Option.map_some, self h]

end AlikeAt

theorem Alike.symm (h : Alike v s t) : Alike v t s := fun q =>
  ⟨(h q).label.symm, fun u => ((h q).ready u).symm, fun hv => ((h q).self hv).symm⟩

theorem Alike.trans (h : Alike v s t) (k : Alike v t u) : Alike v s u := fun q =>
  ⟨(k q).label.trans (h q).label, fun w => ((k q).ready w).trans ((h q).ready w),
    fun hv => ((k q).self hv).trans ((h q).self hv)⟩

theorem Alike.bears (h : Alike v s t) {isStrict : Bool} {a : Text} (bears : s.Bears isStrict v a) :
    t.Bears isStrict v a := by
  refine bears.transfer (fun q l hl => (h q).label.trans hl) (fun q w hw => ((h q).ready w).2 hw) ?_
  intro q c hv hc
  have same := (h q).self hv
  rwa [hc, Option.map_some, Option.map_eq_some_iff] at same

/-- A value names the same color wherever it bears the same. -/
theorem Alike.choice?_eq (h : Alike v s t) (hs : s.IsGenuine) (ht : t.IsGenuine) {a a' : Text}
    {around around' : Surroundings} (ha : (Action.token v).outcome around s = .ok a)
    (ha' : (Action.token v).outcome around' t = .ok a')
    (heard : around.isStrict = around'.isStrict) :
    choice? (α := Color) a' = choice? a := by
  have bears {s : Store} (hs : s.IsGenuine) {a b : Text} {around : Surroundings}
      (hb : s.Bears around.isStrict v b) (ha : (Action.token v).outcome around s = .ok a) :
      a = b := by
    obtain ⟨notes, -, same⟩ := hb.token_eq hs
    rw [Action.outcome_eq_ok same] at ha
    exact (Except.ok.inj ha).symm
  rcases (token_cases hs ha).2 with hb | ⟨-, nameless, -⟩
  · rw [bears ht (heard ▸ h.bears hb) ha']
  · rcases (token_cases ht ha').2 with hb | ⟨-, nameless', -⟩
    · rw [bears hs (heard ▸ h.symm.bears hb) ha]
    · rw [nameless, nameless']

/-- What may be generated to show a value says nothing of it. -/
theorem Regenerated.alike {touched : Ref → Prop} (h : s.Regenerated touched t)
    (self : ∀ q, v = .object q → ¬ touched q) : Alike v s t := by
  intro q
  rcases h.things q with same | ⟨hq, c, w, hc, hraw, hc'⟩
  · exact .of_thing? same
  · refine .of_component (fun x hx => ⟨c, ?_, hraw⟩) (component?_eq_some_iff.2 hc') hraw
      fun hv => absurd hq (self q hv)
    exact Option.some.inj (hx.symm.trans hc)

/-- A background is nothing that a value could show, and neither is a barcode. -/
theorem alike_masked {comp behind : Component} {k : Kind} (hc : s.component? r = some comp)
    (hcomp : comp.kind.isRaw = false) (hk : k.isRaw = false) (hbehind : behind.kind.isRaw = false)
    (self : v ≠ .object s.next) : Alike v s (s.masked r comp k behind) := by
  intro q
  by_cases hr : r = q
  · subst hr
    refine .of_component (fun x hx => ⟨comp, ?_, hcomp⟩) (component?_masked_self hc) hk
      fun _ => by rw [hc]; rfl
    exact Option.some.inj (hx.symm.trans (component?_eq_some_iff.1 hc))
  by_cases hq : q = s.next
  · subst hq
    refine .of_component (fun x hx => ?_) component?_masked_next hbehind fun hv => absurd hv self
    exact absurd (List.getElem?_eq_some_iff.1 hx).1 (Nat.lt_irrefl _)
  · exact .of_thing? (thing?_masked_of_ne hr hq)

end Store

namespace Action

variable {s : Store} {r : Ref} {comp : Component} {b : Barcode} {m : Measures} {x y : Int}
  {color : Value} {a : Text} {given : Call} {paddingX paddingY : Int}

/-- A call for a background in whole numbers makes one, and warns nobody. Besides, the barcode gets
to know its background, and other instructions may be generated on the way. -/
theorem exists_attempt_background (hs : s.IsGenuine) (hc : s.component? r = some comp)
    (bars : comp.HasBars b m) (sound : comp.kind.IsSound) (hx : comp.x = .int x)
    (hy : comp.y = .int y) (unattached : s.attached.lookup (r, "apply_background") = none)
    (hbind : backgroundSignature.bind given = .ok [color, .int paddingX, .int paddingY])
    (c : Circumstances) (ha : ((token color).attempt c s).1 = .ok a) : ∃ t,
    (call (.object r) "apply_background" given).attempt c s = (.ok (.object s.next), t) ∧
      (s.masked r comp (.barcode { b with background := .object s.next })
        (m.behind x y paddingX paddingY ((choice? a).getD .white))).Regenerated
          (fun q => Generable color q ∧ q ≠ s.next) t ∧ s.Hushed t := by
  rw [attempt_eq] at ha
  have looked : (token color).outcome (.inside c s) s = .ok a :=
    (outcome_congr
      ((spells_token color).same (.inside c s) (.within c s.depth) s rfl hs)).trans ha
  obtain ⟨mask, u, masked, kept, hushed, accepted⟩ := exists_mask hs looked
  have raw : (Kind.barcode { b with background := .object s.next }).isRaw = comp.kind.isRaw := by
    rw [bars.kind]
    rfl
  obtain ⟨now, there, same, both⟩ :=
    kept.masked hc raw (m.behind x y paddingX paddingY ((choice? a).getD .white))
  obtain ⟨notes, routine, applied⟩ := applyBackground_eq_of_mask bars sound hx hy masked
    (kept.isGenuine hs) accepted hc there same paddingX paddingY
  have next : u.next = s.next := kept.length
  rw [next] at applied
  have handed := bind_eq (f := made) applied rfl
  refine ⟨_, ?_, both.trans (.noting _ routine), ?_⟩
  · rw [attempt_background hc bars.kind unattached hbind c, outcome_eq_ok handed,
      after_eq_ok handed]
    rfl
  · exact hushed.trans ⟨notes, routine, rfl⟩

end Action

/-- Whatever callers do, methods stay in their places and what is checked stays sound. -/
theorem Store.IsReachableBy.isSound_kind {s : Store} {allowed : Store → Deed → Store → Prop}
    (h : s.IsReachableBy allowed) :
    s.IsGenuine ∧ ∀ r c, s.component? r = some c → c.kind.IsSound := by
  have holds : (Discipline.free 0 False).Holds s :=
    Discipline.holds_of_isReachableBy (Discipline.laws_free (by decide) False)
      (fun s _ _ _ => Discipline.allows_free s (fun v _ => v.isThick_zero) False.elim) h
  exact ⟨holds.quiet.genuine, fun r c hc => (holds.fits r c hc).kind.sound⟩

namespace Action

/-- What is made for a barcode is there when the call is over. -/
theorem component?_of_masked {s t : Store} {r : Ref} {comp behind : Component} {k : Kind}
    {touched : Ref → Prop} (h : (s.masked r comp k behind).Regenerated
      (fun q => touched q ∧ q ≠ s.next) t) : t.component? s.next = some behind := by
  obtain ⟨v, hv, same⟩ := h.toReprinted.component? Store.component?_masked_next
  rw [hv, same (.inr fun touched => touched.2 rfl)]

/-- Whatever callers did, all methods are in their places and what is checked is sound. There, a
barcode of a text in a whole place gets a background that fills the room of the barcode and the
paddings, on the canvas of the barcode in whole numbers, in the color that was asked for if there is
such a color, and in white otherwise. Nobody is warned. Nothing else happens, but that instructions
may have to be generated to show what was asked for.

If the same is asked for again, there comes the same background of it. Paddings below zero count for
nothing, and greater ones take nothing away on any side. -/
theorem background_snapshot (c : Circumstances) :
    (∀ s : Store, s.IsReachableBy (fun _ _ _ => True) →
      s.IsGenuine ∧ ∀ r comp, s.component? r = some comp → comp.kind.IsSound) ∧
    ∀ (s : Store) (r : Ref) (comp : Component) (b : Barcode) (data : Text)
      (x y outerWidth outerHeight : Int) (color : Value) (a : Text) (given : Call)
      (paddingX paddingY : Int), s.IsGenuine → s.component? r = some comp → comp.kind.IsSound →
      comp.kind = .barcode b → b.data = .text data → comp.x = .int x → comp.y = .int y →
      comp.labelWidth.toInt = .ok outerWidth → comp.labelHeight.toInt = .ok outerHeight →
      s.attached.lookup (r, "apply_background") = none →
      ((token color).attempt c s).1 = .ok a →
      backgroundSignature.bind given = .ok [color, .int paddingX, .int paddingY] →
      let box : Extent := { x := x, y := y, width := b.lengthOf data, height := b.footprint }
      let room := box.padded paddingX paddingY
      let behind := room.filled outerWidth outerHeight ((choice? a).getD .white)
      let called := (call (.object r) "apply_background" given).attempt c s
      called.1 = .ok (.object s.next) ∧ called.2.component? s.next = some behind ∧
      s.Hushed called.2 ∧
      (s.masked r comp (.barcode { b with background := .object s.next }) behind).Regenerated
        (fun q => Generable color q ∧ q ≠ s.next) called.2 ∧
      (∀ c' a', ((token color).attempt c' called.2).1 = .ok a' →
        let again := (call (.object r) "apply_background" given).attempt c' called.2
        again.1 = .ok (.object called.2.next) ∧
          again.2.component? called.2.next = some behind) ∧
      room = box.padded (max 0 paddingX) (max 0 paddingY) ∧
      ∀ paddingX' paddingY', paddingX ≤ paddingX' → paddingY ≤ paddingY' →
        room.IsWithin (box.padded paddingX' paddingY') := by
  refine ⟨fun s reached => reached.isSound_kind, ?_⟩
  intro s r comp b data x y outerWidth outerHeight color a given paddingX paddingY genuine hc sound
    hk hdata hx hy hwidth hheight unattached ha hbind box room behind called
  let m : Measures := ⟨outerWidth, outerHeight, b.lengthOf data, b.footprint⟩
  have bars : comp.HasBars b m := ⟨hk, hwidth, hheight, ⟨data, hdata, rfl⟩, rfl⟩
  obtain ⟨t, applied, kept, hushed⟩ :=
    exists_attempt_background genuine hc bars sound hx hy unattached hbind c ha
  rw [m.behind_eq] at kept
  have made : called = (.ok (.object s.next), t) := applied
  rw [made]
  refine ⟨rfl, component?_of_masked kept, hushed, kept, fun c' a' ha' => ?_, Extent.padded_max.symm,
    fun paddingX' paddingY' => Extent.isWithin_padded⟩
  -- The barcode stands where it stood, and has a background now.
  obtain ⟨v, there, -⟩ := kept.component? (Store.component?_masked_self hc)
  have bars' : Component.HasBars
      { comp with instruction := v, kind := .barcode { b with background := .object s.next } }
      { b with background := .object s.next } m :=
    ⟨rfl, hwidth, hheight, ⟨data, hdata, rfl⟩, rfl⟩
  rw [hk] at sound
  have genuine' : t.IsGenuine := kept.isGenuine (genuine.congr rfl)
  obtain ⟨t', applied', kept', -⟩ := exists_attempt_background genuine' there bars' sound hx hy
    ((congrArg _ kept.attached).trans unattached) hbind c' ha'
  have same : choice? (α := Color) a' = choice? a := by
    rw [attempt_eq] at ha ha'
    have old : color ≠ .object s.next := fun isNew => by
      obtain ⟨x, hx⟩ := (Store.token_cases genuine ha).1 _ isNew
      exact Nat.lt_irrefl _ (List.getElem?_eq_some_iff.1 hx).1
    have alike : Store.Alike color s t :=
      (Store.alike_masked hc (by rw [hk]; rfl) rfl rfl old).trans
        (kept.alike fun q isSelf generable => generable.1.2 isSelf)
    exact alike.choice?_eq genuine genuine' ha ha' rfl
  rw [m.behind_eq, same] at kept'
  intro again
  have made' : again = (.ok (.object t.next), t') := applied'
  rw [made']
  exact ⟨rfl, component?_of_masked kept'⟩

/-- The color of a background is asked for by a ready-made instruction, and one of the paddings is
below zero. -/
theorem background_snapshot_ready :
    let black : Component := { instruction := .text " b ", kind := .raw 0 }
    let bars : Component := {
      x := .int 30, y := .int 40, labelWidth := .int 400, labelHeight := .int 300,
      kind := .barcode { data := "A1", moduleWidth := 2 } }
    let s : Store := { things := [.component black, .component bars] }
    let masked := (call (.object 1) "apply_background"
      { inRow := [.object 0, .int (-5), .int 10] }).attempt {} s
    masked.1 = .ok (.object 2) ∧ masked.2.component? 2 = some {
      x := .int 30, y := .int 30, labelWidth := .int 400, labelHeight := .int 300,
      kind := .shape {
        figure := .rectangle 0, width := 112, height := 80, thickness := 40,
        color := .black } } := by
  intro black bars s masked
  have start : Store.IsReachableBy (fun _ _ _ => True) {} :=
    .start (fun _ _ _ => rfl) (by simp [Store.thing?])
  have first : Store.IsReachableBy (fun _ _ _ => True) { things := [.component black] } :=
    .deed (d := .construct "RawInstruction" false { inRow := [" b "] }) start {} rfl trivial
  have reached : Store.IsReachableBy (fun _ _ _ => True) s :=
    .deed (d := .construct "Barcode" false { named := [("data", "A1"), ("x", .int 30),
      ("y", .int 40), ("label_width", .int 400), ("label_height", .int 300),
      ("module_width", .int 2)] }) first {} rfl trivial
  have there : s.component? 1 = some bars := rfl
  obtain ⟨checked, makes⟩ := background_snapshot {}
  obtain ⟨genuine, sound⟩ := checked s reached
  obtain ⟨made, here, -⟩ := makes s 1 bars _ "A1" 30 40 400 300 (.object 0) "B"
    { inRow := [.object 0, .int (-5), .int 10] } (-5) 10 genuine there (sound 1 bars there) rfl rfl
    rfl rfl rfl rfl rfl rfl rfl
  exact ⟨made, here⟩

/-- The canvas of a barcode need not be whole, but that of its background is. -/
theorem background_snapshot_fractional :
    let bars : Component := {
      labelWidth := .float (.finite false 5 (-1)), kind := .barcode { data := "A1" } }
    let s : Store := { things := [.component bars] }
    let masked :=
      (call (.object 0) "apply_background" { inRow := ["W", .int 0, .int 0] }).attempt {} s
    s.IsReachableBy (fun _ _ _ => True) ∧ masked.1 = .ok (.object 1) ∧
      ∃ behind, masked.2.component? 1 = some behind ∧ behind.labelWidth = .int 2 ∧
        behind.labelWidth ≠ bars.labelWidth := by
  intro bars s masked
  have start : Store.IsReachableBy (fun _ _ _ => True) {} :=
    .start (fun _ _ _ => rfl) (by simp [Store.thing?])
  have first : Store.IsReachableBy (fun _ _ _ => True)
      { things := [.component { kind := .barcode { data := "A1" } }] } :=
    .deed (d := .construct "Barcode" false { named := [("data", "A1")] }) start {} rfl trivial
  have reached : s.IsReachableBy (fun _ _ _ => True) :=
    .deed (d := .write 0 "label_width" (.float (.finite false 5 (-1)))) first {}
      ⟨rfl, by decide⟩ trivial
  have extent : bars.HasBars { data := "A1" }
      { outerWidth := 2, outerHeight := 0, width := 168, height := 60 } :=
    ⟨rfl, rfl, rfl, ⟨_, rfl, rfl⟩, rfl⟩
  have there : s.component? 0 = some bars := rfl
  obtain ⟨genuine, sound⟩ := reached.isSound_kind
  have white : ((token "W").attempt {} s).1 = .ok "W" := rfl
  have bound : backgroundSignature.bind { inRow := ["W", .int 0, .int 0] } =
      .ok ["W", .int 0, .int 0] := rfl
  obtain ⟨t, made, kept, -⟩ := exists_attempt_background genuine there extent (sound 0 bars there)
    rfl rfl rfl bound {} white
  simp only [masked, made]
  refine ⟨reached, rfl, _, component?_of_masked kept, rfl, fun same => ?_⟩
  cases same

end Action

end Zpl
