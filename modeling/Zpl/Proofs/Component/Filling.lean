import Mathlib.Algebra.Group.Int.Even
import Zpl.Proofs.Component.Placing
import Zpl.Proofs.Component.Shade
import Zpl.Proofs.Component.Validity
import Zpl.Proofs.Value.Plain

/-!
# Filling

A shape is painted solid by nothing but its border, which is made as thick as half the shorter side.
Half a side is rounded down, though: where the shorter side is odd the borders from opposite sides
miss each other by a dot, unless that dot is all that there is. So what is filled is solid or open
along a line of one dot, and which of these it is only depends on the shorter side. The same goes
for the rectangle that lies behind a barcode, whose sides are those of the barcode and its paddings.

## Main definitions

* `Border`, `Border.IsSolid` — a border along the sides of a box, and one that leaves no dot out.
* `Measures.behind` — the rectangle that lies behind a barcode.

## Main results

* `Border.isSolid_iff`, `Border.isSolid_filling_iff` — which borders leave no dot out.
* `Action.attempt_fillBackground` — what comes of filling a shape.
* `Action.makeBackground_eq`, `applyBackground_eq` — a barcode gets a background.
* `Action.filling_borders` — how far the borders get that are made in these two ways.
-/

namespace Zpl

/-! ### Borders -/

/-- A border that lines a box on the inside. -/
structure Border where
  width : Int
  height : Int
  thickness : Int
  deriving DecidableEq, Repr

namespace Border

/-- A dot is painted if it is close enough to a side of the box. -/
def Paints (b : Border) (column row : Int) : Prop :=
  column < b.thickness ∨ b.width - b.thickness ≤ column ∨
    row < b.thickness ∨ b.height - b.thickness ≤ row

/-- All dots of the box are painted. -/
def IsSolid (b : Border) : Prop :=
  ∀ column row, 0 ≤ column → column < b.width → 0 ≤ row → row < b.height → b.Paints column row

/-- The border that fills a shape of some size. -/
def filling (width height : Int) : Border :=
  { width := width, height := height, thickness := Edit.fillingBorder width height }

/-- The shorter side of the box. -/
def shorter (b : Border) : Int := min b.width b.height

/-- A border leaves no dot out as soon as it meets the one from the opposite side. -/
theorem isSolid_iff {b : Border} (h : 0 ≤ b.thickness) :
    b.IsSolid ↔ b.shorter ≤ 2 * b.thickness := by
  rw [shorter]
  constructor
  · intro solid
    by_contra apart
    -- The dot next to the borders on the left and at the top is further from those opposite.
    have painted := solid b.thickness b.thickness h (by omega) h (by omega)
    rw [Paints] at painted
    omega
  · intro meet column row _ _ _ _
    rw [Paints]
    omega

section

variable {width height : Int}

theorem shorter_filling : (filling width height).shorter = min width height := rfl

theorem thickness_filling : (filling width height).thickness = max 1 (min width height / 2) := by
  rw [← Int.fdiv_eq_ediv_of_nonneg _ (by decide)]
  rfl

/-- Borders that fill a shape miss each other by a dot at most. -/
theorem shorter_filling_le (width height : Int) :
    (filling width height).shorter ≤ 2 * (filling width height).thickness + 1 := by
  rw [thickness_filling, shorter_filling]
  omega

/-- A shape is filled all over unless its shorter side is odd and more than a dot. -/
theorem isSolid_filling_iff (hwidth : 0 ≤ width) (hheight : 0 ≤ height) :
    (filling width height).IsSolid ↔ Even (min width height) ∨ min width height = 1 := by
  have thick : 0 ≤ (filling width height).thickness := by
    rw [thickness_filling]
    omega
  rw [isSolid_iff thick, thickness_filling, shorter_filling, Int.even_iff]
  omega

end

end Border

/-! ### Filling a shape -/

namespace Action

variable {s : Store} {r : Ref} {comp : Component} {form : Shape}

/-- What comes of a call that fills a shape. -/
theorem attempt_fillBackground (hc : s.component? r = some comp) (hk : comp.kind = .shape form)
    {width height : Int} (hwidth : form.width = .int width) (hheight : form.height = .int height)
    (h : 0 ≤ min width height) (unattached : s.attached.lookup (r, "fill_background") = none)
    {given : Call} (hbind : Signature.bind {} given = .ok []) (c : Circumstances) :
    (call (.object r) "fill_background" given).attempt c s = (.ok .none, s.put r (.component
      { comp with
        kind := .shape { form with thickness := (Border.filling width height).thickness } })) := by
  obtain ⟨m, offered, signature, run⟩ : ∃ m : Method Ref,
      comp.methods.find? (·.name == "fill_background") = some m ∧ m.signature = {} ∧
        m.run r [] = (do Edit.fillBackground r; return .none) := by
    rw [Component.methods, hk]
    exact ⟨_, rfl, rfl, rfl⟩
  exact attempt_altering hc unattached offered (signature ▸ hbind) c run
    (Edit.alters_fillBackground (Store.lt_length_of_component? hc) hk hwidth hheight h)

end Action

/-! ### Backgrounds -/

/-- The border of the rectangle that lies behind a barcode and reaches as far as its paddings. There
are no paddings below zero. -/
def Measures.mask (m : Measures) (paddingX paddingY : Int) : Border :=
  .filling (m.width + max 0 paddingX * 2) (m.height + max 0 paddingY * 2)

/-- The rectangle that lies behind a barcode that stands at a position. -/
def Measures.behind (m : Measures) (x y paddingX paddingY : Int) (color : Color) : Component :=
  let border := m.mask paddingX paddingY
  { x := .int (x - max 0 paddingX)
    y := .int (y - max 0 paddingY)
    labelWidth := .int m.outerWidth
    labelHeight := .int m.outerHeight
    kind := .shape {
      figure := .rectangle 0, width := .int border.width, height := .int border.height,
      thickness := border.thickness, color := color } }

namespace Component

/-- A barcode of a text, with what a background behind it is laid out by. The canvas of a background
is that of the barcode as a whole number, which need not be whole itself. -/
structure HasBars (c : Component) (b : Barcode) (m : Measures) : Prop where
  kind : c.kind = .barcode b
  outerWidth : c.labelWidth.toInt = .ok m.outerWidth
  outerHeight : c.labelHeight.toInt = .ok m.outerHeight
  length : ∃ data, b.data = .text data ∧ b.lengthOf data = m.width
  footprint : b.footprint = m.height

variable {comp : Component} {b : Barcode} {m : Measures}

theorem HasMeasures.hasBars (hm : comp.HasMeasures m) (hk : comp.kind = .barcode b) :
    comp.HasBars b m := by
  rw [HasMeasures, hk] at hm
  obtain ⟨outerWidth, outerHeight, length, footprint⟩ := hm
  exact ⟨hk, by rw [outerWidth, Value.toInt_int], by rw [outerHeight, Value.toInt_int], length,
    footprint⟩

/-- No barcode has a size below zero. -/
theorem HasBars.nonneg (h : comp.HasBars b m) (sound : comp.kind.IsSound) :
    0 ≤ m.width ∧ 0 ≤ m.height := by
  obtain ⟨data, -, hlength⟩ := h.length
  rw [h.kind] at sound
  obtain ⟨hmodule, hbars, -⟩ := sound
  constructor
  · rw [← hlength, Barcode.lengthOf]
    split
    · have modules : (0 : Int) ≤ symbolModules data.length := by
        simp only [symbolModules, overheadModules, modulesPerSymbol]
        omega
      exact Int.mul_nonneg modules (by omega)
    · exact Int.le_refl 0
  · rw [← h.footprint, Barcode.footprint, textBelowDots]
    split <;> omega

end Component

theorem Store.plus_noting (s : Store) (notes : List Event) (c : Component) :
    (s.noting notes).plus c = (s.plus c).noting notes := rfl

/-- What is made of the result of an action. -/
theorem Action.map_eq_ok {α β : Type} {x : Action α} {a : α} {around : Surroundings} {s t : Store}
    (hx : x around s = .ok a t) (f : α → β) : (f <$> x) around s = .ok (f a) t := by
  rw [map_eq_pure_bind]
  exact bind_eq hx rfl

namespace Edit

open Zpl.Action

variable {around : Surroundings} {s : Store} {c : Component}

/-- An empty rectangle is what making one starts from. -/
theorem turns_emptyRectangle (hk : c.kind = .shape { figure := .rectangle 0 }) :
    ((Ingredients.rectangle (.int 0) (.int 0) (.int 1) (.text (token Color.black))
      (.int 0)).assignments.forM fun (a, v) => assign s.next a v).Turns around s c c := by
  cases c
  cases hk
  refine .bind (turns_assign_width rfl (by decide)) ?_
  refine .bind (turns_assign_height rfl (by decide)) ?_
  refine .bind (turns_assign_thickness rfl (by decide)) ?_
  refine .bind (turns_assign_color rfl .black) ?_
  refine .bind (turns_assign_cornerRadius rfl rfl (by decide) (by decide)) ?_
  rfl

/-- A shape gets the color that a value is looked up as, whatever is noted meanwhile. -/
theorem assign_color_eq {form : Shape} (hk : c.kind = .shape form) {v : Value} {color : Color}
    {notes : List Event} (accepted : Judgement.color (s.plus c).reader v around (s.plus c) =
      .ok (.accepted color) ((s.plus c).noting notes)) :
    assign s.next .color v around (s.plus c) =
      .ok () ((s.plus { c with kind := .shape { form with color := color } }).noting notes) := by
  refine bind_eq (component_eq_ok (Store.component?_plus s c) around) ?_
  refine bind_eq (scribe_eq_ok around _) ?_
  have noted : ((s.plus c).noting notes).component? s.next = some c := Store.component?_plus s c
  rw [hk]
  refine bind_eq (a := .accepted (.shape { form with color := color }))
    (t := (s.plus c).noting notes) ?_ ?_
  · exact map_eq_ok (map_eq_ok accepted _) _
  · refine (modifyComponent_eq_ok noted _ around).trans ?_
    rw [Store.put_noting, Store.put_plus]

end Edit

namespace Action

open Zpl.Edit

theorem padding_int (n : Int) : padding (.int n) = .ok (.int (max 0 n)) := by
  simp only [padding, Value.toNumber_int, bind, Except.bind, Number.isPositive_int, pure,
    Except.pure]
  by_cases hn : 0 < n
  · simp [hn, Int.max_eq_right (Int.le_of_lt hn)]
  · simp [hn, Int.max_eq_left (Int.not_lt.1 hn)]

theorem grown_int (size paddingSize : Int) (around : Surroundings) (s : Store) :
    grown (.int size) (.int paddingSize) around s = .ok (.int (size + paddingSize * 2)) s := rfl

/-- A color that is no object is known beforehand. -/
theorem maskColor_eq {color : Value} (hcolor : color.IsPlain) {t : Text}
    (ht : color.token .plain = .ok t) : ∃ v,
    (∀ around s, maskColor color around s = .ok v s) ∧
      ∀ sc, Judgement.color sc v = (pure (.accepted ((choice? t).getD .white)) :
        Action (Verdict Color)) := by
  have known (around : Surroundings) (s : Store) : token color around s = .ok t s := by
    rw [token_eq hcolor, ht]
    rfl
  cases hchoice : choice? (α := Color) t with
  | none =>
    refine ⟨.text (Zpl.token Color.white), fun around s => bind_eq (known around s) ?_,
      fun sc => Judgement.color_token .white⟩
    rw [hchoice]
    rfl
  | some chosen =>
    refine ⟨color, fun around s => bind_eq (known around s) ?_, fun sc => ?_⟩
    · rw [hchoice]
      rfl
    · have known : (liftM (Except.ok t : Except Fault Text) : Action Text) = pure t := rfl
      rw [Judgement.color, Value.token_eq sc hcolor, ht, known, pure_bind, hchoice]
      rfl

/-- The signature of what applies a background. -/
def backgroundSignature : Signature := .required ["color", "padding_x", "padding_y"]

/-- What comes of a call for a background is what comes of making one. -/
theorem attempt_background {s : Store} {r : Ref} {comp : Component} {b : Barcode}
    (hc : s.component? r = some comp) (hk : comp.kind = .barcode b)
    (unattached : s.attached.lookup (r, "apply_background") = none) {given : Call}
    {color paddingX paddingY : Value}
    (hbind : backgroundSignature.bind given = .ok [color, paddingX, paddingY]) (c : Circumstances) :
    let applying := applyBackground r color paddingX paddingY >>= made
    (call (.object r) "apply_background" given).attempt c s =
      (applying.outcome (.inside c s) s, applying.after (.inside c s) s) := by
  obtain ⟨m, offered, signature, run⟩ : ∃ m : Method Ref,
      comp.methods.find? (·.name == "apply_background") = some m ∧
        m.signature = backgroundSignature ∧
        m.run r [color, paddingX, paddingY] = applyBackground r color paddingX paddingY := by
    rw [Component.methods, hk]
    exact ⟨_, rfl, rfl, rfl⟩
  intro applying
  rw [attempt_component hc unattached offered (signature ▸ hbind) c, run]

section

variable {s t : Store} {r : Ref} {comp : Component} {b : Barcode} {m : Measures} {x y : Int}
  {color mask : Value} {shade : Color} {noted : List Event → Prop} {around : Surroundings}
  (bars : comp.HasBars b m) (sound : comp.kind.IsSound) (hx : comp.x = .int x)
  (hy : comp.y = .int y) (masked : maskColor color around s = .ok mask t) (ht : t.IsGenuine)
  (accepted : ∀ c, ∃ notes, noted notes ∧ Judgement.color (t.plus c).reader mask around (t.plus c) =
    .ok (.accepted shade) ((t.plus c).noting notes))

include bars sound hx hy masked ht accepted

/-- The background of a barcode is a snapshot of it. The color may be looked up twice, and looking
it up may be noted. -/
theorem makeBackground_eq {now : Component} (there : t.component? r = some now)
    (same : now.kind = comp.kind) (paddingX paddingY : Int) : ∃ notes, noted notes ∧
      makeBackground r comp b color (.int paddingX) (.int paddingY) around s = .ok t.next
        ((t.plus (m.behind x y paddingX paddingY shade)).noting notes) := by
  obtain ⟨hwidth, hheight⟩ := bars.nonneg sound
  obtain ⟨data, hdata, hlength⟩ := bars.length
  have shorter : 0 ≤ min (m.width + max 0 paddingX * 2) (m.height + max 0 paddingY * 2) := by
    omega
  have blank : (emptyRectangle comp).blank t.directory = .ok {
      labelWidth := .int m.outerWidth, labelHeight := .int m.outerHeight
      kind := .shape { figure := .rectangle 0 } } := by
    simp only [Recipe.blank, emptyRectangle, bars.outerWidth, bars.outerHeight]
    rfl
  obtain ⟨notes, hnotes, colored⟩ := accepted {
    x := .int (x - max 0 paddingX), y := .int (y - max 0 paddingY),
    labelWidth := .int m.outerWidth, labelHeight := .int m.outerHeight,
    kind := .shape {
      figure := .rectangle 0, width := .int (m.width + max 0 paddingX * 2),
      height := .int (m.height + max 0 paddingY * 2) } }
  refine ⟨notes, hnotes, ?_⟩
  refine bind_eq (a := .int (max 0 paddingX)) (by rw [padding_int]; rfl) ?_
  refine bind_eq (a := .int (max 0 paddingY)) (by rw [padding_int]; rfl) ?_
  refine bind_eq masked ?_
  refine bind_eq (create_eq_ok blank (turns_emptyRectangle rfl)) ?_
  have still (c : Component) := Store.component?_plus_of_some there c
  refine bind_eq (printedLength_text (ht.plus _) (still _) (same.trans bars.kind) hdata around) ?_
  rw [hlength, bars.footprint, hx, hy]
  refine bind_eq (grown_int _ _ _ _) ?_
  refine bind_eq (turns_assign_width rfl (by omega)) ?_
  refine bind_eq (grown_int _ _ _ _) ?_
  refine bind_eq (turns_assign_height rfl (by omega)) ?_
  refine bind_eq (sub_int _ _ _ _) ?_
  refine bind_eq (Turns.modifyComponent _) ?_
  refine bind_eq (sub_int _ _ _ _) ?_
  refine bind_eq (Turns.modifyComponent _) ?_
  refine bind_eq (assign_color_eq rfl colored) ?_
  rw [← Store.plus_noting, ← Store.plus_noting]
  exact bind_eq (turns_fillBackground (s := t.noting notes) rfl rfl rfl shorter) rfl

/-- A barcode is given its background. -/
theorem applyBackground_eq_of_mask (hc : s.component? r = some comp) {now : Component}
    (there : t.component? r = some now) (same : now.kind = comp.kind) (paddingX paddingY : Int) :
    ∃ notes, noted notes ∧
      applyBackground r color (.int paddingX) (.int paddingY) around s = .ok (.object t.next)
        (((t.put r (.component { now with
          kind := .barcode { b with background := .object t.next } })).plus
            (m.behind x y paddingX paddingY shade)).noting notes) := by
  obtain ⟨notes, hnotes, made⟩ :=
    makeBackground_eq bars sound hx hy masked ht accepted there same paddingX paddingY
  refine ⟨notes, hnotes, bind_eq (component_eq_ok hc around) ?_⟩
  rw [bars.kind]
  refine bind_eq made ?_
  have still : ((t.plus (m.behind x y paddingX paddingY shade)).noting notes).component? r =
      some now := Store.component?_plus_of_some there _
  refine bind_eq (modifyBarcode_eq_ok still (same.trans bars.kind) _ around) ?_
  rw [Store.put_noting, Store.put_plus_of_lt (Store.lt_length_of_component? there)]
  rfl

end

section

variable {s : Store} {r : Ref} {comp : Component} {b : Barcode} {m : Measures} {x y : Int}
  (hs : s.IsGenuine) (hc : s.component? r = some comp) (hk : comp.kind = .barcode b)
  (sound : comp.kind.IsSound) (hm : comp.HasMeasures m) (hx : comp.x = .int x)
  (hy : comp.y = .int y) {color : Value} (hcolor : color.IsPlain) {t : Text}
  (ht : color.token .plain = .ok t)

include hs hc hk sound hm hx hy hcolor ht

/-- A barcode is given a background of a color that is no object. -/
theorem applyBackground_eq (paddingX paddingY : Int) (around : Surroundings) :
    applyBackground r color (.int paddingX) (.int paddingY) around s = .ok (.object s.next)
      ((s.put r (.component { comp with
        kind := .barcode { b with background := .object s.next } })).plus
          (m.behind x y paddingX paddingY ((choice? t).getD .white))) := by
  obtain ⟨mask, masked, known⟩ := maskColor_eq hcolor ht
  have accepted (c : Component) : ∃ notes, notes = [] ∧
      Judgement.color (s.plus c).reader mask around (s.plus c) =
        .ok (.accepted ((choice? t).getD .white)) ((s.plus c).noting notes) := by
    refine ⟨[], rfl, ?_⟩
    rw [known, Store.noting_nil]
    rfl
  obtain ⟨notes, rfl, applied⟩ := applyBackground_eq_of_mask (hm.hasBars hk) sound hx hy
    (masked around s) hs accepted hc hc rfl paddingX paddingY
  rwa [Store.noting_nil] at applied

/-- What comes of a call for a background in whole numbers. -/
theorem attempt_background_eq (unattached : s.attached.lookup (r, "apply_background") = none)
    {given : Call} {paddingX paddingY : Int}
    (hbind : backgroundSignature.bind given = .ok [color, .int paddingX, .int paddingY])
    (c : Circumstances) :
    (call (.object r) "apply_background" given).attempt c s =
      (.ok (.object s.next), (s.put r (.component { comp with
        kind := .barcode { b with background := .object s.next } })).plus
          (m.behind x y paddingX paddingY ((choice? t).getD .white))) := by
  have applied :=
    applyBackground_eq hs hc hk sound hm hx hy hcolor ht paddingX paddingY (.inside c s)
  have handed := bind_eq (f := made) applied rfl
  rw [attempt_background hc hk unattached hbind c, outcome_eq_ok handed, after_eq_ok handed]

end

/-- A shape that is filled gets a border of half its shorter side, whatever border it had, and
nothing else happens. Likewise a barcode gets a rectangle behind it, which it hands over, and which
is filled.

The borders from opposite sides of what is filled miss each other by a dot at most. They leave no
dot out if the shorter side is even or one dot, and they do leave a line out if it is odd and three
dots or more. -/
theorem filling_borders (c : Circumstances) :
    (∀ s r comp form width height given, s.component? r = some comp → comp.kind = .shape form →
      form.width = .int width → form.height = .int height → 0 ≤ width → 0 ≤ height →
      s.attached.lookup (r, "fill_background") = none → Signature.bind {} given = .ok [] →
      let border := Border.filling width height
      (call (.object r) "fill_background" given).attempt c s =
        (.ok .none, s.put r (.component { comp with
          kind := .shape { form with thickness := border.thickness } })) ∧
      min width height ≤ 2 * border.thickness + 1 ∧
      (min width height ≤ 2 * border.thickness ↔
        Even (min width height) ∨ min width height = 1)) ∧
    ∀ s r comp b m x y color t paddingX paddingY given, s.IsGenuine → s.component? r = some comp →
      comp.kind = .barcode b → comp.kind.IsSound → comp.HasMeasures m → comp.x = .int x →
      comp.y = .int y → color.IsPlain → color.token .plain = .ok t →
      s.attached.lookup (r, "apply_background") = none →
      backgroundSignature.bind given = .ok [color, .int paddingX, .int paddingY] →
      let border := m.mask paddingX paddingY
      (call (.object r) "apply_background" given).attempt c s =
        (.ok (.object s.next),
          (s.put r (.component { comp with
            kind := .barcode { b with background := .object s.next } })).plus
              (m.behind x y paddingX paddingY ((choice? t).getD .white))) ∧
      border.shorter ≤ 2 * border.thickness + 1 ∧
      (border.IsSolid ↔ Even border.shorter ∨ border.shorter = 1) := by
  refine ⟨?_, ?_⟩
  · intro s r comp form width height given hc hk hwidth hheight positiveWidth positiveHeight
      unattached hbind border
    have thick : 0 ≤ border.thickness := by
      simp only [border, Border.thickness_filling]
      omega
    refine ⟨?_, Border.shorter_filling_le width height, ?_⟩
    · exact attempt_fillBackground hc hk hwidth hheight (by omega) unattached hbind c
    · rw [← Border.isSolid_filling_iff positiveWidth positiveHeight, Border.isSolid_iff thick]
      rfl
  · intro s r comp b m x y color t paddingX paddingY given hs hc hk sound hm hx hy hcolor ht
      unattached hbind border
    obtain ⟨hwidth, hheight⟩ := (hm.hasBars hk).nonneg sound
    refine ⟨?_, Border.shorter_filling_le _ _, Border.isSolid_filling_iff (by omega) (by omega)⟩
    exact attempt_background_eq hs hc hk sound hm hx hy hcolor ht unattached hbind c

/-- A disc of twelve dots is filled all over, and so is the rectangle behind a barcode of an even
height. -/
theorem filling_borders_even :
    let disc : Component := {
      kind := .shape { figure := .ellipse, width := 12, height := 20, thickness := 7 } }
    let bars : Component := { kind := .barcode { data := "A1", moduleWidth := 2, barHeight := 60 } }
    let s : Store := { things := [.component disc, .component bars] }
    let filled := ((call (.object 0) "fill_background" {}).attempt {} s).2
    let masked := ((call (.object 1) "apply_background" { inRow := ["W", 10, 5] }).attempt {} s).2
    filled.component? 0 = some { disc with
      kind := .shape { figure := .ellipse, width := 12, height := 20, thickness := 6 } } ∧
    masked.component? 2 = some { x := .int (-10), y := .int (-5), kind := .shape {
      figure := .rectangle 0, width := 132, height := 70, thickness := 35, color := .white } } ∧
    (Border.mk 132 70 35).IsSolid := by
  intro disc bars s filled masked
  obtain ⟨fills, applies⟩ := filling_borders {}
  obtain ⟨called, -, -⟩ :=
    fills s 0 disc _ 12 20 {} rfl rfl rfl rfl (by decide) (by decide) rfl rfl
  obtain ⟨made, -, solid⟩ := applies s 1 bars _ ⟨0, 0, 112, 60⟩ 0 0 "W" "W" 10 5
    { inRow := ["W", 10, 5] } (fun _ _ _ => rfl) rfl rfl ⟨by decide, by decide, rfl⟩
    ⟨rfl, rfl, ⟨_, rfl, rfl⟩, rfl⟩ rfl rfl trivial rfl rfl rfl
  refine ⟨?_, ?_, solid.2 (.inl (by decide))⟩
  · simp only [filled, called]
    rfl
  · simp only [masked, made]
    rfl

/-- A rectangle of five lines is filled by a border of two dots, and the rectangle behind a barcode
of sixty-one lines by one of thirty. The line in the middle is left out. -/
theorem filling_borders_odd :
    let plate : Component := {
      kind := .shape { figure := .rectangle 0, width := 100, height := 5 } }
    let bars : Component := { kind := .barcode { data := "A1", moduleWidth := 2, barHeight := 61 } }
    let s : Store := { things := [.component plate, .component bars] }
    let filled := ((call (.object 0) "fill_background" {}).attempt {} s).2
    let masked := ((call (.object 1) "apply_background" { inRow := ["W", 0, 0] }).attempt {} s).2
    filled.component? 0 = some { plate with
      kind := .shape { figure := .rectangle 0, width := 100, height := 5, thickness := 2 } } ∧
    ¬ min 100 5 ≤ 2 * (2 : Int) ∧
    masked.component? 2 = some { kind := .shape {
      figure := .rectangle 0, width := 112, height := 61, thickness := 30, color := .white } } ∧
    ¬ (Border.mk 112 61 30).Paints 50 30 := by
  intro plate bars s filled masked
  have genuine : s.IsGenuine := fun _ _ _ => rfl
  have there : s.component? 1 = some bars := rfl
  have measures :
      bars.HasMeasures { outerWidth := 0, outerHeight := 0, width := 112, height := 61 } :=
    ⟨rfl, rfl, ⟨_, rfl, rfl⟩, rfl⟩
  have white : Value.IsPlain "W" := trivial
  have made : (call (.object 1) "apply_background" { inRow := ["W", 0, 0] }).attempt {} s = _ :=
    attempt_background_eq (x := 0) (y := 0) genuine there rfl ⟨by decide, by decide, rfl⟩ measures
      rfl rfl white rfl rfl rfl {}
  refine ⟨rfl, by decide, ?_, ?_⟩
  · simp only [masked, made]
    rfl
  · rw [Border.Paints]
    decide

end Action

end Zpl
