import Zpl.Proofs.Label.Composed

/-!
# The geometry of templates

A template sets a barcode on a white background that cuts the lower line of a border. Where these
stand follows from the canvas and from the length of the data, along different ways: the border is
shrunk by its margins, the barcode is centered by its length and moved up, and the background is
taken from the barcode. This module says that they fit on every canvas, also on one that is
narrower than the barcode, and that what is stacked above the barcode does not overlap.

The components of a layout are printed in their order, after whatever was on the label before. Of
the latter nothing is known, so the induction over the places of a label looks at its end only.

## Main definitions

* `Imprint.footprint`, `Bars.length` — how much room an imprint takes.
* `Template.LaysOut` — a template prints a layout after what is on its label.
* `Template.CutsBorder`, `Template.IsStacked` — how the parts of a layout stand to each other.

## Main results

* `Writing.generateFrom_tail` — the instructions of the last components of a label.
* `Template.layouts_fit` — the geometry of both templates, on every canvas with room to print.
-/

namespace Zpl

/-! ### The room that an imprint takes -/

/-- The length of the bars. It is known at normal orientation only. -/
def Bars.length (b : Bars) : Int :=
  if b.orientation = .normal then symbolModules b.data.length * b.moduleWidth else 0

/-- How many dots an imprint takes downwards. A shape takes its height and its lower border. -/
def Imprint.footprint : Imprint → Int
  | .outline o => o.height + o.thickness
  | .line l => l.fontSize
  | .bars b => if b.placement = .below then b.barHeight + textBelowDots else b.barHeight

/-- An imprint ends before another one begins, from the top of the canvas downwards. -/
def Imprint.IsAbove (i j : Imprint) : Prop := i.position.2 + i.footprint ≤ j.position.2

/-- A shape lies within another one, from the left to the right. -/
def Outline.IsBetween (inner outer : Outline) : Prop :=
  outer.x ≤ inner.x ∧ inner.x + inner.width ≤ outer.x + outer.width

/-- Two shapes have the same middle, from the left to the right. -/
def Outline.SharesAxis (o p : Outline) : Prop := 2 * o.x + o.width = 2 * p.x + p.width

namespace Component.Prints

variable {c : Component}

/-- The footprint of a component is that of its imprint. -/
theorem footprint_eq {i : Imprint} (h : c.Prints i) : c.footprint = .ok (.int i.footprint) := by
  cases h with
  | outline x y kind =>
    rw [Component.footprint, kind]
    rfl
  | line x y width alignment kind => rw [Component.footprint, kind, Imprint.footprint]
  | bars x y kind =>
    rw [Component.footprint, kind]
    rfl

/-- A barcode is laid out by the length of its imprint. -/
theorem printedLength_eq {b : Bars} (h : c.Prints (.bars b)) {s : Store} {r : Ref}
    (hs : s.IsGenuine) (hr : s.component? r = some c) (around : Surroundings) :
    Edit.printedLength r around s = .ok (.int b.length) s := by
  cases h with
  | bars x y kind =>
    rw [Edit.printedLength_text hs hr kind rfl, Barcode.lengthOf, Barcode.isNormal, Bars.length]
    cases b.orientation <;> rfl

end Component.Prints

/-! ### The end of a label -/

namespace Writing

open Zpl.Action

variable {around : Surroundings} {s : Store} {l : Ref} {lab : Label} {front rs : List Ref}

/-- Only texts are lines. -/
theorem eq_of_mapM_textOf {vs : List Value} {ts : List Text} (h : vs.mapM textOf = .ok ts) :
    vs = ts.map .text := by
  induction vs generalizing ts with
  | nil =>
    obtain rfl : [] = ts := Except.ok.inj h
    rfl
  | cons v vs ih =>
    rw [List.mapM_cons] at h
    obtain ⟨t, ht, h⟩ := exists_of_bind_eq_ok h
    obtain ⟨ts', hts, h⟩ := exists_of_bind_eq_ok h
    obtain rfl : t :: ts' = ts := Except.ok.inj h
    rw [List.map_cons, ← ih hts]
    cases v with
    | text u =>
      obtain rfl : u = t := Except.ok.inj ht
      rfl
    | _ => cases ht

/-- What is generated from a component on is what the component comes to, and then the rest. -/
theorem exists_of_generateFrom_succ {w : Writing} {fuel place : Nat} {r : Ref} {vs : List Value}
    (hl : s.label? l = some lab) (hr : lab.components[place]? = some r)
    (h : (w.generateFrom l (fuel + 1) place).outcome around s = .ok vs) :
    ∃ v vs', vs = v :: vs' ∧ (w.generated (.object r)).outcome around s = .ok v ∧
      (w.generateFrom l fuel (place + 1)).outcome around
        ((w.generated (.object r)).after around s) = .ok vs' := by
  have unfolds : w.generateFrom l (fuel + 1) place around s =
      (w.generated (.object r) >>= fun v =>
        w.generateFrom l fuel (place + 1) >>= fun vs => pure (v :: vs)) around s := by
    rw [generateFrom, bind_apply, label_eq_ok hl]
    simp only [hr, generated, bind_assoc]
  rw [outcome_congr unfolds] at h
  obtain ⟨v, hv, h⟩ := exists_of_outcome_bind h
  obtain ⟨vs', hvs', rest⟩ := exists_of_outcome_bind h
  exact ⟨v, vs', (Except.ok.inj rest).symm, hv, hvs'⟩

/-- The components at the end of a label get their instructions, whatever those in front of them
come to. -/
theorem generateFrom_tail {w : Writing} (hw : w.Regenerates) (hs : s.IsGenuine)
    (hl : s.label? l = some lab) (hsplit : lab.components = front ++ rs)
    (hd : ∀ r ∈ rs, s.IsDrawable r)
    (hrs : ∀ t, s.Regenerated (fun _ => True) t → ∀ r ∈ rs,
      (w.generate r).Generates around t (fun _ => True) r)
    (fuel place : Nat) (hplace : place + fuel = lab.components.length) {t : Store}
    (ht : s.Regenerated (fun _ => True) t) {vs : List Value}
    (hvs : (w.generateFrom l fuel place).outcome around t = .ok vs) :
    ∃ us is, vs = us ++ is ∧ us.length = front.length - place ∧
      (rs.drop (place - front.length)).mapM s.instructionOf = .ok is := by
  have total : lab.components.length = front.length + rs.length := by
    rw [hsplit, List.length_append]
  induction fuel generalizing place t vs with
  | zero =>
    obtain rfl : [] = vs := Except.ok.inj hvs
    refine ⟨[], [], rfl, ?_, ?_⟩
    · rw [List.length_nil]
      omega
    · rw [List.drop_eq_nil_of_le (by omega)]
      rfl
  | succ fuel ih =>
    have hlt : place < lab.components.length := by omega
    have hget : lab.components[place]? = some lab.components[place] := List.getElem?_eq_getElem hlt
    generalize hr : lab.components[place] = r at hget
    obtain ⟨v, vs', rfl, hv, hvs'⟩ :=
      exists_of_generateFrom_succ ((ht.label? l).trans hl) hget hvs
    have next : s.Regenerated (fun _ => True) ((w.generated (.object r)).after around t) := by
      rw [after_generated]
      exact ht.trans (regenerates_generateFor hw _ around t (ht.isGenuine hs))
    obtain ⟨us, is, rfl, hus, his⟩ := ih (place + 1) (by omega) next hvs'
    by_cases hfront : place < front.length
    · refine ⟨v :: us, is, rfl, ?_, ?_⟩
      · rw [List.length_cons, hus]
        omega
      · rw [Nat.sub_eq_zero_of_le (by omega)] at his ⊢
        exact his
    · -- Past the front there is nothing left of it, and the instruction is known.
      obtain rfl : us = [] := List.eq_nil_of_length_eq_zero (by omega)
      have hlt' : place - front.length < rs.length := by omega
      have here : rs[place - front.length] = r := by
        rw [← hr]
        simp only [hsplit]
        rw [List.getElem_append_right (by omega)]
      have hmem : r ∈ rs := here ▸ List.getElem_mem hlt'
      obtain ⟨c, hc⟩ := (ht.toReprinted.isDrawable (hd r hmem)).component?
      rw [outcome_generated (generateFor_generates (ht.isGenuine hs) hc (hrs t ht r hmem)),
        ht.toReprinted.instructionOf] at hv
      refine ⟨[], v :: is, rfl, by rw [List.length_nil]; omega, ?_⟩
      rw [List.drop_eq_getElem_cons hlt', here, List.mapM_cons, hv]
      rw [show place + 1 - front.length = place - front.length + 1 by omega] at his
      rw [his]
      rfl

end Writing

namespace Store

variable {s : Store} {rs : List Ref} {iss : List (List Imprint)}

/-- The instructions of components that show imprints, if there are any. -/
theorem instructions_of_shows (h : List.Forall₂ s.Shows rs iss) {is : List Value}
    (his : rs.mapM s.instructionOf = .ok is) :
    is = iss.map fun is => .text (Text.join "\n" (is.map Imprint.text)) := by
  induction h generalizing is with
  | nil => exact (Except.ok.inj his).symm
  | cons shows _ ih =>
    rw [List.mapM_cons, shows.instructionOf_eq] at his
    obtain ⟨v, hv, his⟩ := exists_of_bind_eq_ok his
    obtain ⟨vs, hvs, his⟩ := exists_of_bind_eq_ok his
    obtain rfl : v :: vs = is := Except.ok.inj his
    rw [ih hvs, ← Decimal.showing_eq_ok hv]
    rfl

end Store

namespace Action

open Writing

variable {around : Surroundings} {s : Store} {l : Ref} {lab : Label} {front rs : List Ref}
  {iss : List (List Imprint)}

/-- The code of a label ends with the lines of the components at its end. -/
theorem code_ends (hs : s.IsGenuine) (hl : s.label? l = some lab)
    (hsplit : lab.components = front ++ rs) (hrs : List.Forall₂ s.Shows rs iss) {t : Text}
    (ht : (code l).outcome around s = .ok t) :
    ∃ before : List Text, before.length = front.length ∧
      t = Text.join "\n" (before ++ iss.map fun is => Text.join "\n" (is.map Imprint.text)) := by
  obtain ⟨fuel, hfuel⟩ := s.depth_eq
  have hd := Store.isDrawable_of_shows hrs
  have generates (t : Store) (ht : s.Regenerated (fun _ => True) t) (r : Ref) (hr : r ∈ rs) :
      ((within (fuel + 2) []).generate r).Generates around t (fun _ => True) r :=
    (Writing.generate_generates fuel [] (ht.isGenuine hs)
      (ht.toReprinted.isDrawable (hd r hr))).mono fun _ _ => trivial
  rw [code, outcome_bind, outcome_writing, after_writing, hfuel] at ht
  obtain ⟨lab', hlab, ht⟩ := exists_of_outcome_bind ht
  rw [outcome_label hl] at hlab
  obtain rfl := Except.ok.inj hlab
  rw [after_label] at ht
  obtain ⟨vs, hvs, ht⟩ := exists_of_outcome_bind ht
  obtain ⟨us, is, rfl, hus, his⟩ := generateFrom_tail (regenerates_within (fuel + 2) []) hs hl
    hsplit hd generates lab.components.length 0 (Nat.zero_add _) (.refl _ s) hvs
  rw [Nat.zero_sub, List.drop_zero] at his
  obtain rfl := Store.instructions_of_shows hrs his
  obtain ⟨_, -, ht⟩ := exists_of_outcome_bind ht
  rw [mapM_lift] at ht
  obtain ⟨lines, hlines, ht⟩ := exists_of_outcome_bind ht
  rw [outcome_lift, List.mapM_append] at hlines
  obtain ⟨before, hbefore, hlines⟩ := exists_of_bind_eq_ok hlines
  have texts := mapM_textOf (iss.map fun is => Text.join "\n" (is.map Imprint.text))
  rw [List.map_map] at texts
  obtain ⟨behind, hbehind, hlines⟩ := exists_of_bind_eq_ok hlines
  obtain rfl := Except.ok.inj (texts.symm.trans hbehind)
  obtain rfl := Except.ok.inj hlines
  rw [eq_of_mapM_textOf hbefore, List.length_map] at hus
  exact ⟨before, hus, (Except.ok.inj ht).symm⟩

end Action

/-! ### What a template prints -/

namespace Template

open Zpl.Action

variable {around : Surroundings} {s : Store} {l : Ref} {lab : Label} {width height : Int}
  {iss : List (List Imprint)}

/-- A template prints a layout after what is on the label `l`. The components that it adds show the
imprints of the layout, and the lines that it gives end with theirs. If the label could be printed
before, and the numbers of the layout can be written, then the template does give them. -/
structure LaysOut (around : Surroundings) (s : Store) (l : Ref) (lab : Label)
    (iss : List (List Imprint)) (template : Action Value) : Prop where
  parts : ∃ laid, s.LaidOut l lab iss laid ∧
    laid.Regenerated (fun _ => True) (template.after around s)
  lines : ∀ v, template.outcome around s = .ok v → ∃ before : List Text,
    before.length = lab.components.length ∧
      v = .text (Text.join "\n" (before ++ iss.map fun is => Text.join "\n" (is.map Imprint.text)))
  returns : (∀ r ∈ lab.components, s.IsDrawable r) →
    (∀ n ∈ iss.flatten.flatMap Imprint.numbers, Decimal.isWritable n = true) →
      ∀ old, (code l).outcome around s = .ok old → ∃ v, template.outcome around s = .ok v

/-- What could be printed before can be printed with the layout behind it. -/
theorem exists_code_of_laidOut (h : s.HasCanvas l lab width height) {laid : Store}
    (hlaid : s.LaidOut l lab iss laid) (hiss : iss.flatten ≠ [])
    (hd : ∀ r ∈ lab.components, s.IsDrawable r)
    (hnumbers : ∀ n ∈ iss.flatten.flatMap Imprint.numbers, Decimal.isWritable n = true)
    {old : Text} (hold : (code l).outcome around s = .ok old) :
    ∃ t, (code l).outcome around laid = .ok t := by
  obtain ⟨rs, there, shows⟩ := hlaid.parts
  have genuine : laid.IsGenuine := h.genuine.congr hlaid.attached
  have drawable : ∀ r ∈ lab.components ++ rs, laid.IsDrawable r :=
    List.forall_mem_append.2
      ⟨fun r hr => ((hd r hr).kept hlaid.kept).1, Store.isDrawable_of_shows shows⟩
  have lines : (rs.flatMap laid.layers).mapM Component.line =
      .ok ((iss.flatten.map Imprint.text).map .text) := by
    rw [Store.lines_of_shows shows, Decimal.showing_of_isWritable hnumbers, List.map_map]
    rfl
  rw [outcome_code h.genuine h.label hd] at hold
  -- The label was noted before with the same size, so it can be noted again.
  rw [outcome_code genuine there drawable, Store.codeNoted_append hd hlaid.kept lines
    (by simpa using hiss) (Store.noted_of_codeNoted hold), hold]
  exact ⟨_, rfl⟩

/-- A template that lays out its parts and gives the code of the label prints them. -/
theorem laysOut_of_laidOut (h : s.HasCanvas l lab width height) {template : Action Value}
    (hiss : iss.flatten ≠ []) (htemplate : ∃ laid, s.LaidOut l lab iss laid ∧
      template around s = (do return .text (← code l) : Action Value) around laid) :
    LaysOut around s l lab iss template := by
  obtain ⟨laid, hlaid, htemplate⟩ := htemplate
  have genuine : laid.IsGenuine := h.genuine.congr hlaid.attached
  constructor
  · refine ⟨laid, hlaid, ?_⟩
    rw [after_congr htemplate, after_bind]
    have changes := regenerates_code l around laid genuine
    split <;> exact changes
  · intro v hv
    obtain ⟨rs, there, shows⟩ := hlaid.parts
    rw [outcome_congr htemplate] at hv
    obtain ⟨t, ht, hv⟩ := exists_of_outcome_bind hv
    obtain ⟨before, hbefore, rfl⟩ := code_ends genuine there rfl shows ht
    exact ⟨before, hbefore, (Except.ok.inj hv).symm⟩
  · intro hd hnumbers old hold
    obtain ⟨t, ht⟩ := exists_code_of_laidOut h hlaid hiss hd hnumbers hold
    refine ⟨.text t, ?_⟩
    rw [outcome_congr htemplate, outcome_bind, ht]
    rfl

/-! ### How the parts stand to each other -/

/-- In a layout on a canvas, a border is printed first, and bars over their background last. The
background covers the lower line of the border and is filled, and the bars lie within it. They end
twenty dots above the lower edge. All sizes but those of the border are above zero on every
canvas, and the border has one that is not below zero if the canvas is at least forty dots wide
and `least` dots high. -/
structure CutsBorder (width height least : Int) (border mask : Outline) (bars : Bars)
    (iss : List (List Imprint)) : Prop where
  order : ∃ middle, iss.flatten = .outline border :: middle ++ [.outline mask, .bars bars]
  behind : iss.getLast? = some [.outline mask, .bars bars]
  covers : mask.y ≤ border.y + border.height - border.thickness ∧
    border.y + border.height ≤ mask.y + mask.height
  white : mask.color = .white
  filled : min mask.width mask.height ≤ 2 * mask.thickness
  left : mask.x + 10 = bars.x
  right : bars.x + bars.length + 10 = mask.x + mask.width
  upper : mask.y ≤ bars.y
  lower : bars.y + (Imprint.bars bars).footprint ≤ mask.y + mask.height
  bottom : bars.y + (Imprint.bars bars).footprint = height - 20
  border_size : (0 ≤ border.width ∧ 0 ≤ border.height) ↔ 40 ≤ width ∧ least ≤ height
  border_thickness : 0 < border.thickness
  sizes : ∀ o, .outline o ∈ iss.flatten.tail → 0 < o.width ∧ 0 < o.height ∧ 0 < o.thickness

/-- In a layout on a canvas, a title, a divider and two more lines follow each other downwards
without overlap. On a canvas that is at least as wide as the divider, the gap in it and the dot in
the gap lie in its middle. -/
structure IsStacked (width : Int) (title : Line) (divider gap dot : Outline)
    (subtitle information : Line) (iss : List (List Imprint)) : Prop where
  printed : [.line title, .outline divider, .outline gap, .outline dot, .line subtitle,
    .line information].Sublist iss.flatten
  extents : ∀ i ∈ [.line title, .outline divider, .line subtitle, .line information],
    0 < Imprint.footprint i
  above : [.line title, .outline divider, .line subtitle, .line information].Pairwise
    Imprint.IsAbove
  axis : 140 ≤ width → divider.SharesAxis gap ∧ gap.SharesAxis dot
  nested : 140 ≤ width → dot.IsBetween gap ∧ gap.IsBetween divider

theorem length_bottomBars (data : Text) :
    (bottomBars width height data).length = barcodeLength data := if_pos rfl

/-- Every border with a barcode over it is cut, as long as its lower line lies at the height of the
background. -/
theorem cutsBorder (thickness bottom padding : Int) {data : Text} (middle : List Imprint)
    (hthickness : 0 < thickness) (hpadding : 0 ≤ padding)
    (hline : bottom ≤ 80 + padding - thickness ∧ 20 - padding ≤ bottom)
    (horder : iss.flatten = .outline (borderOutline width height thickness bottom) :: middle ++
      [.outline (mask width height data padding), .bars (bottomBars width height data)])
    (hlast : iss.getLast? = some
      [.outline (mask width height data padding), .bars (bottomBars width height data)])
    (hmiddle : ∀ o, .outline o ∈ middle → 0 < o.width ∧ 0 < o.height ∧ 0 < o.thickness) :
    CutsBorder width height (bottom + 20) (borderOutline width height thickness bottom)
      (mask width height data padding) (bottomBars width height data) iss := by
  have long := le_barcodeLength data
  have length : (bottomBars width height data).length = barcodeLength data :=
    length_bottomBars data
  have footprint : (Imprint.bars (bottomBars width height data)).footprint = 60 := rfl
  constructor
  case order => exact ⟨middle, horder⟩
  case behind => exact hlast
  case white => rfl
  case right =>
    rw [length]
    simp only [mask, bottomBars]
    omega
  case lower | bottom =>
    rw [footprint]
    simp only [mask, bottomBars]
    omega
  case sizes =>
    intro o ho
    rw [horder, List.cons_append, List.tail_cons, List.mem_append] at ho
    rcases ho with ho | ho
    · exact hmiddle o ho
    · obtain rfl : o = mask width height data padding := by simpa using ho
      simp only [mask]
      omega
  all_goals simp only [mask, borderOutline, bottomBars]; omega

/-- The place of something centered on a canvas that is at least as wide. -/
theorem centered_eq {outer size : Int} (h : size ≤ outer) :
    (outer - size).tdiv 2 = (outer - size) / 2 :=
  Int.tdiv_eq_ediv_of_nonneg (by omega)

/-- The texts of the layout of three lines follow each other around the divider. -/
theorem isStacked (width height : Int) (title subtitle information data : Text) :
    IsStacked width (heading width true 50 70 title) (divider width) (gap width) (dot width)
      (heading width true 190 40 subtitle) (heading width true 230 30 information)
      (threeLinesImprints width height title subtitle information data) := by
  constructor
  case printed =>
    simp only [threeLinesImprints, List.flatten_cons, List.flatten_nil, List.cons_append,
      List.nil_append]
    refine .cons _ ?_
    repeat refine .cons_cons _ ?_
    exact List.nil_sublist _
  case extents => simp [Imprint.footprint, heading, divider]
  case above => simp [Imprint.IsAbove, Imprint.footprint, Imprint.position, heading, divider]
  case axis =>
    intro hwidth
    simp only [Outline.SharesAxis, divider, gap, dot]
    rw [centered_eq hwidth, centered_eq (by omega), centered_eq (by omega)]
    -- All widths are even, so halving leaves the same rest for all of them.
    omega
  case nested =>
    intro hwidth
    simp only [Outline.IsBetween, divider, gap, dot]
    rw [centered_eq hwidth, centered_eq (by omega), centered_eq (by omega)]
    omega

/-- On every canvas with room to print, for all texts and whatever is on the label, both templates
print a layout whose barcode cuts the lower line of its border, with ten dots of background to
either side; and in the layout of three lines what stands above is stacked. -/
theorem layouts_fit (h : s.HasCanvas l lab width height) (hwidth : 0 < width)
    (hheight : 0 < height) (around : Surroundings) :
    (∀ (centered : Bool) (title subtitle data : Value) (t u d : Text), title.Spells t →
      subtitle.Spells u → data.Spells d →
        let imprints := twoLinesImprints width height centered t u d
        LaysOut around s l lab imprints
          (twoLines (.object l) (.bool centered) title subtitle data) ∧
        CutsBorder width height 70 (borderOutline width height 2 50) (mask width height d 10)
          (bottomBars width height d) imprints) ∧
    (∀ (title subtitle information data : Value) (t u i d : Text), title.Spells t →
      subtitle.Spells u → information.Spells i → data.Spells d →
        let imprints := threeLinesImprints width height t u i d
        LaysOut around s l lab imprints
          (threeLines (.object l) title subtitle information data) ∧
        CutsBorder width height 71 (borderOutline width height 3 51) (mask width height d 0)
          (bottomBars width height d) imprints ∧
        IsStacked width (heading width true 50 70 t) (divider width) (gap width) (dot width)
          (heading width true 190 40 u) (heading width true 230 30 i) imprints) := by
  constructor
  · intro centered title subtitle data t u d ht hu hd imprints
    refine ⟨?_, ?_⟩
    · exact laysOut_of_laidOut h (List.cons_ne_nil _ _)
        (twoLines_laidOut h hwidth hheight centered ht hu hd)
    · refine cutsBorder 2 50 10
        [.line (heading width centered 40 30 t), .line (heading width centered 70 20 u)]
        (by decide) (by decide) (by decide) rfl rfl ?_
      simp
  · intro title subtitle information data t u i d ht hu hi hd imprints
    refine ⟨?_, ?_, isStacked width height t u i d⟩
    · exact laysOut_of_laidOut h (List.cons_ne_nil _ _)
        (threeLines_laidOut h hwidth hheight ht hu hi hd)
    · refine cutsBorder 3 51 0
        [.line (heading width true 50 70 t), .outline (divider width), .outline (gap width),
          .outline (dot width), .line (heading width true 190 40 u),
          .line (heading width true 230 30 i)]
        (by decide) (by decide) (by decide) rfl rfl ?_
      simp [divider, gap, dot]

/-- On a canvas that is narrower than the barcode, and too low for the border, both templates give
their lines. -/
theorem layouts_fit_narrow :
    let lab : Label := { dpi := 203, labelWidth := 60, labelHeight := 50 }
    let s : Store := { things := [.label lab] }
    let around : Surroundings := .within {} s.depth
    CutsBorder 60 50 70 (borderOutline 60 50 2 50) (mask 60 50 "123" 10) (bottomBars 60 50 "123")
      (twoLinesImprints 60 50 true "T" [] "123") ∧
    (∃ v, (twoLines (.object 0) (.bool true) (.text "T") (.list []) (.text "123")).outcome
      around s = .ok v) ∧
    CutsBorder 60 50 71 (borderOutline 60 50 3 51) (mask 60 50 "123" 0) (bottomBars 60 50 "123")
      (threeLinesImprints 60 50 "T" [] "I" "123") ∧
    ∃ v, (threeLines (.object 0) (.text "T") (.list []) (.text "I") (.text "123")).outcome
      around s = .ok v := by
  intro lab s around
  have canvas : s.HasCanvas 0 lab 60 50 := ⟨fun _ _ _ => rfl, rfl, rfl, rfl, by simp [s]⟩
  have fits := layouts_fit canvas (by decide) (by decide) around
  obtain ⟨two, cuts⟩ := fits.1 true (.text "T") (.list []) (.text "123") "T" [] "123"
    (.text _) .nothing (.text _)
  obtain ⟨three, cuts', -⟩ := fits.2 (.text "T") (.list []) (.text "I") (.text "123") "T" [] "I"
    "123" (.text _) .nothing (.text _) (.text _)
  have old : (code 0).outcome around s = .ok [] := rfl
  exact ⟨cuts, two.returns (by simp [lab]) (by decide) _ old, cuts',
    three.returns (by simp [lab]) (by decide) _ old⟩

end Template

end Zpl
