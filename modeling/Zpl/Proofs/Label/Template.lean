import Zpl.Proofs.Label.Grammar
import Zpl.Proofs.Label.Parts

/-!
# The layouts of templates

On a label whose canvas has a size in whole dots, a template makes its parts, adds them to what is
on the label, and gives the instructions of the whole label. So what a template puts on a label is
known in full: which components there are, in which order they are printed, and what each of them
shows. Nothing that was there before is touched, and without room to print nothing is done at all.

## Main definitions

* `Store.HasCanvas` — a label with a canvas of a given size.
* `Store.LaidOut` — a label on which components that show given imprints were laid out.
* `Template.twoLinesImprints`, `threeLinesImprints` — what the templates put on a label.

## Main results

* `Template.twoLines_laidOut`, `threeLines_laidOut` — on a canvas with room to print, a template
  lays out its parts and gives the code of the label.
* `Template.onCanvas_eq_empty` — on any other canvas it gives nothing.
-/

namespace Zpl

/-! ### The label -/

namespace Store

variable {s : Store} {l q : Ref} {lab : Label}

theorem lt_length_of_label? (h : s.label? l = some lab) : l < s.things.length :=
  (List.getElem?_eq_some_iff.1 (label?_eq_some_iff.1 h)).1

theorem label?_put_self (h : l < s.things.length) (lab : Label) :
    (s.put l (.label lab)).label? l = some lab := by
  rw [label?_eq_some_iff, thing?_put_self h]

/-- Replacing a label touches no component. -/
theorem component?_put_label (hl : s.label? l = some lab) {c : Component}
    (hq : s.component? q = some c) (x : Thing) : (s.put l x).component? q = some c := by
  rw [component?_put_of_ne ?_, hq]
  rintro rfl
  rw [label?_eq_some_iff] at hl
  rw [component?_eq_some_iff, hl] at hq
  simp at hq

end Store

/-- A label has a canvas of a size in whole dots, and nobody has put anything in the place of what
tells the size. -/
structure Store.HasCanvas (s : Store) (l : Ref) (lab : Label) (width height : Int) : Prop where
  genuine : s.IsGenuine
  label : s.label? l = some lab
  width : lab.labelWidth = .int width
  height : lab.labelHeight = .int height
  asked : ∀ name ∈ ["get_label_width", "get_label_height"], s.attached.lookup (l, name) = none

namespace Template

open Zpl.Action Edit

variable {around : Surroundings} {s : Store} {l : Ref} {lab : Label} {width height : Int}

theorem read_label (hl : s.label? l = some lab) {name : String} {v : Value}
    (hv : lab.fields.lookup name = some (.ok v)) :
    read (.object l) name around s = .ok v s :=
  read_eq_ok (Store.label?_eq_some_iff.1 hl) hv

theorem side_eq_ok (hl : s.label? l = some lab) {method field : String} {v : Value}
    (hmethod : s.attached.lookup (l, method) = none)
    (hv : lab.fields.lookup field = some (.ok v)) :
    side (.object l) method field around s = .ok v s := by
  have there : canvas? s l = some () := by
    rw [canvas?, Store.label?_eq_some_iff.1 hl]
  rw [side, dispatchOn, dispatch_of_unattached hmethod]
  refine bind_eq rfl ?_
  rw [there]
  exact read_label hl hv

theorem isUnprintable_int (n : Int) : isUnprintable (.int n) = .ok (decide (n ≤ 0)) := by
  simp [isUnprintable, bind, Except.bind, pure, Except.pure]

/-- There is room to print where both sides are longer than nothing. -/
theorem hasRoom_eq_ok (h : s.HasCanvas l lab width height) :
    hasRoom (.object l) around s = .ok (decide (0 < width ∧ 0 < height)) s := by
  have across : side (.object l) "get_label_width" "label_width" around s = .ok (.int width) s :=
    side_eq_ok h.label (h.asked _ (by simp)) (by rw [← h.width]; rfl)
  have down : side (.object l) "get_label_height" "label_height" around s = .ok (.int height) s :=
    side_eq_ok h.label (h.asked _ (by simp)) (by rw [← h.height]; rfl)
  have lacks : hasNoRoom (.object l) around s =
      .ok (decide (width ≤ 0) || decide (height ≤ 0)) s := by
    refine bind_eq across ?_
    rw [isUnprintable_int]
    refine bind_eq rfl ?_
    cases decide (width ≤ 0) with
    | true => rfl
    | false =>
      refine bind_eq down ?_
      rw [isUnprintable_int]
      rfl
  refine (bind_eq lacks rfl).trans (congrArg (EStateM.Result.ok · s) ?_)
  rw [Bool.eq_iff_iff]
  simp

/-- On a canvas with room to print, a layout is carried out. -/
theorem onCanvas_eq (h : s.HasCanvas l lab width height) (hwidth : 0 < width) (hheight : 0 < height)
    (layout : Value → Value → Action Value) :
    onCanvas (.object l) layout around s = layout (.int width) (.int height) around s := by
  refine bind_eq (hasRoom_eq_ok h) ?_
  rw [decide_eq_true ⟨hwidth, hheight⟩]
  refine bind_eq (a := .int width) (read_label h.label (by rw [← h.width]; rfl)) ?_
  exact bind_eq (a := .int height) (read_label h.label (by rw [← h.height]; rfl)) rfl

/-- On any other canvas nothing is done, apart from a warning. -/
theorem onCanvas_eq_empty (h : s.HasCanvas l lab width height) (hsize : ¬ (0 < width ∧ 0 < height))
    (layout : Value → Value → Action Value) :
    onCanvas (.object l) layout around s = .ok (.text []) { s with
      events := s.events ++ [.log .warning .template
        "Create a valid label first; returning empty label code"] } := by
  refine bind_eq (hasRoom_eq_ok h) ?_
  rw [decide_eq_false hsize]
  rfl

/-! ### Adding components -/

/-- A component that has a canvas of its own is added as it is. -/
theorem addComponent_eq_ok (hl : s.label? l = some lab) {r : Ref} {c : Component}
    (hr : s.component? r = some c) (hwidth : c.labelWidth = .int width) (hne : width ≠ 0) :
    addComponent l (.object r) around s =
      .ok () (s.put l (.label { lab with components := lab.components ++ [r] })) := by
  have own : lacksCanvas (.object r) around s = .ok false s := by
    refine bind_eq (a := .int width) (read_component hr (by rw [← hwidth]; rfl)) ?_
    rw [show (0 : Value) = .int 0 from rfl, Value.same_int, decide_eq_false hne]
    rfl
  have looks : label l around s = .ok lab s := label_eq_ok hl around
  refine bind_eq looks (bind_eq own ?_)
  exact bind_eq looks rfl

/-- Components that have a canvas of their own are added as they are, one after the other. -/
theorem addComponents_eq_ok {rs : List Ref} (hs : s.IsGenuine) (hl : s.label? l = some lab)
    (h : ∀ r ∈ rs, ∃ c width, s.component? r = some c ∧ c.labelWidth = .int width ∧ width ≠ 0) :
    addComponents l (rs.map .object) around s =
      .ok () (s.put l (.label { lab with components := lab.components ++ rs })) := by
  induction rs generalizing s lab with
  | nil =>
    rw [List.append_nil, Store.put_self (Store.label?_eq_some_iff.1 hl)]
    rfl
  | cons r rs ih =>
    obtain ⟨⟨c, width, hr, hwidth, hne⟩, h⟩ := List.forall_mem_cons.1 h
    have there := Store.lt_length_of_label? hl
    have added :
        (dispatchUnit l "add_component" [.object r] (addComponent l (.object r))) around s =
          .ok () (s.put l (.label { lab with components := lab.components ++ [r] })) := by
      refine bind_eq (a := .none) ?_ rfl
      rw [dispatch_of_unattached (hs _ _ (by decide))]
      exact bind_eq (addComponent_eq_ok hl hr hwidth hne) rfl
    have genuine : (s.put l (.label { lab with
        components := lab.components ++ [r] })).IsGenuine := hs.congr rfl
    refine bind_eq added ((ih genuine (Store.label?_put_self there _) ?_).trans ?_)
    · intro q hq
      obtain ⟨c, width, hc, rest⟩ := h q hq
      exact ⟨c, width, Store.component?_put_label hl hc _, rest⟩
    · rw [Store.put_put, List.append_assoc]
      rfl

/-! ### What a template puts on a label -/

/-- What is printed for the layout of two lines: a border, the texts, and a barcode over its
background. -/
def twoLinesImprints (width height : Int) (centered : Bool) (title subtitle data : Text) :
    List (List Imprint) :=
  [[.outline (borderOutline width height 2 50)],
    [.line (heading width centered 40 30 title)],
    [.line (heading width centered 70 20 subtitle)],
    [.outline (mask width height data 10), .bars (bottomBars width height data)]]

/-- The components of the layout of two lines. They get their numbers from `first` on. -/
def twoLinesParts (first : Ref) (width height : Int) (centered : Bool)
    (title subtitle data : Text) : List Component :=
  [(heading width centered 40 30 title).on "title" height,
    (heading width centered 70 20 subtitle).on "subtitle" height,
    (bottomBars width height data).on width height (.object (first + 3)),
    (mask width height data 10).on [] width height .left,
    (borderOutline width height 2 50).on "borderBox" width height .left]

/-- The line below the title. -/
def divider (width : Int) : Outline :=
  { x := (width - 140).tdiv 2, y := 144, width := 140, height := 4, thickness := 2
    color := .black, figure := .rectangle 0 }

/-- The gap in the middle of the divider. -/
def gap (width : Int) : Outline :=
  { x := (width - 36).tdiv 2, y := 144, width := 36, height := 8, thickness := 4
    color := .white, figure := .rectangle 0 }

/-- The dot in the gap. -/
def dot (width : Int) : Outline :=
  { x := (width - 18).tdiv 2, y := 137, width := 18, height := 18, thickness := 9
    color := .black, figure := .ellipse }

/-- What is printed for the layout of three lines: a border, the title over its divider, the other
texts, and a barcode over its background. -/
def threeLinesImprints (width height : Int) (title subtitle information data : Text) :
    List (List Imprint) :=
  [[.outline (borderOutline width height 3 51)],
    [.line (heading width true 50 70 title)],
    [.outline (divider width)],
    [.outline (gap width)],
    [.outline (dot width)],
    [.line (heading width true 190 40 subtitle)],
    [.line (heading width true 230 30 information)],
    [.outline (mask width height data 0), .bars (bottomBars width height data)]]

/-- The components of the layout of three lines. They get their numbers from `first` on. -/
def threeLinesParts (first : Ref) (width height : Int) (title subtitle information data : Text) :
    List Component :=
  [(heading width true 50 70 title).on "title" height,
    (divider width).on "line below title" width height .center,
    (gap width).on "center dot padding" width height .center,
    (dot width).on "ellipse below title" width height .center,
    (heading width true 190 40 subtitle).on "subtitle" height,
    (heading width true 230 30 information).on "info" height,
    (bottomBars width height data).on width height (.object (first + 7)),
    (mask width height data 0).on [] width height .left,
    (borderOutline width height 3 51).on "Border" width height .left]

/-! ### Making the parts -/

section

variable (h : s.HasCanvas l lab width height) (hwidth : 0 < width) (hheight : 0 < height)

include h hwidth hheight

/-- The layout of two lines makes its parts, and then adds them. -/
theorem twoLines_parts (centered : Bool) {title subtitle data : Value} {t u d : Text}
    (ht : title.Spells t) (hu : subtitle.Spells u) (hd : data.Spells d) :
    twoLines (.object l) (.bool centered) title subtitle data around s =
      addTo (.object l) ([4, 0, 1, 2].map (s.next + ·)) around
        (s.append (twoLinesParts s.next width height centered t u d)) := by
  refine (onCanvas_eq h hwidth hheight _).trans ?_
  refine bind_eq rfl ?_
  refine bind_eq (text_eq_ok ht "title") ?_
  refine bind_eq (turns_setMarginTop (y := 0) rfl 40) ?_
  refine bind_eq (turns_place rfl rfl rfl centered) ?_
  refine bind_eq (text_eq_ok hu "subtitle") ?_
  refine bind_eq (turns_stackBelow (y := 0) (Store.component?_plus s _) rfl rfl rfl) ?_
  refine bind_eq (turns_assign_fontSize rfl (by decide)) ?_
  refine bind_eq (turns_place rfl rfl rfl centered) ?_
  refine bind_eq (bottomBarcode_eq_ok (by simpa only [Store.isGenuine_plus] using h.genuine) hd
    (by decide) (by decide)) ?_
  refine bind_eq (footprint_eq_ok (Store.component?_plus_of_some (Store.component?_plus _ _) _)) ?_
  refine bind_eq (sub_int 60 10 _ _) ?_
  refine bind_eq (border_eq_ok (by simpa only [Store.isGenuine_plus] using h.genuine) (by omega)
    (by omega) "borderBox" (by decide) 50) ?_
  simp only [Store.plus_eq_append, Store.append_append, Store.next_append]
  rfl

/-- The layout of three lines makes its parts, and then adds them. -/
theorem threeLines_parts {title subtitle information data : Value} {t u i d : Text}
    (ht : title.Spells t) (hu : subtitle.Spells u) (hi : information.Spells i)
    (hd : data.Spells d) :
    threeLines (.object l) title subtitle information data around s =
      addTo (.object l) ([8, 0, 1, 2, 3, 4, 5, 6].map (s.next + ·)) around
        (s.append (threeLinesParts s.next width height t u i d)) := by
  refine (onCanvas_eq h hwidth hheight _).trans ?_
  -- The title.
  refine bind_eq (text_eq_ok ht "title") ?_
  refine bind_eq (turns_setMarginTop (y := 0) rfl 50) ?_
  refine bind_eq (turns_assign_fontSize rfl (by decide)) ?_
  refine bind_eq (turns_setAlignment_text rfl) ?_
  have above := Store.component?_plus s ((heading width true 50 70 t).on "title" height)
  -- The divider, which everything below the title is placed by.
  refine bind_eq (rectangle_eq_ok "line below title") ?_
  refine bind_eq (turns_assign_width rfl (by decide)) ?_
  refine bind_eq (turns_assign_height rfl (by decide)) ?_
  refine bind_eq (turns_stackBelow (y := 0) above rfl rfl rfl) ?_
  refine bind_eq (turns_setAlignment_center (m := ⟨width, height, 140, 4⟩)
    (by simpa only [Store.isGenuine_plus] using h.genuine) ⟨rfl, rfl, rfl, rfl⟩ rfl) ?_
  refine bind_eq (turns_setMarginTop rfl 24) ?_
  refine bind_eq (turns_fillBackground rfl rfl rfl (by decide)) ?_
  have line := Store.component?_plus (s.plus ((heading width true 50 70 t).on "title" height))
    ((divider width).on "line below title" width height .center)
  -- The gap in the divider.
  refine bind_eq (rectangle_eq_ok "center dot padding") ?_
  refine bind_eq (turns_assign_width rfl (by decide)) ?_
  refine bind_eq (turns_assign_height rfl (by decide)) ?_
  refine bind_eq (turns_setMarginTop (y := 0) rfl 24) ?_
  refine bind_eq (turns_stackBelow (Store.component?_plus_of_some above _) rfl rfl rfl) ?_
  refine bind_eq (turns_setAlignment_center (m := ⟨width, height, 36, 8⟩)
    (by simpa only [Store.isGenuine_plus] using h.genuine) ⟨rfl, rfl, rfl, rfl⟩ rfl) ?_
  refine bind_eq (turns_assign_color rfl .white) ?_
  refine bind_eq (turns_fillBackground rfl rfl rfl (by decide)) ?_
  -- The dot in the gap.
  refine bind_eq (ellipse_eq_ok "ellipse below title") ?_
  refine bind_eq (turns_assign_width rfl (by decide)) ?_
  refine bind_eq (turns_assign_height rfl (by decide)) ?_
  refine bind_eq (turns_setMarginTop (y := 0) rfl 17) ?_
  refine bind_eq (turns_stackBelow
    (Store.component?_plus_of_some (Store.component?_plus_of_some above _) _) rfl rfl rfl) ?_
  refine bind_eq (turns_setAlignment_center (m := ⟨width, height, 18, 18⟩)
    (by simpa only [Store.isGenuine_plus] using h.genuine) ⟨rfl, rfl, rfl, rfl⟩ rfl) ?_
  refine bind_eq (turns_fillBackground rfl rfl rfl (by decide)) ?_
  -- The subtitle and the information.
  refine bind_eq (text_eq_ok hu "subtitle") ?_
  refine bind_eq (turns_stackBelow (y := 0)
    (Store.component?_plus_of_some (Store.component?_plus_of_some line _) _) rfl rfl rfl) ?_
  refine bind_eq (turns_assign_fontSize rfl (by decide)) ?_
  refine bind_eq (turns_setMarginTop rfl 40) ?_
  refine bind_eq (turns_setAlignment_text rfl) ?_
  refine bind_eq (text_eq_ok hi "info") ?_
  refine bind_eq (turns_stackBelow (y := 0) (Store.component?_plus _ _) rfl rfl rfl) ?_
  refine bind_eq (turns_assign_fontSize rfl (by decide)) ?_
  refine bind_eq (turns_setAlignment_text rfl) ?_
  -- The barcode, and the border that runs behind it.
  refine bind_eq (bottomBarcode_eq_ok (by simpa only [Store.isGenuine_plus] using h.genuine) hd
    (by decide) (by decide)) ?_
  refine bind_eq (footprint_eq_ok (Store.component?_plus_of_some (Store.component?_plus _ _) _)) ?_
  refine bind_eq rfl ?_
  refine bind_eq (add_int 20 30 _ _) ?_
  refine bind_eq (add_int 50 1 _ _) ?_
  refine bind_eq (border_eq_ok (by simpa only [Store.isGenuine_plus] using h.genuine) (by omega)
    (by omega) "Border" (by decide) 51) ?_
  simp only [Store.plus_eq_append, Store.append_append, Store.next_append]
  rfl

end

end Template

/-! ### Laying out -/

namespace Store

variable {s t : Store} {l r : Ref} {lab : Label} {width height : Int} {iss : List (List Imprint)}

/-- On a label that was `lab` in the store `s`, components were laid out that show some imprints.
Whatever else there was is still there. -/
structure LaidOut (s : Store) (l : Ref) (lab : Label) (iss : List (List Imprint)) (t : Store) :
    Prop where
  parts : ∃ rs, t.label? l = some { lab with components := lab.components ++ rs } ∧
    List.Forall₂ t.Shows rs iss
  kept : ∀ q c, s.component? q = some c → t.component? q = some c
  attached : t.attached = s.attached
  events : t.events = s.events

/-- Replacing a label changes nothing that a component shows. -/
theorem Shows.put_label (hl : s.label? l = some lab) (x : Thing) {is : List Imprint}
    (h : s.Shows r is) : (s.put l x).Shows r is := by
  cases h with
  | alone there prints nothing =>
    exact .alone (component?_put_label hl there x) prints nothing
  | backed there prints kind behind present printsBehind =>
    exact .backed (component?_put_label hl there x) prints kind behind
      (component?_put_label hl present x) printsBehind

theorem label?_append (hl : s.label? l = some lab) (cs : List Component) :
    (s.append cs).label? l = some lab := by
  rw [label?, thing?_append_of_lt (lt_length_of_label? hl)]
  exact hl

theorem component?_append_of_some {c : Component} (hr : s.component? r = some c)
    (cs : List Component) : (s.append cs).component? r = some c := by
  rw [component?, thing?_append_of_lt (lt_length_of_component? hr)]
  exact hr

/-- The parts of a layout are new components of the canvas of their label, at some places among
those that are made. -/
theorem laidOut_append (hl : s.label? l = some lab) {cs : List Component} {places : List Nat}
    (hshows : List.Forall₂ (s.append cs).Shows (places.map (s.next + ·)) iss) :
    s.LaidOut l lab iss ((s.append cs).put l
      (.label { lab with components := lab.components ++ places.map (s.next + ·) })) where
  parts := by
    have there := label?_append hl cs
    exact ⟨_, label?_put_self (lt_length_of_label? there) _,
      hshows.imp fun _ _ shows => shows.put_label there _⟩
  kept := fun _ _ hq =>
    component?_put_label (label?_append hl cs) (component?_append_of_some hq cs) _
  attached := rfl
  events := rfl

end Store

namespace Template

open Zpl.Action

variable {around : Surroundings} {s : Store} {l : Ref} {lab : Label} {width height : Int}

/-- The parts of a layout are added to its label, and then the code of the label is generated. -/
theorem addTo_eq (h : s.HasCanvas l lab width height) (hwidth : 0 < width) {cs : List Component}
    {places : List Nat} (hplaces : ∀ n ∈ places, n < cs.length)
    (hcs : ∀ c ∈ cs, c.labelWidth = .int width) :
    addTo (.object l) (places.map (s.next + ·)) around (s.append cs) =
      (do return .text (← code l) : Action Value) around ((s.append cs).put l
        (.label { lab with components := lab.components ++ places.map (s.next + ·) })) := by
  have genuine : (s.append cs).IsGenuine := h.genuine.congr rfl
  have there := Store.label?_append h.label cs
  have canvases : ∀ r ∈ places.map (s.next + ·), ∃ c width,
      (s.append cs).component? r = some c ∧ c.labelWidth = .int width ∧ width ≠ 0 := by
    intro r hr
    obtain ⟨n, hn, rfl⟩ := List.mem_map.1 hr
    have some := List.getElem?_eq_getElem (hplaces n hn)
    exact ⟨_, _, (Store.component?_append s cs n).trans some,
      hcs _ (List.getElem_mem (hplaces n hn)), Int.ne_of_gt hwidth⟩
  have added : addComponents l _ around (s.append cs) = _ :=
    addComponents_eq_ok genuine there canvases
  have adding : "add_all_components" ∈ Store.calledNames := by decide
  have coding : "get_label_code" ∈ Store.calledNames := by decide
  refine bind_eq (dispatchUnitOn_eq_ok genuine adding there added) ?_
  have labeled := Store.label?_put_self (Store.lt_length_of_label? there)
    { lab with components := lab.components ++ places.map (s.next + ·) }
  generalize hlaid : (s.append cs).put l _ = laid at labeled ⊢
  have genuine : laid.IsGenuine := genuine.congr (hlaid ▸ rfl)
  exact dispatchOn_eq genuine coding labeled [] fun r _ => do return .text (← code r)

/-- The parts of the layout of two lines show their imprints. -/
theorem twoLines_shows (s : Store) (width height : Int) (centered : Bool) (t u d : Text) :
    List.Forall₂ (s.append (twoLinesParts s.next width height centered t u d)).Shows
      ([4, 0, 1, 2].map (s.next + ·)) (twoLinesImprints width height centered t u d) :=
  .cons (.alone (Store.component?_append s _ 4) (Outline.prints_on _ _ _ _ _) nofun) <|
  .cons (.alone (Store.component?_append s _ 0) (Line.prints_on _ _ _) nofun) <|
  .cons (.alone (Store.component?_append s _ 1) (Line.prints_on _ _ _) nofun) <|
  .cons (.backed (Store.component?_append s _ 2) (Bars.prints_on _ _ _ _) rfl rfl
    (Store.component?_append s _ 3) (Outline.prints_on _ _ _ _ _)) .nil

/-- The parts of the layout of three lines show their imprints. -/
theorem threeLines_shows (s : Store) (width height : Int) (t u i d : Text) :
    List.Forall₂ (s.append (threeLinesParts s.next width height t u i d)).Shows
      ([8, 0, 1, 2, 3, 4, 5, 6].map (s.next + ·)) (threeLinesImprints width height t u i d) :=
  .cons (.alone (Store.component?_append s _ 8) (Outline.prints_on _ _ _ _ _) nofun) <|
  .cons (.alone (Store.component?_append s _ 0) (Line.prints_on _ _ _) nofun) <|
  .cons (.alone (Store.component?_append s _ 1) (Outline.prints_on _ _ _ _ _) nofun) <|
  .cons (.alone (Store.component?_append s _ 2) (Outline.prints_on _ _ _ _ _) nofun) <|
  .cons (.alone (Store.component?_append s _ 3) (Outline.prints_on _ _ _ _ _) nofun) <|
  .cons (.alone (Store.component?_append s _ 4) (Line.prints_on _ _ _) nofun) <|
  .cons (.alone (Store.component?_append s _ 5) (Line.prints_on _ _ _) nofun) <|
  .cons (.backed (Store.component?_append s _ 6) (Bars.prints_on _ _ _ _) rfl rfl
    (Store.component?_append s _ 7) (Outline.prints_on _ _ _ _ _)) .nil

section

variable (h : s.HasCanvas l lab width height) (hwidth : 0 < width) (hheight : 0 < height)

include h hwidth hheight

/-- On a canvas with room to print, the template of two lines lays out its parts and gives the code
of the label. -/
theorem twoLines_laidOut (centered : Bool) {title subtitle data : Value} {t u d : Text}
    (ht : title.Spells t) (hu : subtitle.Spells u) (hd : data.Spells d) :
    ∃ laid, s.LaidOut l lab (twoLinesImprints width height centered t u d) laid ∧
      twoLines (.object l) (.bool centered) title subtitle data around s =
        (do return .text (← code l) : Action Value) around laid := by
  refine ⟨_, Store.laidOut_append h.label (twoLines_shows s width height centered t u d), ?_⟩
  rw [twoLines_parts h hwidth hheight centered ht hu hd]
  exact addTo_eq h hwidth (by simp [twoLinesParts])
    (by simp [twoLinesParts, Line.on, Outline.on, Bars.on, heading])

/-- On a canvas with room to print, the template of three lines lays out its parts and gives the
code of the label. -/
theorem threeLines_laidOut {title subtitle information data : Value} {t u i d : Text}
    (ht : title.Spells t) (hu : subtitle.Spells u) (hi : information.Spells i)
    (hd : data.Spells d) :
    ∃ laid, s.LaidOut l lab (threeLinesImprints width height t u i d) laid ∧
      threeLines (.object l) title subtitle information data around s =
        (do return .text (← code l) : Action Value) around laid := by
  refine ⟨_, Store.laidOut_append h.label (threeLines_shows s width height t u i d), ?_⟩
  rw [threeLines_parts h hwidth hheight ht hu hi hd]
  exact addTo_eq h hwidth (by simp [threeLinesParts])
    (by simp [threeLinesParts, Line.on, Outline.on, Bars.on, heading])

end

end Template

end Zpl
