import Zpl.Proofs.Component.Filling
import Zpl.Proofs.Component.Imprint

/-!
# Parts of a layout

A layout is put together from a few kinds of parts: lines of text, rectangles, a dot, a border, and
a barcode over a white background. Each is made from scratch and edited until it stands where it
should, and what comes of that is a component that shows a given imprint. The background is the one
part that looks at another: it is the box of the barcode as it stands, grown by its paddings.

## Main definitions

* `Line.on`, `Outline.on`, `Bars.on` — the component of a layout that shows an imprint.
* `Template.heading`, `borderOutline`, `bottomBars`, `mask` — the imprints of the parts.

## Main results

* `Template.text_eq_ok`, `rectangle_eq_ok`, `ellipse_eq_ok` — the parts that editing starts from.
* `Template.border_eq_ok`, `bottomBarcode_eq_ok` — the parts that are made in one go.
-/

namespace Zpl

/-! ### Components that show an imprint -/

/-- A line of text on a canvas of a height. -/
def Line.on (l : Line) (id : String) (height : Int) : Component :=
  { id := id
    x := .int l.x
    y := .int l.y
    labelWidth := .int l.width
    labelHeight := .int height
    alignment := .text (token l.alignment)
    kind := .text {
      content := l.content, fontSize := l.fontSize, hexEscapes := .bool l.hexEscapes } }

/-- A shape on a canvas. -/
def Outline.on (o : Outline) (id : Text) (width height : Int) (a : Alignment) : Component :=
  { id := .text id
    x := .int o.x
    y := .int o.y
    labelWidth := .int width
    labelHeight := .int height
    alignment := .text (token a)
    kind := .shape {
      figure := o.figure, width := .int o.width, height := .int o.height, thickness := o.thickness,
      color := o.color } }

/-- A barcode on a canvas, before some background. -/
def Bars.on (b : Bars) (width height : Int) (background : Value) : Component :=
  { id := "barcode"
    x := .int b.x
    y := .int b.y
    labelWidth := .int width
    labelHeight := .int height
    alignment := .text (token Alignment.center)
    kind := .barcode {
      data := .text b.data, moduleWidth := b.moduleWidth, barHeight := b.barHeight,
      placement := b.placement, checkDigit := .bool b.checkDigit, mode := b.mode,
      orientation := b.orientation, background := background } }

theorem Line.prints_on (l : Line) (id : String) (height : Int) :
    (l.on id height).Prints (.line l) :=
  .line rfl rfl rfl rfl rfl

theorem Outline.prints_on (o : Outline) (id : Text) (width height : Int) (a : Alignment) :
    (o.on id width height a).Prints (.outline o) := .outline rfl rfl rfl

theorem Bars.prints_on (b : Bars) (width height : Int) (background : Value) :
    (b.on width height background).Prints (.bars b) := .bars rfl rfl rfl

namespace Template

open Zpl.Action Edit

variable {around : Surroundings} {s : Store} {width height : Int}

theorem text_eq_ok {v : Value} {t : Text} (h : v.Spells t) (id : String) :
    text (.int width) (.int height) v id around s = .ok s.next (s.plus
      (Line.on {
        x := 0, y := 0, fontSize := 30, width := width, alignment := .left, hexEscapes := true,
        content := t } id height)) := by
  refine bind_eq (create_eq_ok rfl <| .bind (turns_assign_content rfl rfl h) <|
    .bind (turns_assign_fontSize rfl (by decide)) .pure) ?_
  exact bind_eq (turns_setLabelSize width height) rfl

/-- A rectangle of no size. -/
def emptyOutline : Outline :=
  { x := 0, y := 0, width := 0, height := 0, thickness := 1, color := .black
    figure := .rectangle 0 }

theorem rectangle_eq_ok (id : String) :
    rectangle (.int width) (.int height) id around s =
      .ok s.next (s.plus (emptyOutline.on (Text.ofString id) width height .left)) := by
  refine bind_eq (create_eq_ok rfl (turns_emptyRectangle rfl)) ?_
  exact bind_eq (turns_setLabelSize width height) rfl

theorem ellipse_eq_ok (id : String) :
    create {
      id := id
      labelWidth := .int width
      labelHeight := .int height
      ingredients := .ellipse (.int 0) (.int 0) (.int 1) (.text (Zpl.token Color.black))
    } around s = .ok s.next (s.plus (Outline.on {
      x := 0, y := 0, width := 0, height := 0, thickness := 1, color := .black
      figure := .ellipse } (Text.ofString id) width height .left)) := by
  refine create_eq_ok rfl ?_
  refine .bind (turns_assign_width rfl (by decide)) ?_
  refine .bind (turns_assign_height rfl (by decide)) ?_
  refine .bind (turns_assign_thickness rfl (by decide)) ?_
  refine .bind (turns_assign_color rfl .black) ?_
  rfl

/-- A line of text that is centered or indented. -/
def heading (width : Int) (centered : Bool) (y fontSize : Int) (content : Text) : Line :=
  { x := if centered then 0 else 40, y := y, fontSize := fontSize, width := width
    alignment := if centered then .center else .left, hexEscapes := true, content := content }

theorem turns_place {c : Component} {line : TextLine} (hk : c.kind = .text line)
    (hx : c.x = .int 0) (ha : c.alignment = .text (Zpl.token Alignment.left)) (centered : Bool) :
    (place s.next centered).Turns around s c
      { c with
        x := .int (if centered then 0 else 40)
        alignment := .text (Zpl.token (if centered then Alignment.center else .left)) } := by
  cases c
  cases hk
  cases hx
  cases ha
  cases centered with
  | true => exact turns_setAlignment_text rfl
  | false => exact turns_setMarginLeft (x := 0) rfl 40

/-- A border that fills a canvas but for its margins. -/
def borderOutline (width height thickness bottom : Int) : Outline :=
  { x := 20, y := 20, width := width - 40, height := height - (bottom + 20)
    thickness := thickness, color := .black, figure := .rectangle 1 }

theorem border_eq_ok (hs : s.IsGenuine) (hwidth : 0 ≤ width) (hheight : 0 ≤ height) (id : String)
    {thickness : Int} (hthickness : 0 < thickness) (bottom : Int) :
    border (.int width) (.int height) id thickness (.int bottom) around s =
      .ok s.next (s.plus ((borderOutline width height thickness bottom).on (Text.ofString id)
        width height .left)) := by
  refine bind_eq (rectangle_eq_ok id) ?_
  refine bind_eq (turns_assign_width rfl hwidth) ?_
  refine bind_eq (turns_assign_height rfl hheight) ?_
  refine bind_eq (turns_assign_thickness rfl hthickness) ?_
  refine bind_eq (turns_setMargins (x := 0) (y := 0) hs rfl rfl rfl rfl rfl rfl 20 20 20 bottom) ?_
  exact bind_eq (turns_assign_cornerRadius rfl rfl (by decide) (by decide)) rfl

/-! ### The barcode at the bottom -/

/-- The length by which a barcode of some data is laid out, in modules of two dots. -/
def barcodeLength (data : Text) : Int := symbolModules data.length * 2

theorem le_barcodeLength (data : Text) : 68 ≤ barcodeLength data := by
  simp only [barcodeLength, symbolModules, overheadModules, modulesPerSymbol]
  omega

/-- The barcode at the bottom of a canvas. -/
def bottomBars (width height : Int) (data : Text) : Bars :=
  { x := (width - barcodeLength data).tdiv 2, y := height - 60 - 20, moduleWidth := 2
    barHeight := 60, orientation := .normal, placement := .hidden, checkDigit := false
    mode := .plain, data := data }

/-- The background of the barcode at the bottom, with some padding above and below. -/
def mask (width height : Int) (data : Text) (padding : Int) : Outline :=
  { x := (width - barcodeLength data).tdiv 2 - 10, y := height - 60 - 20 - padding
    width := barcodeLength data + 10 * 2, height := 60 + padding * 2, thickness := 30 + padding
    color := .white, figure := .rectangle 0 }

/-- What the bars at the bottom are aligned by. -/
def bottomMeasures (width height : Int) (data : Text) : Measures :=
  { outerWidth := width, outerHeight := height, width := barcodeLength data, height := 60 }

theorem hasMeasures_bottom {c : Component} (hwidth : c.labelWidth = .int width)
    (hheight : c.labelHeight = .int height) {b : Barcode} (hk : c.kind = .barcode b) {data : Text}
    (hdata : b.data = .text data) (hlength : b.lengthOf data = barcodeLength data)
    (hfootprint : b.footprint = 60) : c.HasMeasures (bottomMeasures width height data) := by
  rw [Component.HasMeasures, hk]
  exact ⟨hwidth, hheight, ⟨data, hdata, hlength⟩, hfootprint⟩

/-- The mask is the rectangle behind the barcode. -/
theorem behind_bottomMeasures (width height : Int) (data : Text) {padding : Int}
    (hpadding : 0 ≤ padding) (hmax : padding ≤ 10) :
    (bottomMeasures width height data).behind ((width - barcodeLength data).tdiv 2)
        (height - 60 - 20) 10 padding .white =
      (mask width height data padding).on [] width height .left := by
  have wide := le_barcodeLength data
  have thickness : (Border.filling (barcodeLength data + 10 * 2) (60 + padding * 2)).thickness =
      30 + padding := by
    rw [Border.thickness_filling]
    omega
  have across : max (0 : Int) 10 = 10 := rfl
  simp only [Measures.behind, Measures.mask, bottomMeasures, across, Int.max_eq_right hpadding,
    thickness]
  rfl

/-- A barcode is given its background. -/
theorem applyBackground_eq_ok (hs : s.IsGenuine) (data : Text) {padding : Int}
    (hpadding : 0 ≤ padding) (hmax : padding ≤ 10) :
    applyBackground s.next (.text (Zpl.token Color.white)) (.int 10) (.int padding) around
        (s.plus ((bottomBars width height data).on width height .none)) =
      .ok (.object (s.next + 1))
        ((s.plus ((bottomBars width height data).on width height (.object (s.next + 1)))).plus
          ((mask width height data padding).on [] width height .left)) := by
  have there := Store.component?_plus s ((bottomBars width height data).on width height .none)
  have measures : ((bottomBars width height data).on width height .none).HasMeasures
      (bottomMeasures width height data) := hasMeasures_bottom rfl rfl rfl rfl rfl rfl
  have sound : ((bottomBars width height data).on width height .none).kind.IsSound :=
    ⟨(by decide : (1 : Int) ≤ 2), (by decide : (1 : Int) ≤ 60), rfl⟩
  have white : Value.IsPlain (.text (Zpl.token Color.white)) := trivial
  rw [applyBackground_eq (hs.plus _) there rfl sound measures rfl rfl white rfl,
    Store.next_plus, Store.put_plus, ← behind_bottomMeasures width height data hpadding hmax]
  rfl

theorem orElse_of_spells {v : Value} {t : Text} (h : v.Spells t) (d : Directory) :
    v.orElse d (.text []) = .text t := by
  cases h with
  | nothing => rfl
  | text t => cases t <;> rfl

/-- The barcode at the bottom is made together with its background. -/
theorem bottomBarcode_eq_ok (hs : s.IsGenuine) {v : Value} {data : Text} (h : v.Spells data)
    {padding : Int} (hpadding : 0 ≤ padding) (hmax : padding ≤ 10) :
    bottomBarcode (.int width) (.int height) v padding around s = .ok s.next
      ((s.plus ((bottomBars width height data).on width height (.object (s.next + 1)))).plus
        ((mask width height data padding).on [] width height .left)) := by
  have blank : Recipe.blank s.directory {
      id := "barcode"
      ingredients := .barcode v (.int 3) (.int 60) (.int TextPlacement.hidden.number) (.bool false)
        (.text (Zpl.token BarcodeMode.plain)) (.text (Zpl.token Orientation.normal)) } =
      .ok { id := "barcode", kind := .barcode { data := .text data } } := by
    simp only [Recipe.blank, Ingredients.initialKind, orElse_of_spells h]
    rfl
  refine bind_eq (t := s.plus { id := "barcode", kind := .barcode { data := .text data } })
    (create_eq_ok blank ?_) ?_
  · refine .bind (turns_assign_moduleWidth rfl (by decide)) ?_
    refine .bind (turns_assign fun sc => rfl) ?_
    refine .bind (turns_assign fun sc => rfl) ?_
    refine .bind (turns_assign fun sc => rfl) ?_
    refine .bind (turns_assign fun sc => rfl) ?_
    rfl
  refine bind_eq (turns_setLabelSize width height) ?_
  refine bind_eq (turns_assign_moduleWidth rfl (by decide)) ?_
  refine bind_eq (turns_setAlignment_bottom hs (hasMeasures_bottom rfl rfl rfl rfl rfl rfl) rfl) ?_
  refine bind_eq (turns_setAlignment_center hs (hasMeasures_bottom rfl rfl rfl rfl rfl rfl) rfl) ?_
  refine bind_eq (turns_setMarginBottom_barcode rfl rfl 20) ?_
  exact bind_eq (applyBackground_eq_ok hs data hpadding hmax) rfl

/-- A barcode whose text does not show takes sixty dots downwards. -/
theorem footprint_eq_ok {r : Ref} {data : Text} {background : Value}
    (hr : s.component? r = some ((bottomBars width height data).on width height background)) :
    footprint r around s = .ok (.int 60) s :=
  bind_eq (component_eq_ok hr around) rfl

end Template

end Zpl
