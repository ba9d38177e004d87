import Zpl.Proofs.Label.Template
import Zpl.Proofs.Value.Numeral

/-!
# Templates only append

A template leaves a label with the components that it had, followed by the parts of the layout, and
its result is the code that the label had, followed by the lines of the layout. The lines are known
character by character, and so is the store: it is the old one with the parts at its end, and with
new instructions in what the label lists.

The one thing in the way is the length of numbers. All that a layout shows lies within the canvas or
depends on the length of the barcode, so it can be written if these can.

## Main definitions

* `Template.twoLinesCode`, `threeLinesCode` — the lines of the layouts.
* `Template.Composes` — a template appends parts to a label, and lines to its code.

## Main results

* `Template.composes` — what both templates append, on any canvas with room to print.
-/

namespace Zpl

namespace Decimal

/-- What shows numbers that can be written shows them. -/
theorem showing_of_isWritable {α : Type} {ns : List Int} (h : ∀ n ∈ ns, isWritable n = true)
    (a : α) : showing ns a = .ok a := by
  rw [showing, List.all_eq_true.2 h]
  rfl

end Decimal

/-! ### Code that grows at its end -/

/-- The code of a label that gets more lines: those that were there, if anything was, come first. -/
def Label.codeWith (lab : Label) (old : Text) (lines : List Text) : Text :=
  let first : Text := if lab.components = [] then [] else old ++ "\n"
  first ++ Text.join "\n" lines

namespace Writing

theorem joined_texts (ts : List Text) : joined (ts.map .text) = .ok (Text.join "\n" ts) := by
  rw [joined, mapM_textOf]
  rfl

/-- Further lines of text stand after those that were there. -/
theorem joined_append {vs : List Value} {ts : List Text} (hv : vs ≠ []) (ht : ts ≠ []) :
    joined (vs ++ ts.map .text) = (joined vs).map (· ++ "\n" ++ Text.join "\n" ts) := by
  induction vs with
  | nil => exact absurd rfl hv
  | cons v vs ih =>
    rw [List.cons_append]
    by_cases hvs : vs = []
    · rw [hvs, List.nil_append, joined_cons (by simpa using ht), joined_singleton, joined_texts]
      cases textOf v <;> rfl
    · rw [joined_cons (by simp [hvs]), joined_cons hvs, ih hvs]
      cases textOf v with
      | error fault => rfl
      | ok t =>
        cases joined vs with
        | error fault => rfl
        | ok u => exact congrArg Except.ok (by simp)

end Writing

namespace Store

variable {s t : Store} {l r : Ref} {lab : Label}

/-- A component that can be drawn is drawn as before where all components are kept. -/
theorem IsDrawable.kept (h : s.IsDrawable r)
    (hkept : ∀ q c, s.component? q = some c → t.component? q = some c) :
    t.IsDrawable r ∧ t.layers r = s.layers r ∧
      (t.component? r).bind (·.background?) = (s.component? r).bind (·.background?) := by
  cases h with
  | alone there plain nothing =>
    have still := hkept _ _ there
    have none := Component.background?_eq_none nothing
    exact ⟨.alone still plain nothing, by rw [layers_alone still none, layers_alone there none],
      by rw [still, there]⟩
  | backed there plain kind behind present plainBehind shape =>
    have still := hkept _ _ there
    have stays := hkept _ _ present
    have some := Component.background?_of_kind kind behind
    exact ⟨.backed still plain kind behind stays plainBehind shape,
      by rw [layers_backed still some stays, layers_backed there some present],
      by rw [still, there]⟩

/-- What is touched on a label with more components lies among what was touched already, or is as
new as they are. -/
theorem touchedBy_append {rs : List Ref} {q : Ref} (hd : ∀ r ∈ lab.components, s.IsDrawable r)
    (hkept : ∀ q c, s.component? q = some c → t.component? q = some c)
    (hnew : ∀ r ∈ rs, s.next ≤ r ∧
      ∀ q, (t.component? r).bind (·.background?) = some q → s.next ≤ q)
    (h : t.touchedBy (lab.components ++ rs) q) : s.touchedBy lab.components q ∨ s.next ≤ q := by
  obtain ⟨r, hr, hq⟩ := h
  rcases List.mem_append.1 hr with old | new
  · rw [((hd r old).kept hkept).2.2] at hq
    exact .inl ⟨r, old, hq⟩
  · rcases hq with rfl | hq
    · exact .inr (hnew _ new).1
    · exact .inr ((hnew r new).2 q hq)

theorem IsDrawable.layers_ne_nil (h : s.IsDrawable r) : s.layers r ≠ [] := by
  rcases h.layers with ⟨c, hr⟩ | ⟨c, d, hr, -⟩ <;> simp [hr]

/-- There are as many lines as layers, if there are any. -/
theorem lines_ne_nil {cs : List Component} {vs : List Value} (hcs : cs ≠ [])
    (hvs : cs.mapM Component.line = .ok vs) : vs ≠ [] := by
  obtain ⟨c, cs, rfl⟩ := List.exists_cons_of_ne_nil hcs
  rintro rfl
  rw [List.mapM_cons] at hvs
  simp only [bind, Except.bind, pure, Except.pure] at hvs
  split at hvs
  · cases hvs
  · split at hvs <;> cases hvs

/-- On a label with more components, the code is followed by their lines. -/
theorem codeNoted_append {isStrict : Bool} {rs : List Ref} {ts : List Text}
    (hd : ∀ r ∈ lab.components, s.IsDrawable r)
    (hkept : ∀ q c, s.component? q = some c → t.component? q = some c)
    (hnew : (rs.flatMap t.layers).mapM Component.line = .ok (ts.map .text)) (hts : ts ≠ [])
    (hnoted : lab.noted isStrict = .ok ()) :
    t.codeNoted isStrict { lab with components := lab.components ++ rs } =
      (s.codeNoted isStrict lab).map (lab.codeWith · ts) := by
  have same : lab.components.flatMap t.layers = lab.components.flatMap s.layers :=
    List.flatMap_congr fun r hr => ((hd r hr).kept hkept).2.1
  have noted : ({ lab with components := lab.components ++ rs } : Label).noted isStrict = .ok () :=
    hnoted
  rw [codeNoted, codeNoted, List.flatMap_append, List.mapM_append, hnew, same, noted, hnoted]
  cases hlines : (lab.components.flatMap s.layers).mapM Component.line with
  | error fault => rfl
  | ok vs =>
    change Writing.joined (vs ++ ts.map .text) = (Writing.joined vs).map (lab.codeWith · ts)
    by_cases hempty : lab.components = []
    · rw [hempty] at hlines
      obtain rfl : [] = vs := Except.ok.inj hlines
      rw [List.nil_append, Writing.joined_texts]
      simp [Writing.joined, Label.codeWith, hempty, Except.map, pure, Except.pure]
    · have some : lab.components.flatMap s.layers ≠ [] := by
        obtain ⟨r, rest, hr⟩ := List.exists_cons_of_ne_nil hempty
        rw [hr, List.flatMap_cons]
        exact List.append_ne_nil_of_left_ne_nil (hd r (by simp [hr])).layers_ne_nil _
      rw [Writing.joined_append (lines_ne_nil some hlines) hts]
      simp only [Label.codeWith, if_neg hempty]

end Store

namespace Template

open Zpl.Action

variable {around : Surroundings} {s : Store} {l : Ref} {lab : Label} {width height : Int}

/-! ### The lines of the layouts -/

/-- The lines of the layout of two lines. -/
def twoLinesCode (width height : Int) (centered : Bool) (title subtitle data : Text) :
    List Text :=
  let dots := Text.ofInt
  let x : Text := if centered then "0" else "40"
  let alignment : Text := if centered then "C" else "L"
  let length : Int := (34 + 11 * data.length) * 2
  let left := (width - length).tdiv 2
  ["^FO20,20^GB" ++ dots (width - 40) ++ "," ++ dots (height - 70) ++ ",2,B,1^FS",
    "^FO" ++ x ++ ",40^A0,30^FB" ++ dots width ++ ",1,0," ++ alignment ++ ",0^FH_^FD" ++ title ++
      "\\&^FS",
    "^FO" ++ x ++ ",70^A0,20^FB" ++ dots width ++ ",1,0," ++ alignment ++ ",0^FH_^FD" ++
      subtitle ++ "\\&^FS",
    "^FO" ++ dots (left - 10) ++ "," ++ dots (height - 90) ++ "^GB" ++ dots (length + 20) ++
      ",80,40,W,0^FS",
    "^FO" ++ dots left ++ "," ++ dots (height - 80) ++ "^BY 2^BCN,60,N,N,N,N^FD" ++ data ++ "^FS"]

/-- The lines of the layout of three lines. -/
def threeLinesCode (width height : Int) (title subtitle information data : Text) : List Text :=
  let dots := Text.ofInt
  let length : Int := (34 + 11 * data.length) * 2
  let left := (width - length).tdiv 2
  ["^FO20,20^GB" ++ dots (width - 40) ++ "," ++ dots (height - 71) ++ ",3,B,1^FS",
    "^FO0,50^A0,70^FB" ++ dots width ++ ",1,0,C,0^FH_^FD" ++ title ++ "\\&^FS",
    "^FO" ++ dots ((width - 140).tdiv 2) ++ ",144^GB140,4,2,B,0^FS",
    "^FO" ++ dots ((width - 36).tdiv 2) ++ ",144^GB36,8,4,W,0^FS",
    "^FO" ++ dots ((width - 18).tdiv 2) ++ ",137^GE18,18,9,B^FS",
    "^FO0,190^A0,40^FB" ++ dots width ++ ",1,0,C,0^FH_^FD" ++ subtitle ++ "\\&^FS",
    "^FO0,230^A0,30^FB" ++ dots width ++ ",1,0,C,0^FH_^FD" ++ information ++ "\\&^FS",
    "^FO" ++ dots (left - 10) ++ "," ++ dots (height - 80) ++ "^GB" ++ dots (length + 20) ++
      ",60,30,W,0^FS",
    "^FO" ++ dots left ++ "," ++ dots (height - 80) ++ "^BY 2^BCN,60,N,N,N,N^FD" ++ data ++ "^FS"]

/-! ### The text of an imprint -/

theorem text_box (x y width height thickness : Int) (color : Color) (radius : Int) :
    Imprint.text (.outline {
        x := x, y := y, width := width, height := height, thickness := thickness, color := color
        figure := .rectangle radius }) =
      "^FO" ++ Text.ofInt x ++ "," ++ Text.ofInt y ++ "^GB" ++ Text.ofInt width ++ "," ++
        Text.ofInt height ++ "," ++ Text.ofInt thickness ++ "," ++ token color ++ "," ++
        Text.ofInt radius ++ "^FS" := by
  simp [Imprint.text, Imprint.commands, Imprint.position, Imprint.body, Outline.body,
    Outline.command, Command.render, Command.code, Command.parameters, Command.list,
    Text.ofString, Text.ofChars]

theorem text_ellipse (x y width height thickness : Int) (color : Color) :
    Imprint.text (.outline {
        x := x, y := y, width := width, height := height, thickness := thickness, color := color
        figure := .ellipse }) =
      "^FO" ++ Text.ofInt x ++ "," ++ Text.ofInt y ++ "^GE" ++ Text.ofInt width ++ "," ++
        Text.ofInt height ++ "," ++ Text.ofInt thickness ++ "," ++ token color ++ "^FS" := by
  simp [Imprint.text, Imprint.commands, Imprint.position, Imprint.body, Outline.body,
    Outline.command, Command.render, Command.code, Command.parameters, Command.list,
    Text.ofString, Text.ofChars]

theorem text_heading (width : Int) (centered : Bool) (y fontSize : Int) (content : Text) :
    Imprint.text (.line (heading width centered y fontSize content)) =
      "^FO" ++ (if centered then "0" else "40" : Text) ++ "," ++ Text.ofInt y ++ "^A0," ++
        Text.ofInt fontSize ++ "^FB" ++ Text.ofInt width ++ ",1,0," ++
        (if centered then "C" else "L" : Text) ++ ",0^FH_^FD" ++ content ++ "\\&^FS" := by
  simp [Imprint.text, Imprint.commands, Imprint.position, Imprint.body, Line.body, heading,
    Command.render, Command.code, Command.parameters, Command.list, Text.ofString, Text.ofChars]
  cases centered <;> rfl

theorem barcodeLength_eq (data : Text) : barcodeLength data = (34 + 11 * data.length) * 2 := by
  simp only [barcodeLength, symbolModules, overheadModules, modulesPerSymbol]
  omega

theorem text_bottomBars (width height : Int) (data : Text) :
    Imprint.text (.bars (bottomBars width height data)) =
      "^FO" ++ Text.ofInt ((width - (34 + 11 * data.length) * 2).tdiv 2) ++ "," ++
        Text.ofInt (height - 80) ++ "^BY 2^BCN,60,N,N,N,N^FD" ++ data ++ "^FS" := by
  have above : height - 60 - 20 = height - 80 := by omega
  simp [Imprint.text, Imprint.commands, Imprint.position, Imprint.body, Bars.body, bottomBars,
    Command.render, Command.code, Command.parameters, Command.list, Text.ofString, Text.ofChars,
    above, barcodeLength_eq]
  rfl

theorem text_mask (width height : Int) (data : Text) (padding : Int) :
    Imprint.text (.outline (mask width height data padding)) =
      "^FO" ++ Text.ofInt ((width - (34 + 11 * data.length) * 2).tdiv 2 - 10) ++ "," ++
        Text.ofInt (height - (80 + padding)) ++ "^GB" ++
        Text.ofInt ((34 + 11 * data.length) * 2 + 20) ++ "," ++ Text.ofInt (60 + padding * 2) ++
        "," ++ Text.ofInt (30 + padding) ++ ",W,0^FS" := by
  have above : height - 60 - 20 - padding = height - (80 + padding) := by omega
  simp only [mask, text_box, barcodeLength_eq, above, List.append_assoc]
  rfl

/-- The imprints of the layout of two lines come to its lines. -/
theorem twoLines_text (width height : Int) (centered : Bool) (title subtitle data : Text) :
    (twoLinesImprints width height centered title subtitle data).flatten.map Imprint.text =
      twoLinesCode width height centered title subtitle data := by
  simp only [twoLinesImprints, twoLinesCode, borderOutline, text_box, text_heading, text_mask,
    text_bottomBars, List.flatten_cons, List.flatten_nil, List.map_cons, List.map_nil,
    List.append_assoc, List.cons_append, List.nil_append]
  rfl

/-- The imprints of the layout of three lines come to its lines. -/
theorem threeLines_text (width height : Int) (title subtitle information data : Text) :
    (threeLinesImprints width height title subtitle information data).flatten.map Imprint.text =
      threeLinesCode width height title subtitle information data := by
  simp only [threeLinesImprints, threeLinesCode, borderOutline, divider, gap, dot, text_box,
    text_ellipse, text_heading, text_mask, text_bottomBars, List.flatten_cons, List.flatten_nil,
    List.map_cons, List.map_nil, List.append_assoc, List.cons_append, List.nil_append]
  rfl

/-! ### Numbers of a layout -/

/-- The numbers that decide whether a layout can be written: the sizes of the canvas, and the width
of the background of the barcode. -/
def IsWritten (width height : Int) (data : Text) : Prop :=
  ∀ n ∈ [width, height, barcodeLength data + 20], Decimal.isWritable n = true

instance (width height : Int) (data : Text) : Decidable (IsWritten width height data) :=
  inferInstanceAs (Decidable (∀ n ∈ [width, height, barcodeLength data + 20], _))

/-- What is small, or no longer than a size that can be written, can be written. -/
theorem IsWritten.isWritable {data : Text} (h : IsWritten width height data) {n : Int}
    (hn : n.natAbs < 10 ^ 4 ∨ n.natAbs ≤ width.natAbs ∨ n.natAbs ≤ height.natAbs ∨
      n.natAbs ≤ (barcodeLength data + 20).natAbs) : Decimal.isWritable n = true := by
  rcases hn with small | across | down | along
  · exact Decimal.isWritable_of_small small
  · exact Decimal.isWritable_of_le (h width (by simp)) across
  · exact Decimal.isWritable_of_le (h height (by simp)) down
  · exact Decimal.isWritable_of_le (h (barcodeLength data + 20) (by simp)) along

theorem natAbs_half (n : Int) : (n.tdiv 2).natAbs = n.natAbs / 2 := Int.natAbs_tdiv n 2

namespace IsWritten

variable {data : Text} (hwidth : 0 < width) (hheight : 0 < height)
  (h : IsWritten width height data)

include hwidth hheight h

theorem border (thickness bottom : Nat) (hthickness : thickness < 100) (hbottom : bottom < 100) :
    ∀ n ∈ (Imprint.outline (borderOutline width height thickness bottom)).numbers,
      Decimal.isWritable n = true := by
  intro n hn
  refine h.isWritable ?_
  simp only [Imprint.numbers, Imprint.position, Imprint.sizes, Outline.sizes, borderOutline,
    List.cons_append, List.nil_append, List.mem_cons, List.not_mem_nil, or_false] at hn
  omega

theorem heading (centered : Bool) (y fontSize : Nat) (content : Text) (hy : y < 1000)
    (hfontSize : fontSize < 1000) :
    ∀ n ∈ (Imprint.line (Template.heading width centered y fontSize content)).numbers,
      Decimal.isWritable n = true := by
  intro n hn
  refine h.isWritable ?_
  simp only [Imprint.numbers, Imprint.position, Imprint.sizes, Template.heading, List.mem_cons,
    List.not_mem_nil, or_false] at hn
  split at hn <;> omega

/-- A small shape in the middle of the canvas. -/
theorem centered {o : Outline} (hx : o.x = (width - o.width).tdiv 2)
    (hsizes : ∀ n ∈ o.y :: o.sizes, n.natAbs < 1000) :
    ∀ n ∈ (Imprint.outline o).numbers, Decimal.isWritable n = true := by
  have half := natAbs_half (width - o.width)
  have small := hsizes o.width (by simp [Outline.sizes])
  refine List.forall_mem_cons.2 ⟨h.isWritable ?_, fun n hn => ?_⟩
  · change o.x.natAbs < _ ∨ o.x.natAbs ≤ _ ∨ o.x.natAbs ≤ _ ∨ o.x.natAbs ≤ _
    rw [hx]
    omega
  · exact Decimal.isWritable_of_small (Nat.lt_trans (hsizes n hn) (by decide))

theorem mask (padding : Nat) (hpadding : padding ≤ 10) :
    ∀ n ∈ (Imprint.outline (Template.mask width height data padding)).numbers,
      Decimal.isWritable n = true := by
  have long := le_barcodeLength data
  have half := natAbs_half (width - barcodeLength data)
  intro n hn
  refine h.isWritable ?_
  simp only [Imprint.numbers, Imprint.position, Imprint.sizes, Outline.sizes, Template.mask,
    List.cons_append, List.nil_append, List.mem_cons, List.not_mem_nil, or_false] at hn
  omega

theorem bottomBars : ∀ n ∈ (Imprint.bars (Template.bottomBars width height data)).numbers,
    Decimal.isWritable n = true := by
  have long := le_barcodeLength data
  have half := natAbs_half (width - barcodeLength data)
  intro n hn
  refine h.isWritable ?_
  simp only [Imprint.numbers, Imprint.position, Imprint.sizes, Template.bottomBars, List.mem_cons,
    List.not_mem_nil, or_false] at hn
  omega

/-- The numbers of the layout of two lines can be written. -/
theorem twoLines (centered : Bool) (title subtitle : Text) :
    ∀ n ∈ (twoLinesImprints width height centered title subtitle data).flatten.flatMap
      Imprint.numbers, Decimal.isWritable n = true := by
  simp only [twoLinesImprints, List.flatten_cons, List.flatten_nil, List.flatMap_cons,
    List.flatMap_nil, List.append_nil, List.cons_append, List.nil_append, List.forall_mem_append]
  exact ⟨h.border hwidth hheight 2 50 (by decide) (by decide),
    h.heading hwidth hheight centered 40 30 title (by decide) (by decide),
    h.heading hwidth hheight centered 70 20 subtitle (by decide) (by decide),
    h.mask hwidth hheight 10 (by decide), h.bottomBars hwidth hheight⟩

/-- The numbers of the layout of three lines can be written. -/
theorem threeLines (title subtitle information : Text) :
    ∀ n ∈ (threeLinesImprints width height title subtitle information data).flatten.flatMap
      Imprint.numbers, Decimal.isWritable n = true := by
  simp only [threeLinesImprints, List.flatten_cons, List.flatten_nil, List.flatMap_cons,
    List.flatMap_nil, List.append_nil, List.cons_append, List.nil_append, List.forall_mem_append]
  exact ⟨h.border hwidth hheight 3 51 (by decide) (by decide),
    h.heading hwidth hheight true 50 70 title (by decide) (by decide),
    h.centered hwidth hheight rfl (by simp [Outline.sizes, divider]),
    h.centered hwidth hheight rfl (by simp [Outline.sizes, gap]),
    h.centered hwidth hheight rfl (by simp [Outline.sizes, dot]),
    h.heading hwidth hheight true 190 40 subtitle (by decide) (by decide),
    h.heading hwidth hheight true 230 30 information (by decide) (by decide),
    h.mask hwidth hheight 0 (by decide), h.bottomBars hwidth hheight⟩

end IsWritten

/-! ### What a template appends -/

/-- A template appends parts to the label `l`, at some places among those that are made, and lines
to its code. Afterwards the store is the old one with the parts at its end, where nothing but
instructions of what the label lists were generated. -/
structure Composes (around : Surroundings) (s : Store) (l : Ref) (lab : Label)
    (parts : List Component) (places : List Nat) (lines : List Text) (template : Action Value) :
    Prop where
  changes : ((s.append parts).put l (.label
      { lab with components := lab.components ++ places.map (s.next + ·) })).Regenerated
    (fun q => s.touchedBy lab.components q ∨ s.next ≤ q) (template.after around s)
  result : template.outcome around s = (do
    let old ← (code l).outcome around s
    return .text (lab.codeWith old lines))

/-- A layout that adds its parts to a label appends them, and the lines of their imprints. -/
theorem composes_addTo {parts : List Component} {places : List Nat} {iss : List (List Imprint)}
    {template : Action Value} (h : s.HasCanvas l lab width height) (hwidth : 0 < width)
    (hd : ∀ r ∈ lab.components, s.IsDrawable r)
    (htemplate : template around s =
      addTo (.object l) (places.map (s.next + ·)) around (s.append parts))
    (hplaces : ∀ n ∈ places, n < parts.length)
    (hparts : ∀ c ∈ parts, c.labelWidth = .int width ∧
      ∀ q, c.background? = some q → s.next ≤ q)
    (hshows : List.Forall₂ (s.append parts).Shows (places.map (s.next + ·)) iss)
    (hlines : iss.flatten ≠ [])
    (hnumbers : ∀ n ∈ width :: height :: iss.flatten.flatMap Imprint.numbers,
      Decimal.isWritable n = true) :
    Composes around s l lab parts places (iss.flatten.map Imprint.text) template := by
  obtain ⟨hw, hnumbers⟩ := List.forall_mem_cons.1 hnumbers
  obtain ⟨hh, hnumbers⟩ := List.forall_mem_cons.1 hnumbers
  have appended := Store.label?_append h.label parts
  have kept := (Store.laidOut_append h.label hshows).kept
  have there := Store.label?_put_self (Store.lt_length_of_label? appended)
    { lab with components := lab.components ++ places.map (s.next + ·) }
  have shows := hshows.imp fun _ _ shows => shows.put_label appended
    (.label { lab with components := lab.components ++ places.map (s.next + ·) })
  have adds : addTo (.object l) (places.map (s.next + ·)) around (s.append parts) = _ :=
    addTo_eq h hwidth hplaces fun c hc => (hparts c hc).1
  rw [← htemplate] at adds
  generalize hlaid : (s.append parts).put l _ = laid at kept there shows adds
  have genuine : laid.IsGenuine := h.genuine.congr (hlaid ▸ rfl)
  have drawable : ∀ r ∈ lab.components ++ places.map (s.next + ·), laid.IsDrawable r :=
    List.forall_mem_append.2
      ⟨fun r hr => ((hd r hr).kept kept).1, Store.isDrawable_of_shows shows⟩
  have new (r : Ref) (hr : r ∈ places.map (s.next + ·)) : s.next ≤ r ∧
      ∀ q, (laid.component? r).bind (·.background?) = some q → s.next ≤ q := by
    obtain ⟨n, hn, rfl⟩ := List.mem_map.1 hr
    have made := (Store.component?_append s parts n).trans
      (List.getElem?_eq_getElem (hplaces n hn))
    have listed := hlaid ▸ Store.component?_put_label appended made _
    rw [listed]
    exact ⟨Nat.le_add_right _ _, (hparts _ (List.getElem_mem (hplaces n hn))).2⟩
  have lines : ((places.map (s.next + ·)).flatMap laid.layers).mapM Component.line =
      .ok ((iss.flatten.map Imprint.text).map .text) := by
    rw [Store.lines_of_shows shows, Decimal.showing_of_isWritable hnumbers, List.map_map]
    rfl
  have whole {n : Int} (hn : Decimal.isWritable n = true) {v : Value} (hv : v = .int n) :
      Writing.wholeText v = .ok (Text.ofInt n) := hv ▸ Decimal.write_of_isWritable hn
  have noted := Label.noted_of_size (whole hw h.width) (whole hh h.height) around.isStrict
  refine ⟨?_, ?_⟩
  · rw [hlaid, after_congr adds, after_bind]
    have changes := (regenerated_code genuine there drawable around).mono fun _ =>
      Store.touchedBy_append hd kept new
    split <;> exact changes
  · rw [outcome_congr adds, outcome_bind, outcome_code genuine there drawable,
      outcome_code h.genuine h.label hd,
      Store.codeNoted_append hd kept lines (by simpa using hlines) noted]
    cases s.codeNoted around.isStrict lab <;> rfl

/-- On a canvas with room to print, the template of two lines appends a border, a title, a subtitle
and a barcode, and the template of three lines a border, a title, a divider, the gap in it, the dot
in the gap, a subtitle, the information and a barcode. What was there keeps everything but its
instruction, and the code of the label gets the lines of the layout. -/
theorem composes (h : s.HasCanvas l lab width height) (hwidth : 0 < width) (hheight : 0 < height)
    (hd : ∀ r ∈ lab.components, s.IsDrawable r) (around : Surroundings) :
    (∀ (centered : Bool) (title subtitle data : Text), IsWritten width height data →
      Composes around s l lab (twoLinesParts s.next width height centered title subtitle data)
        [4, 0, 1, 2] (twoLinesCode width height centered title subtitle data)
        (twoLines (.object l) (.bool centered) (.text title) (.text subtitle) (.text data))) ∧
    (∀ (title subtitle information data : Text), IsWritten width height data →
      Composes around s l lab (threeLinesParts s.next width height title subtitle information data)
        [8, 0, 1, 2, 3, 4, 5, 6] (threeLinesCode width height title subtitle information data)
        (threeLines (.object l) (.text title) (.text subtitle) (.text information)
          (.text data))) := by
  constructor
  · intro centered title subtitle data written
    rw [← twoLines_text]
    refine composes_addTo h hwidth hd
      (twoLines_parts h hwidth hheight centered (.text title) (.text subtitle) (.text data))
      (by simp [twoLinesParts]) ?_ (twoLines_shows s width height centered title subtitle data)
      (List.cons_ne_nil _ _) ?_
    · simp [twoLinesParts, Line.on, Outline.on, Bars.on, heading, Component.background?]
    · exact List.forall_mem_cons.2 ⟨written _ (by simp), List.forall_mem_cons.2
        ⟨written _ (by simp), written.twoLines hwidth hheight centered title subtitle⟩⟩
  · intro title subtitle information data written
    rw [← threeLines_text]
    refine composes_addTo h hwidth hd
      (threeLines_parts h hwidth hheight (.text title) (.text subtitle) (.text information)
        (.text data))
      (by simp [threeLinesParts]) ?_
      (threeLines_shows s width height title subtitle information data)
      (List.cons_ne_nil _ _) ?_
    · simp [threeLinesParts, Line.on, Outline.on, Bars.on, heading, Component.background?]
    · exact List.forall_mem_cons.2 ⟨written _ (by simp), List.forall_mem_cons.2
        ⟨written _ (by simp), written.threeLines hwidth hheight title subtitle information⟩⟩

/-- A label with a line of text on it, of which the instruction was never generated. -/
theorem composes_parcel :
    let lab : Label := { dpi := 203, labelWidth := 812, labelHeight := 1218, components := [0] }
    let s : Store :=
      { things := [
          .component { labelWidth := 812, kind := .text { content := "fragile" } }, .label lab] }
    let around : Surroundings := .within {} s.depth
    (twoLines (.object 1) (.bool true) (.text "T") (.text "S") (.text "123")).outcome around s =
      .ok (.text (Text.join "\n" ["^FO0,0^A0,30^FB812,1,0,L,0^FH_^FDfragile\\&^FS",
        "^FO20,20^GB772,1148,2,B,1^FS", "^FO0,40^A0,30^FB812,1,0,C,0^FH_^FDT\\&^FS",
        "^FO0,70^A0,20^FB812,1,0,C,0^FH_^FDS\\&^FS", "^FO329,1128^GB154,80,40,W,0^FS",
        "^FO339,1138^BY 2^BCN,60,N,N,N,N^FD123^FS"])) := by
  intro lab s around
  have drawable : ∀ r ∈ lab.components, s.IsDrawable r := by
    have line : s.IsDrawable 0 :=
      .alone rfl (by simp [Component.IsPlain, Value.IsPlain]) (by simp)
    simp [lab, line]
  have canvas : s.HasCanvas 1 lab 812 1218 := ⟨fun _ _ _ => rfl, rfl, rfl, rfl, by simp [s]⟩
  have composed := (composes canvas (by decide) (by decide) drawable around).1
    true "T" "S" "123" (by decide)
  have old : (code 1).outcome around s = .ok "^FO0,0^A0,30^FB812,1,0,L,0^FH_^FDfragile\\&^FS" :=
    rfl
  rw [composed.result, old]
  rfl

/-- On a canvas whose width has too many digits to be written there is no code. -/
theorem composes_unwritable :
    let lab : Label := { dpi := 203, labelWidth := .int (10 ^ 4300), labelHeight := 1218 }
    let s : Store := { things := [.label lab] }
    let around : Surroundings := .within {} s.depth
    s.HasCanvas 0 lab (10 ^ 4300) 1218 ∧
      ((twoLines (.object 0) (.bool true) (.text []) (.text []) (.text [])).outcome around
        s).isOk = false ∧
      ((threeLines (.object 0) (.text []) (.text []) (.text []) (.text [])).outcome around
        s).isOk = false :=
  ⟨⟨fun _ _ _ => rfl, rfl, rfl, rfl, by simp⟩, by decide +kernel, by decide +kernel⟩

end Template

end Zpl
