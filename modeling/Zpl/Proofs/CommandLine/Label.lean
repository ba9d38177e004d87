import Zpl.CommandLine.Run
import Zpl.Proofs.CommandLine.Request
import Zpl.Proofs.Label.Template
import Zpl.Proofs.Text.Encoding

/-!
# The label that a command line asks for

On a canvas with room to print, the text of a label is known in full: its imprints, each on a line
of its own, in a frame unless the label is asked for without one. Numbers with too many digits
cannot be written; nothing else can go wrong. Without room to print there is no text.

The template generates the code of the label, and for a document it is generated once more. Both
come to the same text, as generating code changes instructions at most.

## Main definitions

* `LabelRequest.HasCanvas` — the canvas that a label is asked for on.
* `Layout.Prints` — what a layout prints on a canvas.
* `documentOf` — the text of a label.

## Main results

* `Program.makeLabel_spec` — the label of a request has this text.
* `Program.makeLabel_eq_empty` — on a canvas without room to print it has none.
-/

namespace Zpl

/-- An imprint has an encoding if its payload has one. -/
theorem Imprint.hasEncoding_text {i : Imprint} (h : i.payload.HasEncoding) :
    i.text.HasEncoding := by
  have parameters := Imprint.forall_mem_parameters (fun _ plain => plain.hasEncoding) h
  intro c hc
  obtain ⟨command, hcommand, hc⟩ := List.mem_flatMap.1 hc
  exact Command.hasEncoding_render (parameters command hcommand) c hc

namespace CommandLine

namespace Layout

/-- What a layout prints on a canvas. -/
inductive Prints (width height : Int) : Layout → List (List Imprint) → Prop where
  | twoLines {title subtitle barcode : Value} {t u d : Text} (centered : Bool)
      (ht : title.Spells t) (hu : subtitle.Spells u) (hd : barcode.Spells d) :
      Prints width height (.twoLines centered title subtitle barcode)
        (Template.twoLinesImprints width height centered t u d)
  | threeLines {title subtitle information barcode : Value} {t u i d : Text}
      (ht : title.Spells t) (hu : subtitle.Spells u) (hi : information.Spells i)
      (hd : barcode.Spells d) :
      Prints width height (.threeLines title subtitle information barcode)
        (Template.threeLinesImprints width height t u i d)

/-- A layout with all of its texts prints something. -/
theorem IsSpelled.prints {layout : Layout} (h : layout.IsSpelled) (width height : Int) :
    ∃ iss, Prints width height layout iss := by
  cases layout with
  | twoLines centered title subtitle barcode =>
    obtain ⟨t, ht⟩ := h title (by simp [texts])
    obtain ⟨u, hu⟩ := h subtitle (by simp [texts])
    obtain ⟨d, hd⟩ := h barcode (by simp [texts])
    exact ⟨_, .twoLines centered ht hu hd⟩
  | threeLines title subtitle information barcode =>
    obtain ⟨t, ht⟩ := h title (by simp [texts])
    obtain ⟨u, hu⟩ := h subtitle (by simp [texts])
    obtain ⟨i, hi⟩ := h information (by simp [texts])
    obtain ⟨d, hd⟩ := h barcode (by simp [texts])
    exact ⟨_, .threeLines ht hu hi hd⟩

end Layout

/-- The whole numbers that a label shows. A frame shows the size of the canvas. -/
def numbersOf (framed : Bool) (width height : Int) (iss : List (List Imprint)) : List Int :=
  (if framed then [width, height] else []) ++ iss.flatten.flatMap Imprint.numbers

/-- Imprints, each on a line of its own. -/
def bodyOf (iss : List (List Imprint)) : Text := Text.join "\n" (iss.flatten.map Imprint.text)

/-- The text of a label: its imprints, in a frame if that is asked for. -/
def documentOf (framed : Bool) (width height : Int) (iss : List (List Imprint)) : Text :=
  if framed then Action.framed (Text.ofInt width) (Text.ofInt height) (bodyOf iss) else bodyOf iss

/-- A document with its line break is its frame around the text of the same label without one. -/
theorem documentOf_framed (width height : Int) {iss : List (List Imprint)} (hne : bodyOf iss ≠ []) :
    (documentOf true width height iss ++ "\n" : Text) =
      "^XA\n^PW" ++ Text.ofInt width ++ "\n^LL" ++ Text.ofInt height ++ "\n" ++
        (documentOf false width height iss ++ "\n") ++ "^XZ\n" := by
  have some : (bodyOf iss).isEmpty = false := List.isEmpty_eq_false_iff.2 hne
  simp only [documentOf, Action.framed, some]
  simp [Text.join_cons_cons, Command.render, Command.code, Command.parameters, Text.ofString,
    Text.ofChars]

/-- All texts of a layout have an encoding. -/
def Layout.HasEncoding (layout : Layout) : Prop :=
  ∀ v ∈ layout.texts, ∀ t, v.Spells t → t.HasEncoding

/-- What is printed of a layout whose texts have an encoding has one. -/
theorem Layout.Prints.hasEncoding {width height : Int} {layout : Layout}
    {iss : List (List Imprint)} (h : layout.Prints width height iss)
    (hencoding : layout.HasEncoding) : ∀ i ∈ iss.flatten, i.payload.HasEncoding := by
  have outline (o : Outline) : (Imprint.outline o).payload.HasEncoding := by
    simp [Imprint.payload, Text.HasEncoding]
  cases h with
  | twoLines centered ht hu hd =>
    simp only [HasEncoding, texts, List.forall_mem_cons] at hencoding
    obtain ⟨title, subtitle, barcode, -⟩ := hencoding
    simpa [Template.twoLinesImprints, outline] using
      ⟨title _ ht, subtitle _ hu, barcode _ hd⟩
  | threeLines ht hu hi hd =>
    simp only [HasEncoding, texts, List.forall_mem_cons] at hencoding
    obtain ⟨title, subtitle, information, barcode, -⟩ := hencoding
    simpa [Template.threeLinesImprints, outline] using
      ⟨title _ ht, subtitle _ hu, information _ hi, barcode _ hd⟩

/-- A label whose texts have an encoding has one. -/
theorem hasEncoding_documentOf {iss : List (List Imprint)}
    (h : ∀ i ∈ iss.flatten, i.payload.HasEncoding) (framed : Bool) (width height : Int) :
    (documentOf framed width height iss).HasEncoding := by
  have newline : Text.HasEncoding "\n" := Text.hasEncoding_ofString _
  have body : (bodyOf iss).HasEncoding :=
    Text.forall_mem_join newline <|
      List.forall_mem_map.2 fun i hi => Imprint.hasEncoding_text (h i hi)
  unfold documentOf
  split
  · refine Text.forall_mem_join newline ?_
    have size (n : Int) : (Text.ofInt n).HasEncoding := Text.hasEncoding_ofInt n
    have start : Command.startFormat.render.HasEncoding := by decide
    have finish : Command.endFormat.render.HasEncoding := by decide
    have printWidth := Command.hasEncoding_render (c := .printWidth (Text.ofInt width)) (size width)
    have labelLength :=
      Command.hasEncoding_render (c := .labelLength (Text.ofInt height)) (size height)
    refine List.forall_mem_append.2 ⟨List.forall_mem_append.2 ⟨?_, ?_⟩,
      List.forall_mem_singleton.2 finish⟩
    · exact List.forall_mem_cons.2 ⟨start, List.forall_mem_cons.2 ⟨printWidth,
        List.forall_mem_singleton.2 labelLength⟩⟩
    · split
      · simp
      · exact List.forall_mem_singleton.2 body
  · exact body

/-- The canvas that a label is asked for on has a size in whole dots, for however much there is
memory. -/
def LabelRequest.HasCanvas (q : LabelRequest) (width height : Int) : Prop :=
  ∃ dpi, ∀ capacity, Label.ofInches capacity .empty q.width q.height q.dpi =
    .ok { dpi := dpi, labelWidth := .int width, labelHeight := .int height }

end CommandLine

namespace Program

open Zpl.Action CommandLine

variable {q : LabelRequest} {width height : Int} {iss : List (List Imprint)}
  {around : Surroundings}

/-- The template of a layout, on a label. -/
def template (layout : Layout) (label : Ref) : Action Value :=
  match layout with
  | .twoLines centered title subtitle barcode =>
    Template.twoLines (.object label) (.bool centered) title subtitle barcode
  | .threeLines title subtitle information barcode =>
    Template.threeLines (.object label) title subtitle information barcode

/-- What becomes of the code of a label. -/
def finish (q : LabelRequest) (label : Ref) (code : Value) : Action Text := do
  let code ← (Writing.textOf code : Except Fault Text)
  if code.isEmpty then return []
  else if q.framed then Action.document label
  else return code

theorem makeLabel_eq (q : LabelRequest) :
    makeLabel q = (do
      let made ← Label.ofInches (← Action.capacity) (← Action.directory) q.width q.height q.dpi
      let label ← Action.add (.label made)
      let code ← template q.layout label
      finish q label code) := by
  obtain ⟨layout, width, height, dpi, output?, framed, sent, copies⟩ := q
  cases layout <;> rfl

variable {s : Store} {l : Ref} {lab : Label}

/-- A template lays its parts out on a canvas with room to print. -/
theorem template_laidOut (h : s.HasCanvas l lab width height) (hwidth : 0 < width)
    (hheight : 0 < height) {layout : Layout} (hprints : layout.Prints width height iss) :
    ∃ laid, s.LaidOut l lab iss laid ∧
      template layout l around s = (do return .text (← code l) : Action Value) around laid := by
  cases hprints with
  | twoLines centered ht hu hd =>
    exact Template.twoLines_laidOut h hwidth hheight centered ht hu hd
  | threeLines ht hu hi hd => exact Template.threeLines_laidOut h hwidth hheight ht hu hi hd

/-- A template does nothing on any other canvas, apart from a warning. -/
theorem template_eq_empty (h : s.HasCanvas l lab width height)
    (hsize : ¬ (0 < width ∧ 0 < height)) (layout : Layout) :
    template layout l around s = .ok (.text []) { s with
      events := s.events ++ [.log .warning .template
        "Create a valid label first; returning empty label code"] } := by
  cases layout with
  | twoLines => exact Template.onCanvas_eq_empty h hsize _
  | threeLines => exact Template.onCanvas_eq_empty h hsize _

/-- A label prints something, whatever its texts are. -/
theorem bodyOf_ne_nil {layout : Layout} (h : layout.Prints width height iss) :
    bodyOf iss ≠ [] := by
  have begins (i : Imprint) (is : List Imprint) :
      Text.join "\n" ((i :: is).map Imprint.text) ≠ [] := by
    intro hnil
    have first := Text.isPrefix_join "\n" i.text (is.map Imprint.text)
    rw [← List.map_cons, hnil, List.prefix_nil] at first
    cases first
  cases h with
  | twoLines centered ht hu hd => exact begins _ _
  | threeLines ht hu hi hd => exact begins _ _

/-- What becomes of the code of a label whose components show imprints, where the log is not
strict. -/
theorem outcome_finish (lenient : around.isStrict = false) (hs : s.IsGenuine)
    (hl : s.label? l = some lab) (hwidth : lab.labelWidth = .int width)
    (hheight : lab.labelHeight = .int height)
    (hshows : List.Forall₂ s.Shows lab.components iss) (hne : bodyOf iss ≠ []) :
    (do finish q l (← (do return .text (← code l) : Action Value))).outcome around s =
      Decimal.showing (numbersOf q.framed width height iss)
        (documentOf q.framed width height iss) := by
  have hd := Store.isDrawable_of_shows hshows
  have hcode := (outcome_code hs hl hd around).trans
    (Store.codeNoted_of_shows hwidth hheight hshows around.isStrict)
  rw [lenient, if_neg Bool.false_ne_true, List.append_nil] at hcode
  have again := regenerated_code hs hl hd around
  generalize ht : (code l).after around s = t at again
  have first : (do return .text (← code l) : Action Value).outcome around s =
      Decimal.showing (iss.flatten.flatMap Imprint.numbers ++ []) (.text (bodyOf iss)) :=
    outcome_bind_eq_showing hcode ht rfl
  have hafter : (do return .text (← code l) : Action Value).after around s = t := by
    rw [after_bind, ht]
    split <;> rfl
  have finishes : finish q l (.text (bodyOf iss)) =
      if q.framed then Action.document l else pure (bodyOf iss) := by
    have reads : finish q l (.text (bodyOf iss)) =
        if (bodyOf iss).isEmpty then pure []
        else if q.framed then Action.document l else pure (bodyOf iss) := rfl
    rw [reads, List.isEmpty_eq_false_iff.2 hne, if_neg Bool.false_ne_true]
  cases hframed : q.framed with
  | false =>
    have last : (finish q l (.text (bodyOf iss))).outcome around t =
        Decimal.showing [] (bodyOf iss) := by
      rw [finishes, hframed]
      rfl
    refine (outcome_bind_eq_showing first hafter last).trans (Decimal.showing_congr (fun n => ?_) _)
    simp only [numbersOf, List.append_nil, List.mem_append]
    grind
  | true =>
    have last : (finish q l (.text (bodyOf iss))).outcome around t =
        Decimal.showing (numbersOf true width height iss) (documentOf true width height iss) := by
      rw [finishes, hframed]
      exact outcome_document (again.isGenuine hs) ((again.label? l).trans hl) hwidth hheight
        (hshows.imp fun _ _ shows => shows.reprinted again.toReprinted) around
    refine (outcome_bind_eq_showing first hafter last).trans (Decimal.showing_congr (fun n => ?_) _)
    simp only [numbersOf, List.append_nil, List.mem_append]
    grind

theorem regenerates_finish (q : LabelRequest) (l : Ref) (v : Value) :
    (finish q l v).Regenerates := by
  refine .bind (.lift _) fun code => ?_
  split
  · exact .pure _
  · split
    · exact regenerates_document l
    · exact .pure _

/-- The label of a request before anything is on it. -/
def blank (dpi : Value) (width height : Int) : Store :=
  { things := [.label { dpi := dpi, labelWidth := .int width, labelHeight := .int height }] }

theorem hasCanvas_blank (dpi : Value) (width height : Int) :
    (blank dpi width height).HasCanvas 0
      { dpi := dpi, labelWidth := .int width, labelHeight := .int height } width height :=
  ⟨fun _ _ _ => rfl, rfl, rfl, rfl, fun _ _ => rfl⟩

/-- The label of a request is made before its template is carried out. -/
theorem makeLabel_apply {dpi : Value}
    (h : ∀ capacity, Label.ofInches capacity .empty q.width q.height q.dpi =
      .ok { dpi := dpi, labelWidth := .int width, labelHeight := .int height }) :
    makeLabel q around {} =
      (template q.layout 0 >>= finish q 0) around (blank dpi width height) := by
  rw [makeLabel_eq]
  have directory : ({} : Store).directory = .empty := rfl
  refine bind_eq rfl (bind_eq rfl (bind_eq (t := {}) ?_
    (bind_eq (a := 0) (t := blank dpi width height) rfl rfl)))
  rw [directory, h]
  rfl

section

variable (hcanvas : q.HasCanvas width height)

include hcanvas

/-- On a canvas with room to print, a label has the text that shows all of its imprints, where the
log is not strict. -/
theorem makeLabel_spec (hwidth : 0 < width) (hheight : 0 < height)
    (hprints : q.layout.Prints width height iss) (lenient : around.isStrict = false) :
    (makeLabel q).outcome around {} =
        Decimal.showing (numbersOf q.framed width height iss)
          (documentOf q.framed width height iss) ∧
      ((makeLabel q).after around {}).attached = [] ∧
      Event.links ((makeLabel q).after around {}).events = [] := by
  obtain ⟨dpi, hdpi⟩ := hcanvas
  obtain ⟨laid, hlaid, htemplate⟩ : ∃ laid, _ ∧ template q.layout 0 around _ = _ :=
    template_laidOut (hasCanvas_blank dpi width height) hwidth hheight hprints
  obtain ⟨rs, hlabel, hshows⟩ := hlaid.parts
  have genuine : laid.IsGenuine := (hasCanvas_blank dpi width height).genuine.congr hlaid.attached
  have made : makeLabel q around {} =
      (do finish q 0 (← (do return .text (← code 0) : Action Value))) around laid := by
    rw [makeLabel_apply hdpi, bind_apply, htemplate, ← bind_apply]
  have regenerates : (do finish q 0 (← (do return .text (← code 0) : Action Value))).Regenerates :=
    ((regenerates_code 0).bind fun _ => .pure _).bind (regenerates_finish q 0)
  have after := regenerates around laid genuine
  rw [outcome_congr made, after_congr made, after.links, after.attached, hlaid.attached,
    hlaid.events]
  exact ⟨outcome_finish lenient genuine hlabel rfl rfl hshows (bodyOf_ne_nil hprints), rfl, rfl⟩

/-- On a canvas without room to print, a label has no text, and no link is used to find that out. -/
theorem makeLabel_of_noRoom (hsize : ¬ (0 < width ∧ 0 < height)) (around : Surroundings) :
    ∃ t, makeLabel q around {} = .ok [] t ∧ Event.links t.events = [] := by
  obtain ⟨dpi, hdpi⟩ := hcanvas
  exact ⟨_, (makeLabel_apply hdpi).trans
    (bind_eq (template_eq_empty (hasCanvas_blank dpi width height) hsize q.layout) rfl), rfl⟩

end

end Program

end Zpl
