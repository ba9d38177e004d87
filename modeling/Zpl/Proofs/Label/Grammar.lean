import Zpl.Proofs.Component.Imprint
import Zpl.Proofs.Label.Code
import Zpl.Proofs.Text.Emission

/-!
# The grammar of documents

Where no payload contains a caret, the commands of a document are those that were meant: its start
and the size of the canvas, one field after the other, and its end. No attribute, choice or number
ever contains a caret, so none of them can begin a command, or swallow one.

## Main definitions

* `IsField`, `documentCodes` — the commands of a field, and of a document.
* `Imprint.IsCaretFree` — the payload of an imprint contains no caret.

## Main results

* `Imprint.emits`, `Imprint.isField` — an imprint is printed as one field.
* `Action.outcome_document` — the document of a label.
* `Action.document_grammar` — the commands of a document.
-/

namespace Zpl

/-- The commands of a field: a shape, a line of text or a barcode. -/
inductive IsField : List Text → Prop where
  | box : IsField ["FO", "GB", "FS"]
  | ellipse : IsField ["FO", "GE", "FS"]
  | diagonal : IsField ["FO", "GD", "FS"]
  | line : IsField ["FO", "A0", "FB", "FD", "FS"]
  | escapedLine : IsField ["FO", "A0", "FB", "FH", "FD", "FS"]
  | barcode : IsField ["FO", "BY", "BC", "FD", "FS"]

/-- The commands of a document, around those of its fields. -/
def documentCodes (fields : List Text) : List Text :=
  "XA" :: "PW" :: "LL" :: (fields ++ [Text.ofString "XZ"])

/-- A field is closed once. -/
theorem IsField.count {f : List Text} (h : IsField f) :
    f.count ("FS" : Text) = 1 ∧ f.count ("XA" : Text) = 0 ∧ f.count ("XZ" : Text) = 0 := by
  cases h <;> decide

theorem count_flatten_of_isField {fields : List (List Text)} (h : ∀ f ∈ fields, IsField f) :
    fields.flatten.count ("FS" : Text) = fields.length ∧
      fields.flatten.count ("XA" : Text) = 0 ∧ fields.flatten.count ("XZ" : Text) = 0 := by
  induction fields with
  | nil => simp
  | cons f fields ih =>
    obtain ⟨hf, hfields⟩ := List.forall_mem_cons.1 h
    obtain ⟨separators, starts, ends⟩ := hf.count
    obtain ⟨separators', starts', ends'⟩ := ih hfields
    simp only [List.flatten_cons, List.count_append, List.length_cons]
    omega

/-- A document is started once and ended once, and it has one separator for each field. -/
theorem count_documentCodes {fields : List (List Text)} (h : ∀ f ∈ fields, IsField f) :
    (documentCodes fields.flatten).count ("XA" : Text) = 1 ∧
      (documentCodes fields.flatten).count ("XZ" : Text) = 1 ∧
      (documentCodes fields.flatten).count ("FS" : Text) = fields.length := by
  obtain ⟨separators, starts, ends⟩ := count_flatten_of_isField h
  simp only [documentCodes, List.count_cons, List.count_append, List.count_nil, separators, starts,
    ends]
  refine ⟨by decide, by decide, ?_⟩
  simp [Text.ofString, Text.ofChars]

namespace Imprint

/-- The payload of an imprint contains no caret. -/
def IsCaretFree : Imprint → Prop
  | .outline _ => True
  | .line l => l.content.IsCaretFree
  | .bars b => b.data.IsCaretFree

instance (i : Imprint) : Decidable i.IsCaretFree :=
  match i with
  | .outline _ => .isTrue trivial
  | .line l => inferInstanceAs (Decidable l.content.IsCaretFree)
  | .bars b => inferInstanceAs (Decidable b.data.IsCaretFree)

/-- The codes of the commands that print an imprint. -/
def codes (i : Imprint) : List Text := i.commands.map Command.code

/-- An imprint is printed as one field. -/
theorem isField (i : Imprint) : IsField i.codes := by
  cases i with
  | outline o =>
    obtain ⟨x, y, width, height, thickness, color, figure⟩ := o
    cases figure with
    | rectangle radius => exact .box
    | ellipse => exact .ellipse
    | diagonal slant => exact .diagonal
  | line l =>
    cases hescapes : l.hexEscapes <;>
      simp only [codes, commands, body, Line.body, hescapes]
    · exact .line
    · exact .escapedLine
  | bars b => exact .barcode

/-! ### Parameters -/

@[simp] theorem isPlain_color (c : Color) : (token c).IsPlain := by cases c <;> decide

@[simp] theorem isPlain_slant (s : Slant) : (token s).IsPlain := by cases s <;> decide

@[simp] theorem isPlain_alignment (a : Alignment) : (token a).IsPlain := by cases a <;> decide

@[simp] theorem isPlain_orientation (o : Orientation) : (token o).IsPlain := by cases o <;> decide

@[simp] theorem isPlain_mode (m : BarcodeMode) : (token m).IsPlain := by cases m <;> decide

@[simp] theorem isPlain_flags (p : TextPlacement) : p.flags.IsPlain := by cases p <;> decide

theorem isPlain_list {ps : List Text} (h : ∀ p ∈ ps, p.IsPlain) : (Command.list ps).IsPlain :=
  Text.forall_mem_join (by decide) h

theorem isPlain_command (o : Outline) : o.command.parameters.IsPlain := by
  obtain ⟨x, y, width, height, thickness, color, figure⟩ := o
  cases figure with
  | rectangle radius => exact isPlain_list (by simp)
  | ellipse => exact isPlain_list (by simp)
  | diagonal slant => exact isPlain_list (by simp)

/-- What callers may write into an imprint as they like. -/
def payload : Imprint → Text
  | .outline _ => []
  | .line l => l.content
  | .bars b => b.data

theorem isCaretFree_payload {i : Imprint} (h : i.IsCaretFree) : i.payload.IsCaretFree := by
  cases i with
  | outline o => exact Text.isCaretFree_nil
  | line l => exact h
  | bars b => exact h

variable {P : CodePoint → Prop}

/-- What holds of plain code points and of the payload holds of everything between the origin of a
field and its separator. -/
theorem forall_mem_body (hplain : ∀ t : Text, t.IsPlain → ∀ c ∈ t, P c) {i : Imprint}
    (h : ∀ c ∈ i.payload, P c) : ∀ command ∈ i.body, ∀ c ∈ command.parameters, P c := by
  cases i with
  | outline o => exact List.forall_mem_singleton.2 (hplain _ (isPlain_command o))
  | line l =>
    have digits : Text.IsPlain "1" ∧ Text.IsPlain "0" := by decide
    have font : (Command.font (Text.ofInt l.fontSize)).parameters.IsPlain :=
      isPlain_list (by simp)
    have block :
        (Command.fieldBlock (Text.ofInt l.width) (token l.alignment)).parameters.IsPlain :=
      isPlain_list (by simp [digits])
    have escapes : Command.hexIndicator.parameters.IsPlain := by decide
    have data : ∀ c ∈ (Command.fieldData (l.content ++ "\\&")).parameters, P c :=
      List.forall_mem_append.2 ⟨h, hplain _ (by decide)⟩
    refine List.forall_mem_cons.2 ⟨hplain _ font, List.forall_mem_cons.2 ⟨hplain _ block, ?_⟩⟩
    split
    · exact List.forall_mem_cons.2 ⟨hplain _ escapes, List.forall_mem_singleton.2 data⟩
    · exact List.forall_mem_singleton.2 data
  | bars b =>
    have width : (Command.moduleWidth (Text.ofInt b.moduleWidth)).parameters.IsPlain :=
      List.forall_mem_cons.2 ⟨by decide, Text.isPlain_ofInt _⟩
    have flag : Text.IsPlain (if b.checkDigit then "Y" else "N") := by split <;> decide
    have code : (Command.code128 (token b.orientation) (Text.ofInt b.barHeight) b.placement.flags
        (if b.checkDigit then "Y" else "N") (token b.mode)).parameters.IsPlain :=
      isPlain_list (by simp [flag])
    exact List.forall_mem_cons.2 ⟨hplain _ width, List.forall_mem_cons.2 ⟨hplain _ code,
      List.forall_mem_singleton.2 h⟩⟩

/-- What holds of plain code points and of the payload holds of all parameters. -/
theorem forall_mem_parameters (hplain : ∀ t : Text, t.IsPlain → ∀ c ∈ t, P c) {i : Imprint}
    (h : ∀ c ∈ i.payload, P c) : ∀ command ∈ i.commands, ∀ c ∈ command.parameters, P c := by
  have origin : (Command.fieldOrigin (Text.ofInt i.position.1)
      (Text.ofInt i.position.2)).parameters.IsPlain := isPlain_list (by simp)
  have separator : Command.fieldSeparator.parameters.IsPlain := by decide
  refine List.forall_mem_append.2 ⟨?_, List.forall_mem_singleton.2 (hplain _ separator)⟩
  exact List.forall_mem_cons.2 ⟨hplain _ origin, forall_mem_body hplain h⟩

theorem isCaretFree_parameters {i : Imprint} (h : i.IsCaretFree) :
    ∀ c ∈ i.commands, c.parameters.IsCaretFree :=
  forall_mem_parameters (fun _ plain => plain.isCaretFree) (isCaretFree_payload h)

/-- An imprint without carets in its payload contributes the codes of one field. -/
theorem emits {i : Imprint} (h : i.IsCaretFree) : i.text.Emits i.codes :=
  Command.emits_renderAll (isCaretFree_parameters h)

end Imprint

/-! ### Labels of imprints -/

namespace Store

variable {s : Store} {rs : List Ref} {iss : List (List Imprint)}

theorem isDrawable_of_shows (h : List.Forall₂ s.Shows rs iss) : ∀ r ∈ rs, s.IsDrawable r := by
  induction h with
  | nil => simp
  | cons shows _ ih => exact List.forall_mem_cons.2 ⟨shows.isDrawable, ih⟩

/-- The layers of some components show their imprints. -/
theorem lines_of_shows (h : List.Forall₂ s.Shows rs iss) :
    (rs.flatMap s.layers).mapM Component.line =
      Decimal.showing (iss.flatten.flatMap Imprint.numbers)
        (iss.flatten.map fun i => .text i.text) := by
  induction h with
  | nil => rfl
  | cons shows _ ih =>
    rw [List.flatMap_cons, List.mapM_append, shows.lines_eq, ih]
    simp only [Decimal.pure_eq, Decimal.showing_bind]
    simp

/-- A component shows an imprint, and one more if it has a background. -/
theorem Shows.length_eq {r : Ref} {is : List Imprint} (h : s.Shows r is) :
    is.length = 1 + if ((s.component? r).bind (·.background?)).isSome then 1 else 0 := by
  cases h with
  | alone there prints nothing =>
    simp [there, Component.background?_eq_none nothing]
  | backed there prints kind behind present printsBehind =>
    simp [there, Component.background?_of_kind kind behind]

/-- Components show as many imprints as they are, and one more for each background. -/
theorem length_of_shows (h : List.Forall₂ s.Shows rs iss) :
    iss.flatten.length =
      rs.length + rs.countP fun r => ((s.component? r).bind (·.background?)).isSome := by
  induction h with
  | nil => rfl
  | cons shows _ ih =>
    rw [List.flatten_cons, List.length_append, shows.length_eq, ih, List.countP_cons,
      List.length_cons]
    omega

/-- The code of a label whose components show imprints: these, each on a line of its own. A strict
log needs the size of the label to be written as well. -/
theorem codeNoted_of_shows {lab : Label} {width height : Int} (hwidth : lab.labelWidth = .int width)
    (hheight : lab.labelHeight = .int height) (h : List.Forall₂ s.Shows lab.components iss)
    (isStrict : Bool) :
    s.codeNoted isStrict lab =
      Decimal.showing
        (iss.flatten.flatMap Imprint.numbers ++ if isStrict then [width, height] else [])
        (Text.join "\n" (iss.flatten.map Imprint.text)) := by
  have joins (is : List Imprint) : Writing.joined (is.map fun i => .text i.text) =
      Decimal.showing [] (Text.join "\n" (is.map Imprint.text)) := by
    have texts := Writing.mapM_textOf (is.map Imprint.text)
    rw [List.map_map] at texts
    exact congrArg (Except.map (Text.join "\n")) texts
  have whole (n : Int) : Writing.wholeText (.int n) = Decimal.showing [n] (Text.ofInt n) :=
    Decimal.write_eq n
  have noted :
      lab.noted isStrict = Decimal.showing (if isStrict then [width, height] else []) () := by
    cases isStrict with
    | false => rfl
    | true =>
      rw [Label.noted, hwidth, hheight, whole, whole]
      simp only [if_true, Decimal.pure_eq, Decimal.showing_bind]
      rfl
  rw [codeNoted, lines_of_shows h, noted]
  refine Decimal.bind_eq_showing ?_
  rw [joins, Decimal.showing_bind, List.append_nil]

end Store

namespace Action

variable {s : Store} {l : Ref} {lab : Label} {width height : Int} {iss : List (List Imprint)}

/-- A sequence of two actions, either of which shows whole numbers. -/
theorem outcome_bind_eq_showing {α β : Type} {x : Action α} {f : α → Action β}
    {around : Surroundings} {t : Store} {ms ns : List Int} {a : α} {b : β}
    (hx : x.outcome around s = Decimal.showing ms a) (hafter : x.after around s = t)
    (hf : (f a).outcome around t = Decimal.showing ns b) :
    (x >>= f).outcome around s = Decimal.showing (ms ++ ns) b := by
  rw [outcome_bind, hx, hafter, Decimal.showing, Decimal.showing, List.all_append]
  cases ms.all Decimal.isWritable with
  | true => exact hf
  | false => rfl

theorem outcome_shown_int {v : Value} {n : Int} (h : v = .int n) (around : Surroundings) :
    (shown v).outcome around s = Decimal.showing [n] (Text.ofInt n) := by
  rw [h, ← Decimal.write_eq]
  exact outcome_lift (Decimal.write n) around s

theorem after_shown_int {v : Value} {n : Int} (h : v = .int n) (around : Surroundings) :
    (shown v).after around s = s := by
  rw [h]
  exact after_lift (Decimal.write n) around s

/-- The document of a label whose components show imprints. -/
theorem outcome_document (hs : s.IsGenuine) (hl : s.label? l = some lab)
    (hwidth : lab.labelWidth = .int width) (hheight : lab.labelHeight = .int height)
    (h : List.Forall₂ s.Shows lab.components iss) (around : Surroundings) :
    (document l).outcome around s =
      Decimal.showing (width :: height :: iss.flatten.flatMap Imprint.numbers)
        (framed (Text.ofInt width) (Text.ofInt height)
          (Text.join "\n" (iss.flatten.map Imprint.text))) := by
  have hd := Store.isDrawable_of_shows h
  have name : "get_label_code" ∈ Store.calledNames := by decide
  have there := ((regenerated_code hs hl hd around).toReprinted.label? l).trans hl
  have hcode := (outcome_code hs hl hd around).trans
    (Store.codeNoted_of_shows hwidth hheight h around.isStrict)
  generalize Text.join "\n" (iss.flatten.map Imprint.text) = body at hcode ⊢
  generalize iss.flatten.flatMap Imprint.numbers = numbers at hcode ⊢
  generalize ht : (code l).after around s = t at there
  have first : (dispatch l "get_label_code" [] do return .text (← code l)).outcome around s =
      Decimal.showing (numbers ++ (if around.isStrict then [width, height] else []) ++ [])
        (.text body) := by
    rw [outcome_dispatch hs name]
    exact outcome_bind_eq_showing hcode ht rfl
  have hafter : (dispatch l "get_label_code" [] do return .text (← code l)).after around s = t := by
    rw [after_dispatch hs name, after_bind, ht]
    split <;> rfl
  have reads : (label l).outcome around t = Decimal.showing [] lab := outcome_label there around
  have last (width height : Text) : (directory >>= fun d =>
      liftM (Writing.textOf ((Value.text body).orElse d (.text []))) >>= fun body =>
      pure (framed width height body) : Action Text).outcome around t =
        Decimal.showing [] (framed width height body) := by
    cases body <;> rfl
  refine Eq.trans (outcome_bind_eq_showing first hafter
    (outcome_bind_eq_showing reads (after_label l around t)
    (outcome_bind_eq_showing (outcome_shown_int hwidth around) (after_shown_int hwidth around)
    (outcome_bind_eq_showing (outcome_shown_int hheight around) (after_shown_int hheight around)
      (last _ _))))) ?_
  -- A strict log shows the size as well, when the code is noted; the document shows it in any case.
  refine Decimal.showing_congr (fun n => ?_) _
  split <;> simp only [List.append_nil, List.nil_append, List.mem_append, List.mem_cons,
    List.not_mem_nil] <;> grind

/-- The commands of a frame, and those of its body in the middle. -/
theorem emits_framed (width height : Int) {body : Text} {codes : List Text}
    (h : body.Emits codes) :
    (framed (Text.ofInt width) (Text.ofInt height) body).Emits
      (documentCodes codes) := by
  have start : Command.startFormat.render.Emits ["XA"] := Command.emits (by decide)
  have printWidth : (Command.printWidth (Text.ofInt width)).render.Emits ["PW"] :=
    Command.emits (Text.isCaretFree_ofInt width)
  have labelLength : (Command.labelLength (Text.ofInt height)).render.Emits ["LL"] :=
    Command.emits (Text.isCaretFree_ofInt height)
  have finish : Command.endFormat.render.Emits ["XZ"] := Command.emits (by decide)
  have newline : Text.IsCaretFree "\n" := by decide
  cases body with
  | nil =>
    obtain rfl : [] = codes := h.commandCodes_eq
    exact .join newline (.cons start (.cons printWidth (.cons labelLength (.cons finish .nil))))
  | cons c rest =>
    have whole := Text.Emits.join newline
      (.cons start (.cons printWidth (.cons labelLength (.cons h (.cons finish .nil)))))
    simp only [List.flatten_cons, List.flatten_nil, List.append_nil] at whole
    exact whole

/-- A document whose components show imprints without carets: when all its numbers can be written,
its commands are its start, the size of the canvas, one field for each imprint, and its end. A field
is closed once, so there are as many separators as components and backgrounds. -/
theorem document_grammar (hs : s.IsGenuine) (hl : s.label? l = some lab)
    (hwidth : lab.labelWidth = .int width) (hheight : lab.labelHeight = .int height)
    (h : List.Forall₂ s.Shows lab.components iss) (hcarets : ∀ i ∈ iss.flatten, i.IsCaretFree)
    (around : Surroundings) :
    ∃ (t : Text) (fields : List (List Text)),
      (document l).outcome around s =
        Decimal.showing (width :: height :: iss.flatten.flatMap Imprint.numbers) t ∧
      t.commandCodes = documentCodes fields.flatten ∧
      (∀ f ∈ fields, IsField f) ∧
      ("^XA" : Text) <+: t ∧ ("^XZ" : Text) <:+ t ∧
      t.commandCodes.count ("XA" : Text) = 1 ∧ t.commandCodes.count ("XZ" : Text) = 1 ∧
      t.commandCodes.count ("FS" : Text) = lab.components.length +
        lab.components.countP fun r => ((s.component? r).bind (·.background?)).isSome := by
  have fields : ∀ f ∈ iss.flatten.map Imprint.codes, IsField f := by
    intro f hf
    obtain ⟨i, -, rfl⟩ := List.mem_map.1 hf
    exact i.isField
  have emits : (Text.join "\n" (iss.flatten.map Imprint.text)).Emits
      (iss.flatten.map Imprint.codes).flatten := by
    refine .join (by decide) ?_
    rw [List.forall₂_map_left_iff, List.forall₂_map_right_iff, List.forall₂_same]
    exact fun i hi => Imprint.emits (hcarets i hi)
  have commandCodes := (emits_framed width height emits).commandCodes_eq
  refine ⟨_, _, outcome_document hs hl hwidth hheight h around, commandCodes, fields,
    Text.isPrefix_join _ _ _, Text.isSuffix_join _ _ _, ?_⟩
  obtain ⟨starts, ends, separators⟩ := count_documentCodes fields
  rw [List.length_map, Store.length_of_shows h] at separators
  rw [commandCodes]
  exact ⟨starts, ends, separators⟩

/-- A label that lists a barcode over a rectangle twice, with a text that has a newline and an
ellipse in between. -/
theorem document_grammar_parcel :
    let s : Store :=
      { things := [
          .component { kind := .shape { figure := .rectangle 0, width := 300, height := 90 } },
          .component { kind := .barcode { data := "12345", background := .object 0 } },
          .component { labelWidth := 812, kind := .text { content := "fragile\nthis side up" } },
          .component { x := .int (-4), kind := .shape { figure := .ellipse, width := 50 } },
          .label {
            dpi := 203, labelWidth := 812, labelHeight := 1218, components := [1, 2, 3, 1] }] }
    let around : Surroundings := .within {} s.depth
    ∃ t, (document 4).outcome around s = .ok t ∧ t.commandCodes.count ("FS" : Text) = 6 := by
  intro s around
  let rectangle : Outline :=
    { x := 0, y := 0, width := 300, height := 90, thickness := 1, color := .black,
      figure := .rectangle 0 }
  let bars : Bars :=
    { x := 0, y := 0, moduleWidth := 3, barHeight := 60, orientation := .normal,
      placement := .hidden, checkDigit := false, mode := .plain, data := "12345" }
  let text : Line :=
    { x := 0, y := 0, fontSize := 30, width := 812, alignment := .left, hexEscapes := true,
      content := "fragile\nthis side up" }
  let ring : Outline :=
    { x := -4, y := 0, width := 50, height := 0, thickness := 1, color := .black,
      figure := .ellipse }
  have barcode : s.Shows 1 [.outline rectangle, .bars bars] :=
    .backed rfl (.bars rfl rfl rfl) rfl rfl rfl (.outline rfl rfl rfl)
  have line : s.Shows 2 [.line text] := .alone rfl (.line rfl rfl rfl rfl rfl) (by simp)
  have ellipse : s.Shows 3 [.outline ring] := .alone rfl (.outline rfl rfl rfl) (by simp)
  obtain ⟨t, -, document, -, -, -, -, -, -, separators⟩ := document_grammar (s := s) (l := 4)
    (fun _ _ _ => rfl) rfl rfl rfl (.cons barcode (.cons line (.cons ellipse (.cons barcode .nil))))
    (by decide) around
  exact ⟨t, document.trans (if_pos (by decide)), separators⟩

end Action

end Zpl
