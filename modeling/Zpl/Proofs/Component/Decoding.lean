import Zpl.Proofs.Component.Imprint
import Zpl.Proofs.Text.Decoder

/-!
# Instructions can be read back

From the instruction of a component one can tell what it shows: whether it is a shape, a line of
text or a barcode, whether a shape lies behind it, and every number, choice and payload. Payloads
hold any text, even one that looks like the commands that follow; but they come last, and what
follows them is known.

## Main definitions

* `Imprint.decode` — the imprints that an instruction consists of.

## Main results

* `Store.Shows.decode` — the imprints of a component are read back.
* `Action.generated_injective` — components with one instruction have the same imprints.
-/

namespace Zpl

namespace Imprint

open Decoder

/-! ### The decoder -/

/-- Reads the origin of a field and the code of the command that follows. -/
def origin : Decoder (Int × Int × Text) := do
  literal "^FO"
  let x ← number ","
  let y ← number "^"
  let c ← code
  return (x, y, c)

/-- Reads what makes a shape a rectangle, an ellipse or a diagonal line. -/
def figure (c : Text) : Decoder Figure :=
  if c = "GB" then do
    literal ","
    let radius ← number "^"
    literal "FS"
    return .rectangle radius
  else if c = "GE" then do
    literal "^FS"
    return .ellipse
  else do
    literal ","
    let slant ← oneOf Tokened.all token
    literal "^FS"
    return .diagonal slant

/-- Reads a shape after its origin and its code. -/
def outlineAt (x y : Int) (c : Text) : Decoder Outline := do
  let width ← number ","
  let height ← number ","
  let thickness ← number ","
  let color ← oneOf Tokened.all token
  let figure ← figure c
  return { x, y, width, height, thickness, color, figure }

/-- Reads a line of text after its origin and its code. -/
def lineAt (x y : Int) : Decoder Line := do
  literal ","
  let fontSize ← number "^"
  literal "FB"
  let width ← number ","
  literal "1,0,"
  let alignment ← oneOf Tokened.all token
  literal ",0^F"
  let hexEscapes ← oneOf [true, false] fun b => if b then "H" else "D"
  literal (if hexEscapes then "_^FD" else [])
  let content ← payload "\\&^FS"
  return { x, y, fontSize, width, alignment, hexEscapes, content }

/-- Reads a barcode after its origin and its code. -/
def barsAt (x y : Int) : Decoder Bars := do
  literal " "
  let moduleWidth ← number "^"
  literal "BC"
  let orientation ← oneOf Tokened.all token
  literal ","
  let barHeight ← number ","
  let placement ← oneOf TextPlacement.all TextPlacement.flags
  literal ","
  let checkDigit ← oneOf [true, false] fun b => if b then "Y" else "N"
  literal ","
  let mode ← oneOf Tokened.all token
  literal "^FD"
  let data ← payload "^FS"
  return { x, y, moduleWidth, barHeight, orientation, placement, checkDigit, mode, data }

/-- Reads the barcode that a shape lies behind. -/
def barsOver (o : Outline) : Decoder (List Imprint) := do
  literal "\n"
  let (x, y, _) ← origin
  let b ← barsAt x y
  return [.outline o, .bars b]

/-- Reads what follows a shape, if anything does. -/
def afterOutline (o : Outline) : Decoder (List Imprint) := fun rest =>
  if rest.isEmpty then some ([.outline o], []) else barsOver o rest

/-- Reads the imprints of a component. -/
def imprints : Decoder (List Imprint) := do
  let (x, y, c) ← origin
  if c = "A0" then do
    let l ← lineAt x y
    return [.line l]
  else if c = "BY" then do
    let b ← barsAt x y
    return [.bars b]
  else do
    let o ← outlineAt x y c
    afterOutline o

/-- The imprints that an instruction consists of. -/
def decode (t : Text) : Option (List Imprint) := (imprints t).map Prod.fst

/-! ### Reading imprints -/

/-- A number with the text that stops it. -/
def stopped (n : Int) (stop : Text) : Text := Text.ofInt n ++ stop

theorem reads_origin (x y : Int) {c : Text} (hc : c.length = 2) :
    Reads origin (List.flatten ["^FO", stopped x ",", stopped y "^", c]) (x, y, c) := by
  refine (reads_literal _).bind ?_
  refine (reads_number x (c := .scalar ',') rfl rfl).bind ?_
  refine (reads_number y (c := .scalar '^') rfl rfl).bind ?_
  exact (reads_code hc).bind (.pure _)

/-! ### Choices -/

theorem reads_color (c : Color) : Reads (oneOf Tokened.all token) (token c) c :=
  reads_token choice?_token_color (fun c => by cases c <;> rfl) c

theorem reads_slant (s : Slant) : Reads (oneOf Tokened.all token) (token s) s :=
  reads_token choice?_token_slant (fun s => by cases s <;> rfl) s

theorem reads_alignment (a : Alignment) : Reads (oneOf Tokened.all token) (token a) a :=
  reads_token choice?_token_alignment (fun a => by cases a <;> rfl) a

theorem reads_orientation (o : Orientation) : Reads (oneOf Tokened.all token) (token o) o :=
  reads_token choice?_token_orientation (fun o => by cases o <;> rfl) o

theorem reads_mode (m : BarcodeMode) : Reads (oneOf Tokened.all token) (token m) m :=
  reads_token choice?_token_mode (fun m => by cases m <;> rfl) m

theorem reads_placement (p : TextPlacement) :
    Reads (oneOf TextPlacement.all TextPlacement.flags) p.flags p := by
  refine reads_oneOf ?_ ?_ ?_ <;> cases p <;> decide

theorem reads_flag (b : Bool) {yes no : Text} (hlength : yes.length = no.length) (hne : yes ≠ no) :
    Reads (oneOf [true, false] fun b => if b then yes else no) (if b then yes else no) b := by
  refine reads_oneOf (by cases b <;> decide) (fun c _ => ?_) fun c _ h => ?_
  · cases b <;> cases c <;> simp [hlength]
  · cases b <;> cases c <;> simp_all

/-! ### Bodies -/

/-- What makes a shape a rectangle, an ellipse or a diagonal line. -/
def figureText (f : Figure) : Text :=
  List.flatten (match f with
    | .rectangle radius => [",", stopped radius "^", "FS"]
    | .ellipse => ["^FS"]
    | .diagonal slant => [",", token slant, "^FS"])

theorem reads_figure (o : Outline) :
    Reads (figure o.command.code) (figureText o.figure) o.figure := by
  obtain ⟨x, y, width, height, thickness, color, figure⟩ := o
  cases figure with
  | rectangle radius =>
    refine (reads_literal _).bind ?_
    refine (reads_number radius (c := .scalar '^') rfl rfl).bind ?_
    exact (reads_literal _).bind (.pure _)
  | ellipse => exact (reads_literal _).bind (.pure _)
  | diagonal slant =>
    refine (reads_literal _).bind ?_
    refine (reads_slant slant).bind ?_
    exact (reads_literal _).bind (.pure _)

def outlineText (o : Outline) : Text :=
  List.flatten [stopped o.width ",", stopped o.height ",", stopped o.thickness ",", token o.color,
    figureText o.figure]

theorem reads_outlineAt (o : Outline) :
    Reads (outlineAt o.x o.y o.command.code) (outlineText o) o := by
  refine (reads_number o.width (c := .scalar ',') rfl rfl).bind ?_
  refine (reads_number o.height (c := .scalar ',') rfl rfl).bind ?_
  refine (reads_number o.thickness (c := .scalar ',') rfl rfl).bind ?_
  refine (reads_color o.color).bind ?_
  exact (reads_figure o).bind (.pure _)

def lineText (l : Line) : Text :=
  List.flatten [",", stopped l.fontSize "^", "FB", stopped l.width ",", "1,0,", token l.alignment,
    ",0^F", if l.hexEscapes then "H" else "D", if l.hexEscapes then "_^FD" else [],
    l.content ++ "\\&^FS"]

theorem decodes_lineAt (l : Line) : Decodes (lineAt l.x l.y) (lineText l) l := by
  refine .bind (reads_literal _) ?_
  refine .bind (reads_number l.fontSize (c := .scalar '^') rfl rfl) ?_
  refine .bind (reads_literal _) ?_
  refine .bind (reads_number l.width (c := .scalar ',') rfl rfl) ?_
  refine .bind (reads_literal _) ?_
  refine .bind (reads_alignment l.alignment) ?_
  refine .bind (reads_literal _) ?_
  refine .bind (reads_flag l.hexEscapes (by decide) (by decide)) ?_
  refine .bind (reads_literal _) ?_
  rw [List.flatten_singleton]
  exact (decodes_payload l.content _).map _

def barsText (b : Bars) : Text :=
  List.flatten [" ", stopped b.moduleWidth "^", "BC", token b.orientation, ",",
    stopped b.barHeight ",", b.placement.flags, ",", if b.checkDigit then "Y" else "N", ",",
    token b.mode, "^FD", b.data ++ "^FS"]

theorem decodes_barsAt (b : Bars) : Decodes (barsAt b.x b.y) (barsText b) b := by
  refine .bind (reads_literal _) ?_
  refine .bind (reads_number b.moduleWidth (c := .scalar '^') rfl rfl) ?_
  refine .bind (reads_literal _) ?_
  refine .bind (reads_orientation b.orientation) ?_
  refine .bind (reads_literal _) ?_
  refine .bind (reads_number b.barHeight (c := .scalar ',') rfl rfl) ?_
  refine .bind (reads_placement b.placement) ?_
  refine .bind (reads_literal _) ?_
  refine .bind (reads_flag b.checkDigit (by decide) (by decide)) ?_
  refine .bind (reads_literal _) ?_
  refine .bind (reads_mode b.mode) ?_
  refine .bind (reads_literal _) ?_
  rw [List.flatten_singleton]
  exact (decodes_payload b.data _).map _

/-! ### Instructions -/

/-- The text of an imprint after the code of its first command. -/
def textAfterCode : Imprint → Text
  | .outline o => outlineText o
  | .line l => lineText l
  | .bars b => barsText b

/-- The code of the command that follows the origin. -/
def leadingCode : Imprint → Text
  | .outline o => o.command.code
  | .line _ => "A0"
  | .bars _ => "BY"

theorem text_eq (i : Imprint) :
    i.text = List.flatten ["^FO", stopped i.position.1 ",", stopped i.position.2 "^",
      i.leadingCode] ++ i.textAfterCode := by
  cases i with
  | outline o =>
    obtain ⟨x, y, width, height, thickness, color, figure⟩ := o
    cases figure <;>
      simp [text, commands, body, Outline.body, Outline.command, position, Command.render,
        Command.code, Command.parameters, Command.list, leadingCode, textAfterCode, outlineText,
        figureText, stopped, Text.ofString, Text.ofChars]
  | line l =>
    cases hescapes : l.hexEscapes <;>
      simp [text, commands, body, Line.body, position, Command.render, Command.code,
        Command.parameters, Command.list, leadingCode, textAfterCode, lineText, stopped,
        Text.ofString, Text.ofChars, hescapes]
  | bars b =>
    simp [text, commands, body, Bars.body, position, Command.render, Command.code,
      Command.parameters, Command.list, leadingCode, textAfterCode, barsText, stopped,
      Text.ofString, Text.ofChars]

theorem length_leadingCode (i : Imprint) : i.leadingCode.length = 2 := by
  cases i with
  | outline o => exact o.command.length_code
  | _ => rfl

/-- A shape is told from a line of text and from a barcode by its code. -/
theorem code_outline (o : Outline) : o.command.code ≠ "A0" ∧ o.command.code ≠ "BY" := by
  obtain ⟨x, y, width, height, thickness, color, figure⟩ := o
  cases figure <;> simp [Outline.command, Command.code, Text.ofString, Text.ofChars]

theorem decodes_line (l : Line) : Decodes imprints (Imprint.line l).text [.line l] := by
  rw [text_eq]
  refine Decodes.bind (reads_origin l.x l.y (length_leadingCode (.line l))) ?_
  exact (decodes_lineAt l).map _

/-- After the origin of a shape, its outline is read, and then what follows. -/
theorem decodes_outline (o : Outline) {rest : Text} {is : List Imprint}
    (h : Decodes (afterOutline o) rest is) :
    Decodes imprints ((Imprint.outline o).text ++ rest) is := by
  obtain ⟨hline, hbars⟩ := code_outline o
  rw [text_eq, List.append_assoc]
  refine Decodes.bind (reads_origin o.x o.y (length_leadingCode (.outline o))) ?_
  dsimp only [leadingCode]
  rw [if_neg hline, if_neg hbars]
  exact Decodes.bind (reads_outlineAt o) h

theorem decodes_bars (b : Bars) : Decodes imprints (Imprint.bars b).text [.bars b] := by
  rw [text_eq]
  refine Decodes.bind (reads_origin b.x b.y (length_leadingCode (.bars b))) ?_
  exact (decodes_barsAt b).map _

theorem decodes_barsOver (o : Outline) (b : Bars) :
    Decodes (barsOver o) ("\n" ++ (Imprint.bars b).text) [.outline o, .bars b] := by
  rw [text_eq]
  refine Decodes.bind (reads_literal _) ?_
  refine Decodes.bind (reads_origin b.x b.y (length_leadingCode (.bars b))) ?_
  exact (decodes_barsAt b).map _

end Imprint

/-- The imprints of a component are read back from its instruction. -/
theorem Store.Shows.decode {s : Store} {r : Ref} {is : List Imprint} (h : s.Shows r is) :
    Imprint.decode (Text.join "\n" (is.map Imprint.text)) = some is := by
  have decodes : Decoder.Decodes Imprint.imprints (Text.join "\n" (is.map Imprint.text)) is := by
    cases h with
    | @alone c i there prints nothing =>
      rw [List.map_singleton, Text.join_singleton]
      cases i with
      | outline o =>
        rw [← List.append_nil (Imprint.outline o).text]
        exact Imprint.decodes_outline o rfl
      | line l => exact Imprint.decodes_line l
      | bars b => exact Imprint.decodes_bars b
    | @backed c d b q o bars there prints kind behind present printsBehind =>
      rw [List.map_cons, List.map_singleton, Text.join_cons_cons, Text.join_singleton,
        List.append_assoc]
      exact Imprint.decodes_outline o (Imprint.decodes_barsOver o bars)
  rw [Imprint.decode, decodes]
  rfl

namespace Action

/-- Generating the instruction of a component gives it a certain text. -/
def Gives (around : Surroundings) (s : Store) (r : Ref) (t : Text) : Prop :=
  (generate r).outcome around s = .ok () ∧
    ∃ c, ((generate r).after around s).component? r = some c ∧ c.instruction = .text t

variable {around : Surroundings} {s : Store} {r : Ref} {is : List Imprint}

/-- A component gets an instruction if all numbers that it shows can be written. -/
theorem gives_of_shows (hs : s.IsGenuine) (h : s.Shows r is)
    (hnumbers : (is.flatMap Imprint.numbers).all Decimal.isWritable = true) :
    Gives around s r (Text.join "\n" (is.map Imprint.text)) := by
  have generates : (generate r).Generates around s _ r := generate_generates hs h.isDrawable
  have instruction := h.instructionOf_eq
  rw [Decimal.showing, if_pos hnumbers] at instruction
  refine ⟨?_, generates.instruction _ instruction⟩
  rw [generates.outcome, instruction]
  rfl

/-- What a component gets is the instruction that consists of its imprints. -/
theorem Gives.eq {t : Text} (hs : s.IsGenuine) (h : s.Shows r is) (hgives : Gives around s r t) :
    t = Text.join "\n" (is.map Imprint.text) := by
  obtain ⟨hok, c, hc, ht⟩ := hgives
  have generates : (generate r).Generates around s _ r := generate_generates hs h.isDrawable
  rw [generates.outcome] at hok
  cases hv : s.instructionOf r with
  | error fault => simp [hv, Except.map] at hok
  | ok v =>
    obtain ⟨c', hc', hv'⟩ := generates.instruction v hv
    obtain rfl : c = c' := Option.some.inj (hc.symm.trans hc')
    rw [h.instructionOf_eq] at hv
    have same := (Decimal.showing_eq_ok hv).trans (hv'.symm.trans ht)
    simpa using same.symm

/-- Components with one instruction show the same: they are of one kind and agree in all that is
shown, and so do the shapes that lie behind them, if there are any. What they show is read back from
the instruction. -/
theorem generated_injective {t : Store} {q : Ref} {js : List Imprint} {around' : Surroundings}
    {instruction : Text} (hs : s.IsGenuine) (ht : t.IsGenuine) (hr : s.Shows r is)
    (hq : t.Shows q js) (hrgives : Gives around s r instruction)
    (hqgives : Gives around' t q instruction) :
    is = js ∧ Imprint.decode instruction = some is := by
  have first : Imprint.decode instruction = some is := by rw [hrgives.eq hs hr, hr.decode]
  have second : Imprint.decode instruction = some js := by rw [hqgives.eq ht hq, hq.decode]
  exact ⟨Option.some.inj (first.symm.trans second), first⟩

/-- Two barcodes over rectangles of their own. Their data look like the end of an instruction. -/
theorem generated_injective_barcodes :
    let o : Outline :=
      { x := 10, y := -20, width := 300, height := 90, thickness := 2, color := .black,
        figure := .rectangle 0 }
    let b : Bars :=
      { x := 15, y := -15, moduleWidth := 3, barHeight := 60, orientation := .normal,
        placement := .hidden, checkDigit := false, mode := .plain, data := "12^FS" }
    let rectangle : Thing := .component {
      x := 10, y := .int (-20)
      kind := .shape { figure := .rectangle 0, width := 300, height := 90, thickness := 2 } }
    let barcode (background : Ref) : Thing := .component {
      x := 15, y := .int (-15)
      kind := .barcode { data := "12^FS", background := .object background } }
    let s : Store := { things := [rectangle, barcode 0, rectangle, barcode 2] }
    let around : Surroundings := .within {} s.depth
    ∃ instruction, Gives around s 1 instruction ∧ Gives around s 3 instruction ∧
      Imprint.decode instruction = some [.outline o, .bars b] := by
  intro o b rectangle barcode s around
  have genuine : s.IsGenuine := fun _ _ _ => rfl
  have first : s.Shows 1 [.outline o, .bars b] :=
    .backed rfl (.bars rfl rfl rfl) rfl rfl rfl (.outline rfl rfl rfl)
  have second : s.Shows 3 [.outline o, .bars b] :=
    .backed rfl (.bars rfl rfl rfl) rfl rfl rfl (.outline rfl rfl rfl)
  have gives : Gives around s 1 _ := gives_of_shows genuine first (by decide)
  have gives' : Gives around s 3 _ := gives_of_shows genuine second (by decide)
  exact ⟨_, gives, gives', (generated_injective genuine genuine first second gives gives').2⟩

end Action

end Zpl
