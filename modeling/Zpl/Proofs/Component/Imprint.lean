import Zpl.Proofs.Component.Drawing

/-!
# Imprints

A component whose position and size are whole numbers is printed as an outline, a line of text or
bars, and its instruction shows all that there is to it. An `Imprint` is what the instruction shows.
Numbers with too many digits cannot be written, and then there is no instruction; nothing else can
go wrong.

## Main definitions

* `Imprint` — what is shown of a component by itself.
* `Imprint.commands`, `Imprint.text` — how it is shown.
* `Component.Prints`, `Store.Shows` — the components that an imprint is of.
* `Decimal.showing` — something that shows whole numbers, if these can be written.

## Main results

* `Component.Prints.rendered_eq` — a component is rendered as its imprint.
* `Store.Shows.instructionOf_eq` — the instruction of a component consists of its imprints.
-/

namespace Zpl

/-! ### Whole numbers that are shown -/

namespace Decimal

variable {α β : Type}

/-- Something that shows whole numbers, if these can be written. -/
def showing (ns : List Int) (a : α) : Except Fault α :=
  if ns.all isWritable then .ok a else .error .unwritable

theorem write_eq (n : Int) : write n = showing [n] (Text.ofInt n) := by
  simp [write, showing]

theorem pure_eq (a : α) : (pure a : Except Fault α) = showing [] a := rfl

theorem bind_eq_showing {ms ns : List Int} {a : α} {b : β} {f : α → Except Fault β}
    (h : f a = showing ns b) : (showing ms a >>= f) = showing (ms ++ ns) b := by
  rw [showing, showing, List.all_append]
  cases ms.all isWritable with
  | true => exact h
  | false => rfl

theorem showing_bind (ms ns : List Int) (a : α) (f : α → β) :
    (showing ms a >>= fun a => showing ns (f a)) = showing (ms ++ ns) (f a) :=
  bind_eq_showing rfl

/-- Which numbers are shown matters, not where and how often. -/
theorem showing_congr {ms ns : List Int} (h : ∀ n, n ∈ ms ↔ n ∈ ns) (a : α) :
    showing ms a = showing ns a := by
  have same : ms.all isWritable = ns.all isWritable := by
    rw [Bool.eq_iff_iff, List.all_eq_true, List.all_eq_true]
    simp only [h]
  rw [showing, showing, same]

theorem showing_eq_ok {ns : List Int} {a b : α} (h : showing ns a = .ok b) : a = b := by
  unfold showing at h
  split at h
  · exact Except.ok.inj h
  · simp at h

end Decimal

/-! ### Imprints -/

/-- What is shown of a shape. -/
structure Outline where
  x : Int
  y : Int
  width : Int
  height : Int
  thickness : Int
  color : Color
  figure : Figure
  deriving DecidableEq, Repr

/-- What is shown of a line of text. -/
structure Line where
  x : Int
  y : Int
  fontSize : Int
  width : Int
  alignment : Alignment
  hexEscapes : Bool
  content : Text
  deriving DecidableEq, Repr

/-- What is shown of a barcode by itself. -/
structure Bars where
  x : Int
  y : Int
  moduleWidth : Int
  barHeight : Int
  orientation : Orientation
  placement : TextPlacement
  checkDigit : Bool
  mode : BarcodeMode
  data : Text
  deriving DecidableEq, Repr

/-- What is shown of a component by itself. -/
inductive Imprint where
  | outline (o : Outline)
  | line (l : Line)
  | bars (b : Bars)
  deriving DecidableEq, Repr

namespace Outline

/-- The command that draws a shape. -/
def command (o : Outline) : Command :=
  let width := Text.ofInt o.width
  let height := Text.ofInt o.height
  let thickness := Text.ofInt o.thickness
  match o.figure with
  | .rectangle radius => .graphicBox width height thickness (token o.color) (Text.ofInt radius)
  | .ellipse => .graphicEllipse width height thickness (token o.color)
  | .diagonal slant => .graphicDiagonal width height thickness (token o.color) (token slant)

def body (o : Outline) : List Command := [o.command]

/-- The whole numbers that are shown apart from the position. -/
def sizes (o : Outline) : List Int :=
  [o.width, o.height, o.thickness] ++
    match o.figure with
    | .rectangle radius => [radius]
    | _ => []

end Outline

namespace Line

def body (l : Line) : List Command :=
  [.font (Text.ofInt l.fontSize), .fieldBlock (Text.ofInt l.width) (token l.alignment)] ++
    (if l.hexEscapes then [.hexIndicator] else []) ++ [.fieldData (l.content ++ "\\&")]

end Line

namespace Bars

def body (b : Bars) : List Command :=
  [.moduleWidth (Text.ofInt b.moduleWidth),
    .code128 (token b.orientation) (Text.ofInt b.barHeight) b.placement.flags
      (if b.checkDigit then "Y" else "N") (token b.mode),
    .fieldData b.data]

end Bars

namespace Imprint

/-- The position of an imprint. -/
def position : Imprint → Int × Int
  | .outline o => (o.x, o.y)
  | .line l => (l.x, l.y)
  | .bars b => (b.x, b.y)

/-- The whole numbers that are shown apart from the position. -/
def sizes : Imprint → List Int
  | .outline o => o.sizes
  | .line l => [l.fontSize, l.width]
  | .bars b => [b.moduleWidth, b.barHeight]

/-- The whole numbers that are shown. -/
def numbers (i : Imprint) : List Int := i.position.1 :: i.position.2 :: i.sizes

/-- The commands between the origin of a field and its separator. -/
def body : Imprint → List Command
  | .outline o => o.body
  | .line l => l.body
  | .bars b => b.body

/-- The commands that print an imprint. -/
def commands (i : Imprint) : List Command :=
  .fieldOrigin (Text.ofInt i.position.1) (Text.ofInt i.position.2) :: i.body ++ [.fieldSeparator]

/-- The text of the commands that print an imprint. -/
def text (i : Imprint) : Text := Command.renderAll i.commands

end Imprint

/-! ### Components and their imprints -/

namespace Component

/-- A component shows an imprint. -/
inductive Prints (c : Component) : Imprint → Prop where
  | outline {o : Outline} (x : c.x = .int o.x) (y : c.y = .int o.y)
      (kind : c.kind = .shape {
        figure := o.figure, width := .int o.width, height := .int o.height,
        thickness := o.thickness, color := o.color }) : Prints c (.outline o)
  | line {l : Line} (x : c.x = .int l.x) (y : c.y = .int l.y) (width : c.labelWidth = .int l.width)
      (alignment : c.alignment = .text (token l.alignment))
      (kind : c.kind = .text {
        content := l.content, fontSize := l.fontSize, hexEscapes := .bool l.hexEscapes }) :
      Prints c (.line l)
  | bars {b : Bars} {given background : Value} (x : c.x = .int b.x) (y : c.y = .int b.y)
      (kind : c.kind = .barcode {
        data := .text b.data, moduleWidth := b.moduleWidth, barHeight := b.barHeight,
        placement := b.placement, placementGiven := given, checkDigit := .bool b.checkDigit,
        mode := b.mode, orientation := b.orientation, background := background }) :
      Prints c (.bars b)

namespace Prints

variable {c : Component} {i : Imprint}

theorem isRaw (h : c.Prints i) : c.kind.isRaw = false := by
  cases h with
  | outline x y kind => rw [kind]; rfl
  | line x y width alignment kind => rw [kind]; rfl
  | bars x y kind => rw [kind]; rfl

theorem isPlain (h : c.Prints i) : c.IsPlain := by
  cases h with
  | outline x y kind => simp [IsPlain, kind, x, y, Value.IsPlain]
  | line x y width alignment kind => simp [IsPlain, kind, x, y, width, alignment, Value.IsPlain]
  | bars x y kind => simp [IsPlain, kind, x, y, Value.IsPlain]

theorem position_eq (h : c.Prints i) : c.x = .int i.position.1 ∧ c.y = .int i.position.2 := by
  cases h with
  | outline x y kind => exact ⟨x, y⟩
  | line x y width alignment kind => exact ⟨x, y⟩
  | bars x y kind => exact ⟨x, y⟩

theorem bodyCommands_eq (h : c.Prints i) :
    c.bodyCommands .plain = Decimal.showing i.sizes i.body := by
  cases h with
  | @outline o x y kind =>
    simp only [bodyCommands, kind, Shape.command, Number.write, monadLift_self, Decimal.write_eq]
    cases hfigure : o.figure with
    | rectangle radius =>
      simp only [Decimal.pure_eq, Decimal.showing_bind]
      simp [Imprint.sizes, Outline.sizes, Imprint.body, Outline.body, Outline.command, hfigure]
    | _ =>
      simp only [Decimal.pure_eq, Decimal.showing_bind]
      simp [Imprint.sizes, Outline.sizes, Imprint.body, Outline.body, Outline.command, hfigure]
  | @line l x y width alignment kind =>
    simp only [bodyCommands, kind, width, alignment, Value.shown_text, Value.shown_int,
      TextLine.commands, Value.truth, monadLift_self, Decimal.write_eq, Decimal.pure_eq,
      Decimal.showing_bind]
    rfl
  | @bars b given background x y kind =>
    simp only [bodyCommands, kind, Value.shown_text, Barcode.commands, Value.truth, monadLift_self,
      Decimal.write_eq, Decimal.pure_eq, Decimal.showing_bind]
    rfl

/-- A component is rendered as its imprint. -/
theorem rendered_eq (h : c.Prints i) : c.rendered .plain = Decimal.showing i.numbers i.text := by
  obtain ⟨x, y⟩ := h.position_eq
  rw [rendered, commands, x, y, Value.shown_int, Value.shown_int, h.bodyCommands_eq]
  simp only [monadLift_self, Decimal.write_eq, Decimal.pure_eq, Decimal.showing_bind,
    List.append_nil]
  rfl

theorem line_eq (h : c.Prints i) : c.line = Decimal.showing i.numbers (.text i.text) := by
  rw [line_of_kind h.isRaw, h.rendered_eq]
  simp only [Decimal.pure_eq, Decimal.showing_bind, List.append_nil]

/-- A component shows the same whatever its instruction was. -/
theorem with_instruction (h : c.Prints i) (v : Value) :
    ({ c with instruction := v } : Component).Prints i := by
  cases h with
  | outline x y kind => exact .outline x y kind
  | line x y width alignment kind => exact .line x y width alignment kind
  | bars x y kind => exact .bars x y kind

end Prints

end Component

namespace Store

/-- A component shows its imprint, or that of a shape that lies behind it and its own. -/
inductive Shows (s : Store) (r : Ref) : List Imprint → Prop where
  | alone {c : Component} {i : Imprint} (there : s.component? r = some c) (prints : c.Prints i)
      (nothing : ∀ b, c.kind = .barcode b → b.background = .none) : Shows s r [i]
  | backed {c d : Component} {b : Barcode} {q : Ref} {o : Outline} {bars : Bars}
      (there : s.component? r = some c) (prints : c.Prints (.bars bars))
      (kind : c.kind = .barcode b) (behind : b.background = .object q)
      (present : s.component? q = some d) (printsBehind : d.Prints (.outline o)) :
      Shows s r [.outline o, .bars bars]

namespace Shows

variable {s : Store} {r : Ref} {is : List Imprint}

theorem isDrawable (h : s.Shows r is) : s.IsDrawable r := by
  cases h with
  | alone there prints nothing => exact .alone there prints.isPlain nothing
  | backed there prints kind behind present printsBehind =>
    obtain ⟨_, _, shape⟩ := printsBehind
    exact .backed there prints.isPlain kind behind present
      (Component.Prints.isPlain (.outline ‹_› ‹_› shape)) shape

/-- The layers of a component show its imprints. -/
theorem lines_eq (h : s.Shows r is) :
    (s.layers r).mapM Component.line =
      Decimal.showing (is.flatMap Imprint.numbers) (is.map fun i => .text i.text) := by
  cases h with
  | alone there prints nothing =>
    rw [layers_alone there (Component.background?_eq_none nothing), List.mapM_cons, List.mapM_nil,
      Component.line_bare, prints.line_eq]
    simp only [Decimal.pure_eq, Decimal.showing_bind]
    simp
  | backed there prints kind behind present printsBehind =>
    rw [layers_backed there (Component.background?_of_kind kind behind) present]
    simp only [List.mapM_cons, List.mapM_nil, Component.line_bare, prints.line_eq,
      printsBehind.line_eq, Decimal.pure_eq, Decimal.showing_bind]
    simp

/-- The instruction of a component consists of its imprints, each on a line of its own. -/
theorem instructionOf_eq (h : s.Shows r is) :
    s.instructionOf r = Decimal.showing (is.flatMap Imprint.numbers)
      (.text (Text.join "\n" (is.map Imprint.text))) := by
  cases h with
  | alone there prints nothing =>
    rw [instructionOf_alone there (Component.background?_eq_none nothing), prints.line_eq]
    simp
  | backed there prints kind behind present printsBehind =>
    rw [instructionOf_backed there (Component.background?_of_kind kind behind) present
      printsBehind.isRaw prints.isRaw, prints.rendered_eq, printsBehind.rendered_eq]
    simp only [Decimal.pure_eq, Decimal.showing_bind]
    simp

/-- Other instructions do not change what is shown. -/
theorem reprinted (h : s.Shows r is) {touched : Ref → Prop} {t : Store}
    (ht : s.Reprinted touched t) : t.Shows r is := by
  cases h with
  | alone there prints nothing =>
    obtain ⟨v, hv, -⟩ := ht.component? there
    exact .alone hv (prints.with_instruction v) nothing
  | backed there prints kind behind present printsBehind =>
    obtain ⟨v, hv, -⟩ := ht.component? there
    obtain ⟨w, hw, -⟩ := ht.component? present
    exact .backed hv (prints.with_instruction v) kind behind hw (printsBehind.with_instruction w)

end Shows

end Store

end Zpl
