import Zpl.Command
import Zpl.Component.Basic

/-!
# The instruction of a component

Every component but a ready-made one is printed by a fixed list of commands: the field origin, the
commands of its kind, and a separator. A value that is stored unchecked is printed as its text, so
printing fails where the value has none.

## Main definitions

* `Component.commands` — the commands of a component.
-/

namespace Zpl

namespace TextLine

/-- What a line of text is printed with; a line break ends its data. -/
def commands (d : Directory) (line : TextLine) (fontSize width alignment : Text) :
    List Command :=
  [.font fontSize, .fieldBlock width alignment]
    ++ (if line.hexEscapes.truth d then [.hexIndicator] else [])
    ++ [.fieldData (line.content ++ "\\&")]

end TextLine

namespace Barcode

/-- What the bars are printed with. -/
def commands (d : Directory) (b : Barcode) (moduleWidth barHeight data : Text) : List Command :=
  [.moduleWidth moduleWidth,
    .code128 (token b.orientation) barHeight b.placement.flags
      (if b.checkDigit.truth d then "Y" else "N") (token b.mode),
    .fieldData data]

end Barcode

namespace Shape

/-- The command that draws a shape. -/
def command (s : Shape) : Except Fault Command := do
  let width ← s.width.write
  let height ← s.height.write
  let thickness ← Decimal.write s.thickness
  match s.figure with
  | .rectangle radius =>
    let radius ← Decimal.write radius
    return .graphicBox width height thickness (token s.color) radius
  | .ellipse => return .graphicEllipse width height thickness (token s.color)
  | .diagonal slant => return .graphicDiagonal width height thickness (token s.color) (token slant)

end Shape

namespace Component

variable {m : Type → Type} [Monad m] [MonadLiftT (Except Fault) m]

/-- The commands between the origin of a field and its separator. -/
def bodyCommands (s : Scribe m) (c : Component) : m (List Command) :=
  match c.kind with
  | .raw _ => pure []
  | .text line => do
    let fontSize ← Decimal.write line.fontSize
    let width ← c.labelWidth.shown s
    let alignment ← c.alignment.shown s
    return line.commands s.facts fontSize width alignment
  | .barcode b => do
    let moduleWidth ← Decimal.write b.moduleWidth
    let barHeight ← Decimal.write b.barHeight
    let data ← b.data.shown s
    return b.commands s.facts moduleWidth barHeight data
  | .shape form => do
    let command ← form.command
    return [command]

/-- The commands that print a component. The background of a barcode is not among them. -/
def commands (s : Scribe m) (c : Component) : m (List Command) := do
  let x ← c.x.shown s
  let y ← c.y.shown s
  let body ← c.bodyCommands s
  return .fieldOrigin x y :: body ++ [.fieldSeparator]

/-- The text of the commands that print a component. -/
def rendered (s : Scribe m) (c : Component) : m Text := do
  let commands ← c.commands s
  return Command.renderAll commands

end Component

end Zpl
