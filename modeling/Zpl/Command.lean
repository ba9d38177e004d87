import Zpl.Text.Basic

/-!
# Commands

A ZPL document is a sequence of commands. Each starts with a caret and a code of two characters,
and its parameters follow. Every instruction that this library writes is a list of commands, and
`Command.render` is the only place where one becomes text.

## Main definitions

* `Command` — the commands that labels are made of.
* `Command.render`, `Command.renderAll` — their text.
-/

namespace Zpl

/-- A command, with its parameters as they are written. -/
inductive Command where
  | startFormat
  | endFormat
  | printWidth (dots : Text)
  | labelLength (dots : Text)
  /-- Where the field that follows begins. -/
  | fieldOrigin (x y : Text)
  | graphicBox (width height thickness color cornerRadius : Text)
  | graphicEllipse (width height thickness color : Text)
  | graphicDiagonal (width height thickness color slant : Text)
  /-- The scalable font, at a height in dots. -/
  | font (height : Text)
  /-- A block of one line in which the printer places the text. -/
  | fieldBlock (width alignment : Text)
  /-- Hexadecimal escapes in the field data begin with an underscore. -/
  | hexIndicator
  | moduleWidth (dots : Text)
  | code128 (orientation barHeight placement checkDigit mode : Text)
  | fieldData (data : Text)
  | fieldSeparator
  deriving DecidableEq, Repr

namespace Command

/-- The code of a command. -/
def code : Command → Text
  | .startFormat => "XA"
  | .endFormat => "XZ"
  | .printWidth _ => "PW"
  | .labelLength _ => "LL"
  | .fieldOrigin .. => "FO"
  | .graphicBox .. => "GB"
  | .graphicEllipse .. => "GE"
  | .graphicDiagonal .. => "GD"
  | .font _ => "A0"
  | .fieldBlock .. => "FB"
  | .hexIndicator => "FH"
  | .moduleWidth _ => "BY"
  | .code128 .. => "BC"
  | .fieldData _ => "FD"
  | .fieldSeparator => "FS"

/-- Parameters with commas between them. -/
def list (parameters : List Text) : Text := Text.join "," parameters

/-- What follows the code of a command. -/
def parameters : Command → Text
  | .startFormat | .endFormat | .fieldSeparator => []
  | .printWidth dots | .labelLength dots => dots
  | .fieldOrigin x y => list [x, y]
  | .graphicBox width height thickness color cornerRadius =>
    list [width, height, thickness, color, cornerRadius]
  | .graphicEllipse width height thickness color => list [width, height, thickness, color]
  | .graphicDiagonal width height thickness color slant =>
    list [width, height, thickness, color, slant]
  | .font height => list [[], height]
  | .fieldBlock width alignment => list [width, "1", "0", alignment, "0"]
  | .hexIndicator => "_"
  | .moduleWidth dots => .scalar ' ' :: dots
  | .code128 orientation barHeight placement checkDigit mode =>
    list [orientation, barHeight, placement, checkDigit, mode]
  | .fieldData data => data

/-- The text of a command. -/
def render (c : Command) : Text := .scalar '^' :: c.code ++ c.parameters

/-- The text of commands in a row. -/
def renderAll (cs : List Command) : Text := cs.flatMap render

@[simp] theorem renderAll_nil : renderAll [] = [] := rfl

@[simp] theorem renderAll_cons (c : Command) (cs : List Command) :
    renderAll (c :: cs) = c.render ++ renderAll cs := rfl

@[simp] theorem renderAll_append (cs ds : List Command) :
    renderAll (cs ++ ds) = renderAll cs ++ renderAll ds := by
  simp [renderAll]

theorem length_code (c : Command) : c.code.length = 2 := by
  cases c <;> simp [code, Text.ofString]

end Command

end Zpl
