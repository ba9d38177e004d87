import Zpl.Fault.Incident
import Zpl.Text.Numeric

/-!
# Format specifications

A format specification says how a value is written into a text: how wide the text is, what fills it
up and on which side, how signs and digits are shown, and in which presentation. Its parts come in
a fixed order, and each may be left out.

## Main definitions

* `FormatSpec` — what a specification says.
* `FormatSpec.read` — reads a specification.
-/

namespace Zpl

/-- Where a text stands in a room that is wider than it. -/
inductive Placement where
  | left
  | right
  | center
  /-- What fills up the room comes between the sign and the digits of a number. -/
  | behindSign
  deriving DecidableEq, Repr

/-- What is written in front of a number that is not negative. -/
inductive SignStyle where
  | plus
  | minus
  | space
  deriving DecidableEq, Repr

/-- What a format specification says. -/
structure FormatSpec where
  fill : CodePoint := .scalar ' '
  placement : Placement
  sign : Option SignStyle := none
  /-- Whether a negative zero loses its sign. -/
  plainZero : Bool := false
  /-- Whether the alternate form is asked for, which tells more than is needed. -/
  alternate : Bool := false
  width : Nat := 0
  /-- What separates groups of digits. -/
  separator : Option Char := none
  precision : Option Nat := none
  presentation : CodePoint
  deriving Repr

/-- The fault that a format says something that cannot be. -/
def Fault.badFormat (message : Text) : Fault :=
  .incident { kind := IncidentClass.named "ValueError", args := [.text message] }

namespace FormatSpec

/-! ### Parts -/

/-- The place that a mark stands for. -/
def placement? (c : CodePoint) : Option Placement :=
  match c with
  | .scalar '<' => some .left
  | .scalar '>' => some .right
  | .scalar '^' => some .center
  | .scalar '=' => some .behindSign
  | _ => none

/-- The sign style that a mark stands for. -/
def sign? (c : CodePoint) : Option SignStyle :=
  match c with
  | .scalar '+' => some .plus
  | .scalar '-' => some .minus
  | .scalar ' ' => some .space
  | _ => none

/-- A fill and a placement in front of a specification, and what follows. -/
def splitPlacement : Text → Option CodePoint × Option Placement × Text
  | [] => (none, none, [])
  | [c] =>
    match placement? c with
    | some p => (none, some p, [])
    | none => (none, none, [c])
  | c :: d :: rest =>
    match placement? d, placement? c with
    | some p, _ => (some c, some p, rest)
    | none, some p => (none, some p, d :: rest)
    | none, none => (none, none, c :: d :: rest)

/-- A sign in front of a specification, and what follows. -/
def splitSign : Text → Option SignStyle × Text
  | [] => (none, [])
  | c :: rest =>
    match sign? c with
    | some style => (some style, rest)
    | none => (none, c :: rest)

/-- Whether a mark stands in front of a specification, and what follows. -/
def splitMark (mark : Char) : Text → Bool × Text
  | [] => (false, [])
  | c :: rest => if c = .scalar mark then (true, rest) else (false, c :: rest)

/-- The number that decimal digits of any script spell, if it can count anything. -/
def numberOf (digits : Text) : Except Fault Nat :=
  let n : Nat := digits.foldl (fun n c => 10 * n + c.digit?.getD 0) 0
  if Value.isCount n then .ok n
  else .error (.badFormat "Too many decimal digits in format string")

/-- A number in front of a text, if one is there, and what follows. -/
def splitNumber (t : Text) : Except Fault (Option Nat × Text) := do
  let digits := t.takeWhile fun c => c.digit?.isSome
  if digits.isEmpty then return (none, t)
  else
    let n ← numberOf digits
    return (some n, t.drop digits.length)

/-- A precision after a point, if there is a point, and what follows. -/
def splitPrecision (t : Text) : Except Fault (Option Nat × Text) := do
  let (hasPoint, rest) := splitMark '.' t
  if hasPoint then
    let (precision, rest) ← splitNumber rest
    if precision.isNone then throw (.badFormat "Format specifier missing precision")
    return (precision, rest)
  else return (none, t)

/-- What separates groups of digits, and what follows; there is one separator at most. -/
def splitSeparator (t : Text) : Except Fault (Option Char × Text) := do
  let (hasComma, rest) := splitMark ',' t
  let (hasUnderscore, rest) := splitMark '_' rest
  if hasUnderscore && (hasComma || (splitMark ',' rest).1) then
    throw (.badFormat "Cannot specify both ',' and '_'.")
  else if hasComma then return (some ',', rest)
  else if hasUnderscore then return (some '_', rest)
  else return (none, rest)

/-! ### The whole -/

/-- A presentation in a message. Only ASCII shows as it is. -/
def shownPresentation (c : CodePoint) : Text :=
  if 32 < c.code ∧ c.code < 128 then [c] else "\\x" ++ Text.ofHex 0 c.code

/-- The fault that a presentation is none for a kind of values. -/
def unknownPresentation (c : CodePoint) (kind : String) : Fault :=
  .badFormat ("Unknown format code '" ++ shownPresentation c ++ "' for object of type '"
    ++ Text.ofString kind ++ "'")

/-- Presentations in which digits are separated in groups. -/
def groupedPresentations : List Char := ['d', 'e', 'f', 'g', 'E', 'G', '%', 'F', '\x00']

/-- Presentations to bases that are powers of two. -/
def binaryPresentations : List Char := ['b', 'o', 'x', 'X']

/-- Whether groups of digits are separated in a presentation by a separator. -/
def canSeparate (separator : Char) (presentation : CodePoint) : Bool :=
  (groupedPresentations.map CodePoint.scalar).contains presentation
    || separator == '_' && (binaryPresentations.map CodePoint.scalar).contains presentation

/-- Checks that groups of digits can be separated as a specification says. -/
def checkSeparator (spec : FormatSpec) : Except Fault Unit :=
  match spec.separator with
  | none => .ok ()
  | some separator =>
    if canSeparate separator spec.presentation then .ok ()
    else
      .error (.badFormat ("Cannot specify '" ++ Text.ofChars [separator] ++ "' with '"
        ++ shownPresentation spec.presentation ++ "'."))

/-- Reads a specification for values of a kind, which have a presentation and a placement where none
is told. -/
def read (kind : String) (presentation : Char) (usual : Placement) (t : Text) :
    Except Fault FormatSpec := do
  let (fill, placement, rest) := splitPlacement t
  let (sign, rest) := splitSign rest
  let (plainZero, rest) := splitMark 'z' rest
  let (alternate, rest) := splitMark '#' rest
  let (zeroFilled, rest) := if fill.isNone then splitMark '0' rest else (false, rest)
  let (width, rest) ← splitNumber rest
  let (separator, rest) ← splitSeparator rest
  let (precision, rest) ← splitPrecision rest
  let usual := if zeroFilled && usual = .right then .behindSign else usual
  let spec : FormatSpec :=
    { fill := if zeroFilled then .scalar '0' else fill.getD (.scalar ' ')
      placement := placement.getD usual
      sign := sign
      plainZero := plainZero
      alternate := alternate
      width := width.getD 0
      separator := separator
      precision := precision
      presentation := rest.headD (.scalar presentation) }
  if 1 < rest.length then
    throw (.badFormat ("Invalid format specifier '" ++ t ++ "' for object of type '"
      ++ Text.ofString kind ++ "'"))
  spec.checkSeparator
  return spec

end FormatSpec

end Zpl
