import Zpl.Format.Spec
import Zpl.Sequence.Parts

/-!
# Layout by format specifications

A text that is written by a specification is put into a room and the rest of the room is filled up.
A number is a sign, a mark, digits that may be separated in groups, and a rest. Zeros that fill up a
number in front of its digits are separated in groups as the digits are.

## Main definitions

* `FormatSpec.laid` — a text in its room.
* `NumberParts.laid` — a number in its room.
-/

namespace Zpl

namespace FormatSpec

/-- There has to be memory for a text. -/
def checkWidth (capacity : Nat) (spec : FormatSpec) : Except Fault Unit :=
  if capacity < spec.width then .error .outOfMemory else .ok ()

/-- How many fills stand before and after what leaves some of the room. -/
def margins (placement : Placement) (free : Nat) : Nat × Nat :=
  match placement with
  | .left => (0, free)
  | .center => (free / 2, free - free / 2)
  | .right => (free, 0)
  | .behindSign => (0, 0)

/-- A text with fills before and after it. -/
def between (spec : FormatSpec) (before after : Nat) (t : Text) : Text :=
  List.replicate before spec.fill ++ t ++ List.replicate after spec.fill

theorem length_between (spec : FormatSpec) (before after : Nat) (t : Text) :
    (spec.between before after t).length = before + t.length + after := by
  simp [between, Nat.add_assoc]

/-- A text in its room, of which no more is shown than the precision tells. -/
def laid (capacity : Nat) (spec : FormatSpec) (t : Text) : Except Fault Text := do
  spec.checkWidth capacity
  let shown := t.take (spec.precision.getD t.length)
  let (before, after) := margins spec.placement (spec.width - shown.length)
  return spec.between before after shown

/-- How many digits make a group. -/
def groupLength (spec : FormatSpec) : Nat :=
  if (binaryPresentations.map CodePoint.scalar).contains spec.presentation then 4 else 3

end FormatSpec

/-- The parts of a number as it is written. -/
structure NumberParts where
  isNegative : Bool
  /-- What tells the base. -/
  mark : Text := []
  /-- The digits before the point. -/
  whole : Text
  /-- The point, and whatever else comes after the digits. -/
  rest : Text := []
  deriving Repr

namespace NumberParts

/-- Digits in groups, both from the last digit on. Zeros go on with the digits until the number is
`width` long; `fuel` bounds the number of groups. -/
def groupsBackwards (length : Nat) (separator : CodePoint) :
    (fuel : Nat) → (width : Nat) → (digits : Text) → Text
  | 0, _, _ => []
  | fuel + 1, width, digits =>
    let size := min length (max (max digits.length width) 1)
    let group := digits.take size ++ List.replicate (size - digits.length) (.scalar '0')
    let digits := digits.drop size
    let width := width - size
    if digits.isEmpty && width = 0 then group
    else group ++ separator :: groupsBackwards length separator fuel (width - 1) digits

/-- Digits in groups, with zeros in front if the number would be shorter than `width`. -/
def grouped (length : Nat) (separator? : Option Char) (width : Nat) (digits : Text) : Text :=
  match separator? with
  | none => List.replicate (width - digits.length) (.scalar '0') ++ digits
  | some separator =>
    (groupsBackwards length (.scalar separator) (digits.length + width + 1) width
      digits.reverse).reverse

/-- What is written in front of a number to tell its sign. -/
def signText (style : Option SignStyle) (isNegative : Bool) : Text :=
  if isNegative then "-"
  else
    match style with
    | some .plus => "+"
    | some .space => " "
    | _ => []

/-- A number in its room. -/
def laid (capacity : Nat) (p : NumberParts) (spec : FormatSpec) : Except Fault Text := do
  spec.checkWidth capacity
  let front := signText spec.sign p.isNegative ++ p.mark
  let room := spec.width - (front.length + p.rest.length)
  let fillsWithZeros := spec.fill = .scalar '0' && spec.placement = .behindSign
  let digits :=
    if p.whole.isEmpty then []
    else grouped spec.groupLength spec.separator (if fillsWithZeros then room else 0) p.whole
  let written := front ++ digits ++ p.rest
  let free := spec.width - written.length
  if spec.placement = .behindSign then
    return front ++ List.replicate free spec.fill ++ digits ++ p.rest
  else
    let (before, after) := FormatSpec.margins spec.placement free
    return spec.between before after written

end NumberParts

end Zpl
