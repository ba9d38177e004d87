import Zpl.Sequence.Search
import Zpl.Text.Casing
import Zpl.Text.Codec.Punycode
import Zpl.Text.Direction
import Zpl.Text.Normal

/-!
# Names of hosts

Names of hosts are written in ASCII, label by label: a label that is not in ASCII is folded, written
in Punycode and marked. Folding makes letters small, and brings the label into its normal form. Some
code points have no place in a name, and directions of writing must not mix in a label.

## Main definitions

* `HostName.prepared` — a label as names have it.
* `HostName.encode`, `HostName.decode` — the two directions.
-/

namespace Zpl.HostName

/-- What a label in Punycode begins with. -/
def mark : Text := "xn--"

/-- The longest label has one code point less. -/
def bound : Nat := 64

/-- Code points that are left out of names. -/
def ignored : CodeClass :=
  ⟨[0xAD, 0xAE, 0x34F, 0x350, 0x1806, 0x1807, 0x180B, 0x180E, 0x200B, 0x200E, 0x2060, 0x2061,
    0xFE00, 0xFE10, 0xFEFF, 0xFF00]⟩

/-- Code points that no name has: blanks, controls, and those for private use. -/
def forbidden : CodeClass :=
  ⟨[0x80, 0xA1, 0x340, 0x342, 0x6DD, 0x6DE, 0x70F, 0x710, 0x1680, 0x1681, 0x180E, 0x180F, 0x2000,
    0x2010, 0x2028, 0x2030, 0x205F, 0x2064, 0x206A, 0x2070, 0x2FF0, 0x2FFC, 0x3000, 0x3001, 0xD800,
    0xF900, 0xFDD0, 0xFDF0, 0xFEFF, 0xFF00, 0xFFF9, 0x10000, 0x1D173, 0x1D17B, 0x1FFFE, 0x20000,
    0x2FFFE, 0x30000, 0x3FFFE, 0x40000, 0x4FFFE, 0x50000, 0x5FFFE, 0x60000, 0x6FFFE, 0x70000,
    0x7FFFE, 0x80000, 0x8FFFE, 0x90000, 0x9FFFE, 0xA0000, 0xAFFFE, 0xB0000, 0xBFFFE, 0xC0000,
    0xCFFFE, 0xD0000, 0xDFFFE, 0xE0000, 0xE0001, 0xE0002, 0xE0020, 0xE0080, 0xEFFFE, 0x110000]⟩

/-- Letters whose small form is not the one that names have. -/
def exceptions : List (Char × String) := [('ß', "ss"), ('ς', "σ"), ('\u0345', "ι")]

/-- The small form of a code point. -/
def small (c : CodePoint) : Text :=
  c.lower.flatMap fun c =>
    match exceptions.find? fun entry => .scalar entry.1 == c with
    | some (_, form) => Text.ofString form
    | none => [c]

/-- A label in small letters and in its normal form. What a form of a capital letter stands for is
made small too. -/
def folded (label : Text) : Text :=
  Text.normal ((label.flatMap small).flatMap CodePoint.decomposed |>.flatMap small)

/-- Why a label mixes directions of writing as it must not. If there are letters that are written
from right to left, there are none of the others, and the first and the last code point are such. -/
def mixture? (label : Text) : Option Text :=
  if !label.any leftwardClass.contains then none
  else if label.any rightwardClass.contains then some "Violation of BIDI requirement 2"
  else if label.head?.any leftwardClass.contains && label.getLast?.any leftwardClass.contains then
    none
  else some "Violation of BIDI requirement 3"

/-- A label as names have it: folded, and without what is left out. -/
def prepared (label : Text) : Except CodecObstacle Text :=
  let label := folded (label.filter fun c => !ignored.contains c)
  match label.find? forbidden.contains with
  | some c => .error (.refused ("Invalid character " ++ Text.quoted [c]))
  | none =>
    match mixture? label with
    | some reason => .error (.refused reason)
    | none => .ok label

/-- A label of a fitting length. -/
def sized (label : Text) : Except CodecObstacle Text :=
  if label.isEmpty || bound ≤ label.length then .error (.refused "label empty or too long")
  else .ok label

/-- A label in ASCII. -/
def encodeLabel (label : Text) : Except CodecObstacle Text := do
  if Ascii.covers label then sized label
  else
    let label ← prepared label
    if Ascii.covers label then sized label
    else if mark.isPrefixOf label then throw (.refused "Label starts with ACE prefix")
    else sized (mark ++ Punycode.encode label)

/-- Whether a code point separates labels. -/
def isDot (c : CodePoint) : Bool := [0x2E, 0x3002, 0xFF0E, 0xFF61].contains c.code

/-- Parts of a list between items that separate them. -/
def parts {α : Type} (separates : α → Bool) (s : List α) : List (List α) :=
  s.foldr
    (fun a parts =>
      if separates a then [] :: parts
      else
        match parts with
        | [] => [[a]]
        | part :: rest => (a :: part) :: rest)
    [[]]

/-- Checks the lengths of labels in ASCII, of which the last one may be empty. -/
def checkLengths : List Text → Except CodecObstacle Unit
  | [] => .ok ()
  | [last] => if bound ≤ last.length then .error (.refused "label too long") else .ok ()
  | label :: rest => do
    let _ ← sized label
    checkLengths rest

/-- Labels as a name. The name ends with a dot if the last label is empty. -/
def joined {α : Type} (label : List α → Except CodecObstacle Text) (ls : List (List α)) :
    Except CodecObstacle Text := do
  let isRooted := ls.getLast?.any List.isEmpty
  let written ← (if isRooted then ls.dropLast else ls).mapM label
  return Text.join "." written ++ (if isRooted then ("." : Text) else [])

/-- A name in ASCII. -/
def encode (t : Text) : Except CodecObstacle Text := do
  let labels := parts isDot t
  if Ascii.covers t then
    checkLengths labels
    return t
  else joined encodeLabel labels

/-- A fault of a label in Punycode. -/
def nested : CodecObstacle → CodecObstacle
  | .refused reason =>
    .refused ("decoding with 'punycode' codec failed (UnicodeError: " ++ reason ++ ")")
  | other => other

/-- A label as it was before it was written in ASCII. -/
def decodeLabel (label : List UInt8) : Except CodecObstacle Text := do
  if (Ascii.bytes mark).isPrefixOf label then
    match Punycode.decode .refuse (label.drop mark.length) with
    | .error obstacle => throw (nested obstacle)
    | .ok t =>
      let again ← encodeLabel t
      let name ← Ascii.decodePart .refuse label
      if name.lower = again then return t
      else throw (.differing "IDNA does not round-trip" label (Ascii.bytes again))
  else Ascii.decodePart .refuse label

/-- A name as it was before it was written in ASCII. -/
def decode (bs : List UInt8) : Except CodecObstacle Text :=
  if (Sequence.cut? (Ascii.bytes mark) bs).isSome || bs.any (0x80 ≤ ·) then
    joined decodeLabel (parts (· == 0x2E) bs)
  else Ascii.reader.decode .refuse bs

end Zpl.HostName
