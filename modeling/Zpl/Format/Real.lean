import Zpl.Format.Layout
import Zpl.Number

/-!
# Presentations of numbers

A binary64 value is written with so many places after the point, with an exponent after so many
digits, or in whichever of these two ways is shorter. Rounding is exact, with ties to the even
digit. An integer is written to some base, or as the character of its number.

## Main definitions

* `Binary64.toPlaces`, `Binary64.toDigits` — decimals nearest to a value.
* `Binary64.formatted`, `Integer.formatted` — numbers written by a specification.
-/

namespace Zpl

namespace Binary64

/-! ### Rounding to decimals -/

/-- No value has more decimal digits after the point. -/
def maxPlaces : Nat := 1080

/-- The decimal with some places after the point that is nearest to `m · 2 ^ q`. -/
def toPlaces (m : Nat) (q : Int) (places : Nat) : Decimal :=
  let places := min places maxPlaces
  ⟨roundDiv (m * powNum q * Nat.pow 10 places) (powDen q), -places⟩

/-- The decimal with some digits that is nearest to `m · 2 ^ q`. -/
def toDigits (m : Nat) (q : Int) (count : Nat) : Decimal :=
  if m = 0 then ⟨0, 0⟩
  else
    let grid := Decimal.mk 1 (decimalScale m q - min count maxPlaces)
    ⟨roundDiv (m * powNum q * grid.den) (powDen q * grid.num), grid.exponent⟩

/-! ### Presentations -/

/-- How a value is presented. -/
inductive Presentation where
  /-- With an exponent, after a digit and so many places. -/
  | exponent (places : Nat)
  /-- With so many places after the point. -/
  | fixed (places : Nat)
  /-- With so many digits, with an exponent if the number is large or small. -/
  | general (digits : Nat)
  /-- With as many digits as it takes to tell the value. -/
  | shortest
  deriving Repr

/-- The digits of a decimal, and the place of the point among them. No zeros come last. -/
def digitsOf (d : Decimal) : Text × Int :=
  if d.digits = 0 then ("0", 1)
  else
    let ds := Nat.toDigits 10 d.digits
    let kept := (ds.reverse.dropWhile (· = '0')).reverse
    (Text.ofChars kept, d.exponent + ds.length)

namespace Presentation

/-- The decimal that is shown for `m · 2 ^ q`. -/
def decimal (p : Presentation) (m : Nat) (q : Int) : Decimal :=
  match p with
  | .exponent places => toDigits m q (places + 1)
  | .fixed places => toPlaces m q places
  | .general count => toDigits m q count
  | .shortest => if m = 0 then ⟨0, 0⟩ else Binary64.shortest m q

/-- Whether an exponent is shown when the point has a certain place. `pointed` says that a point is
shown in any case, which takes one digit more. -/
def showsExponent (p : Presentation) (pointed : Bool) (place : Int) : Bool :=
  match p with
  | .exponent _ => true
  | .fixed _ => false
  | .general count => place ≤ -4 || (if pointed then (count : Int) - 1 else count) < place
  | .shortest => place ≤ -4 || 16 < place

/-- How many digits are shown at least, if `count` are there, when the point has a certain place. -/
def shownDigits (p : Presentation) (alternate : Bool) (place : Int) (count : Nat) : Int :=
  match p with
  | .exponent places => places + 1
  | .fixed places => place + places
  | .general digits => if alternate then digits else count
  | .shortest => count

end Presentation

/-- An exponent: its sign, and two digits at least. -/
def exponentText (mark : Char) (e : Int) : Text :=
  let digits := Nat.toDigits 10 e.natAbs
  .scalar mark :: .scalar (if e < 0 then '-' else '+')
    :: Text.ofChars (List.replicate (2 - digits.length) '0' ++ digits)

/-- How the parts of a value are shown. -/
structure RealStyle where
  presentation : Presentation
  /-- Whether there is a digit after the point in any case, unless an exponent is shown. -/
  pointed : Bool := false
  alternate : Bool := false
  plainZero : Bool := false
  inCapitals : Bool := false
  /-- What comes last. -/
  unit : Text := []
  deriving Repr

namespace RealStyle

/-- The digits of a number before and after the point, with zeros where digits are missing: those
after the point reach up to a digit. -/
def cut (ds : Text) (place shown : Int) : Text × Text :=
  let zero : CodePoint := .scalar '0'
  let whole :=
    if place ≤ 0 then [zero]
    else ds.take place.toNat ++ List.replicate (place.toNat - ds.length) zero
  let known := List.replicate (-place).toNat zero ++ ds.drop place.toNat
  (whole, known ++ List.replicate ((shown - place).toNat - known.length) zero)

/-- The parts of a finite value. -/
def finiteParts (s : RealStyle) (negative : Bool) (m : Nat) (q : Int) : NumberParts :=
  let d := s.presentation.decimal m q
  let (ds, place) := digitsOf d
  let scientific := s.presentation.showsExponent s.pointed place
  let (exponent, place') := if scientific then (place - 1, 1) else (0, place)
  let least := if s.pointed && !scientific then place' + 1 else place'
  let shown := max (s.presentation.shownDigits s.alternate place ds.length) least
  let (whole, part) := cut ds place' shown
  { isNegative := negative && !(s.plainZero && d.digits = 0)
    whole := whole
    rest := (if part.isEmpty && !s.alternate then [] else .scalar '.' :: part)
      ++ (if scientific then exponentText (if s.inCapitals then 'E' else 'e') exponent else [])
      ++ s.unit }

/-- The parts of a value. -/
def parts (s : RealStyle) : Binary64 → NumberParts
  | .nan _ =>
    { isNegative := false, whole := [], rest := (if s.inCapitals then "NAN" else "nan") ++ s.unit }
  | .infinity negative =>
    { isNegative := negative, whole := [],
      rest := (if s.inCapitals then "INF" else "inf") ++ s.unit }
  | .finite negative m q => s.finiteParts negative m q

end RealStyle

/-- The places or digits that are shown if none are told. -/
def usualPrecision : Nat := 6

/-- The greatest precision. -/
def maxPrecision : Nat := 0x7FFFFFFF

/-- The style that a specification asks for. -/
def styleOf (spec : FormatSpec) : RealStyle :=
  let precision := spec.precision.getD usualPrecision
  let usual : RealStyle :=
    { presentation := .general (max precision 1)
      alternate := spec.alternate
      plainZero := spec.plainZero }
  match spec.presentation, spec.precision with
  | .scalar 'e', _ => { usual with presentation := .exponent precision }
  | .scalar 'E', _ => { usual with presentation := .exponent precision, inCapitals := true }
  | .scalar 'f', _ => { usual with presentation := .fixed precision }
  | .scalar 'F', _ => { usual with presentation := .fixed precision, inCapitals := true }
  | .scalar 'G', _ => { usual with inCapitals := true }
  | .scalar '%', _ => { usual with presentation := .fixed precision, unit := "%" }
  | .scalar '\x00', none => { usual with presentation := .shortest, pointed := true }
  | .scalar '\x00', some _ => { usual with pointed := true }
  | _, _ => usual

/-- A value that a specification is applied to. -/
def formattedBy (capacity : Nat) (x : Binary64) (spec : FormatSpec) : Except Fault Text := do
  if maxPrecision < spec.precision.getD 0 then throw (.badFormat "precision too big")
  let x := if spec.presentation = .scalar '%' then mul x (ofInt 100) else x
  ((styleOf spec).parts x).laid capacity spec

/-- The presentations of binary64 values. -/
def presentations : List Char := ['\x00', 'e', 'E', 'f', 'F', 'g', 'G', 'n', '%']

/-- A value written by a specification. -/
def formatted (capacity : Nat) (x : Binary64) (t : Text) : Except Fault Text := do
  if t.isEmpty then return x.text
  else
    let spec ← FormatSpec.read "float" '\x00' .right t
    if (presentations.map CodePoint.scalar).contains spec.presentation then
      x.formattedBy capacity spec
    else throw (FormatSpec.unknownPresentation spec.presentation "float")

end Binary64

namespace Integer

/-- The base of a presentation, and the mark that tells it. -/
def base? : Char → Option (Nat × Text)
  | 'd' => some (10, [])
  | 'n' => some (10, [])
  | 'b' => some (2, "0b")
  | 'o' => some (8, "0o")
  | 'x' => some (16, "0x")
  | 'X' => some (16, "0X")
  | _ => none

/-- The digits of a number to a base. Only so many decimal digits are written. -/
def digitsTo (base : Nat) (inCapitals : Bool) (n : Nat) : Except Fault Text := do
  if base = 10 then Decimal.write n
  else
    let digits := Nat.toDigits base n
    return Text.ofChars (if inCapitals then digits.map Char.toUpper else digits)

/-- The fault that something is not allowed for integers. -/
def notAllowed (what : Text) : Fault :=
  .badFormat (what ++ " not allowed in integer format specifier")

/-- The fault that something is not allowed for integers that are written as characters. -/
def notAllowedHere (what : Text) : Fault :=
  .badFormat (what ++ " not allowed with integer format specifier 'c'")

/-- The character of a number, which has no digits. -/
def characterParts (n : Int) (spec : FormatSpec) : Except Fault NumberParts :=
  if spec.sign.isSome then .error (notAllowedHere "Sign")
  else if spec.alternate then .error (notAllowedHere "Alternate form (#)")
  else if !Value.isCount n then
    .error (Incident.refusal "OverflowError" "Python int too large to convert to C long")
  else if n < 0 ∨ 0x10FFFF < n then
    .error (Incident.refusal "OverflowError" "%c arg not in range(0x110000)")
  else .ok { isNegative := false, whole := [], rest := [CodePoint.ofCode n.toNat] }

/-- The parts of an integer. -/
def parts (n : Int) (spec : FormatSpec) (base : Nat) (mark : Text) :
    Except Fault NumberParts := do
  let digits ← digitsTo base (spec.presentation = .scalar 'X') n.natAbs
  return { isNegative := n < 0, mark := if spec.alternate then mark else [], whole := digits }

/-- An integer written by a specification that is not empty. `kind` is what the integer is. -/
def formatted (capacity : Nat) (kind : String) (n : Int) (t : Text) : Except Fault Text := do
  let spec ← FormatSpec.read kind 'd' .right t
  match spec.presentation with
  | .scalar c =>
    if c = 'c' ∨ (base? c).isSome then
      if spec.precision.isSome then throw (notAllowed "Precision")
      if spec.plainZero then throw (notAllowed "Negative zero coercion (z)")
    match base? c with
    | some (base, mark) => (← parts n spec base mark).laid capacity spec
    | none =>
      if c = 'c' then (← characterParts n spec).laid capacity spec
      else if c ≠ '\x00' ∧ c ≠ 'n' ∧ Binary64.presentations.contains c then
        (← liftArithmetic (Number.int n).toBinary64).formattedBy capacity spec
      else throw (FormatSpec.unknownPresentation spec.presentation kind)
  | c => throw (FormatSpec.unknownPresentation c kind)

end Integer

/-- A text written by a specification that is not empty. -/
def Text.formatted (capacity : Nat) (shown : Text) (t : Text) : Except Fault Text := do
  let spec ← FormatSpec.read "str" 's' .left t
  let refuse (what : Text) : Except Fault Text :=
    .error (.badFormat (what ++ " not allowed in string format specifier"))
  if spec.presentation ≠ .scalar 's' then
    throw (FormatSpec.unknownPresentation spec.presentation "str")
  else
    match spec.sign with
    | some .space => refuse "Space"
    | some _ => refuse "Sign"
    | none =>
      if spec.plainZero then refuse "Negative zero coercion (z)"
      else if spec.alternate then refuse "Alternate form (#)"
      else if spec.placement = .behindSign then refuse "'=' alignment"
      else spec.laid capacity shown

end Zpl
