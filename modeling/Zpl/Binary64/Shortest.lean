import Zpl.Binary64.Basic
import Zpl.Text.Basic

/-!
# The shortest decimal text of a binary64 value

A value is written with the fewest decimal digits that read back to it, and among those with the
digits nearest to it. A number is laid out positionally when its leading digit stands for a power
of ten from `10 ^ -4` to `10 ^ 15`, and with an exponent of at least two digits otherwise. A
positional number always shows a decimal point.

## Main definitions

* `Binary64.shortest` — digits and exponent of the shortest decimal.
* `Binary64.text` — its layout.
-/

namespace Zpl.Binary64

/-- A decimal: `digits · 10 ^ exponent`. -/
structure Decimal where
  digits : Nat
  exponent : Int
  deriving DecidableEq, Repr

namespace Decimal

def num (d : Decimal) : Nat := d.digits * Nat.pow 10 d.exponent.toNat

def den (d : Decimal) : Nat := Nat.pow 10 (-d.exponent).toNat

/-- Compares a decimal with `n · 2 ^ q`. -/
def compareDyadic (d : Decimal) (n : Nat) (q : Int) : Ordering :=
  compare (d.num * powDen q) (n * powNum q * d.den)

end Decimal

/-- Whether a decimal lies among the reals that round to `m · 2 ^ q`. Half a unit away on either
side they end, a quarter below where the mantissa is the least of its power of two; the ends
belong to an even mantissa. -/
def readsBack (m : Nat) (q : Int) (d : Decimal) : Bool :=
  let low := if 2 * m = mantissaBound ∧ minExponent < q then 4 * m - 1 else 4 * m - 2
  let high := 4 * m + 2
  let withEnds := m % 2 == 0
  let below := d.compareDyadic low (q - 2)
  let above := d.compareDyadic high (q - 2)
  (below == .gt || (withEnds && below == .eq)) && (above == .lt || (withEnds && above == .eq))

/-- The least `k` with `m · 2 ^ q < 10 ^ k`, for a positive mantissa. -/
def decimalScale (m : Nat) (q : Int) : Int :=
  let estimate := ((m.log2 : Int) + q) * 30103 / 100000 - 1
  let exceeds (k : Int) : Bool := (Decimal.mk 1 k).compareDyadic m q == .gt
  (([0, 1, 2, 3].map (estimate + ·)).find? exceeds).getD (estimate + 4)

/-- The decimal with the given exponent that reads back to `m · 2 ^ q` and is nearest to it, if
one does; a tie goes to even digits. -/
def nearestOnGrid (m : Nat) (q : Int) (exponent : Int) : Option Decimal :=
  let digits :=
    (m * powNum q * (Decimal.mk 1 exponent).den) / (powDen q * (Decimal.mk 1 exponent).num)
  let lower := Decimal.mk digits exponent
  let upper := Decimal.mk (digits + 1) exponent
  match readsBack m q lower, readsBack m q upper with
  | false, false => none
  | true, false => some lower
  | false, true => some upper
  | true, true =>
    match (Decimal.mk (2 * digits + 1) exponent).compareDyadic (2 * m) q with
    | .gt => some lower
    | .lt => some upper
    | .eq => some (if digits % 2 = 0 then lower else upper)

/-- Moves trailing zeros of the digits into the exponent; a number has at most `fuel` of them. -/
def stripZeros : (fuel : Nat) → Decimal → Decimal
  | 0, d => d
  | fuel + 1, d =>
    if d.digits ≠ 0 ∧ d.digits % 10 = 0 then stripZeros fuel ⟨d.digits / 10, d.exponent + 1⟩
    else d

/-- The shortest decimal that reads back to `m · 2 ^ q`, for a positive mantissa. Seventeen digits
always suffice; the exact value stands in where none was found. -/
def shortest (m : Nat) (q : Int) : Decimal :=
  let k := decimalScale m q
  let found := (List.range 17).findSome? fun n : Nat => nearestOnGrid m q (k - (n + 1))
  stripZeros 20 (found.getD ⟨m * powNum q * Nat.pow 5 (-q).toNat, min q 0⟩)

/-! ### Layout -/

/-- Exponents of the leading digit that are written positionally. -/
def isPositional (e : Int) : Bool := -4 ≤ e && e < 16

/-- The digits of a decimal with the point where its exponent puts it. -/
def layout (d : Decimal) : Text :=
  let ds := Nat.toDigits 10 d.digits
  let e : Int := d.exponent + ds.length - 1
  if isPositional e then
    if e < 0 then
      "0." ++ Text.ofChars (List.replicate (-e - 1).toNat '0' ++ ds)
    else
      let whole := ds.take (e + 1).toNat
      let part := ds.drop (e + 1).toNat
      Text.ofChars (whole ++ List.replicate ((e + 1).toNat - ds.length) '0') ++ "." ++
        (if part.isEmpty then ("0" : Text) else Text.ofChars part)
  else
    let exponent := Nat.toDigits 10 e.natAbs
    Text.ofChars (ds.take 1) ++
      (if ds.length ≤ 1 then ([] : Text) else "." ++ Text.ofChars (ds.drop 1)) ++
      (if e < 0 then ("e-" : Text) else "e+") ++
      Text.ofChars (List.replicate (2 - exponent.length) '0' ++ exponent)

/-- The text of a value. -/
def text : Binary64 → Text
  | .nan _ => "nan"
  | .infinity true => "-inf"
  | .infinity false => "inf"
  | .finite negative m q =>
    (if negative then ("-" : Text) else []) ++
      (if m = 0 then ("0.0" : Text) else layout (shortest m q))

end Zpl.Binary64
