import Zpl.Text.Codec.EastAsian

/-!
# The HZ codec

HZ writes Chinese texts in ASCII. A tilde with an opening brace begins a stretch of characters of GB
2312, two bytes each, and one with a closing brace ends it. A tilde is written twice, and one at the
end of a line joins it to the next one.

## Main definitions

* `Hz.encoder`, `Hz.reader` — the two directions.
-/

namespace Zpl.Hz

open CodeTable (byte)

def tilde : UInt8 := 0x7E

/-- What begins a stretch. -/
def opening : List UInt8 := [tilde, 0x7B]

/-- What ends a stretch. -/
def closing : List UInt8 := [tilde, 0x7D]

/-- The characters of a stretch. -/
def table (rows : List CellRun) : CodeTable := .ofEncodings [] (Framing.low.ofTable rows) []

/-- The bytes of a code point; the state says whether there is a stretch. -/
def step? (isInside : Bool) (c : CodePoint) (_ : Option CodePoint) : Option (Coded Bool) :=
  if c.code < 0x80 then
    some { bytes := (if isInside then closing else []) ++ [byte c.code]
             ++ (if byte c.code = tilde then [tilde] else []),
           state := false }
  else
    match c with
    | .scalar c =>
      ((table Grid.gb2312).bytes? c).map fun bytes =>
        { bytes := (if isInside then [] else opening) ++ bytes, state := true }
    | .surrogate _ => none

/-- The name of the codec in diagnostics. -/
def codecName : Text := "hz"

def encoder : StreamEncoder Bool where
  codec := codecName
  start := false
  step? := step?
  finish isInside := if isInside then closing else []

/-- What a tilde and the byte after it stand for, and whether there is a stretch afterwards. -/
def marked? (isInside : Bool) (b : UInt8) : Option (Text × Bool) :=
  match isInside, Char.ofNat b.toNat with
  | false, '~' => some ("~", false)
  | false, '\x7b' => some ([], true)
  | false, '\n' => some ([], false)
  | true, '\x7d' => some ([], false)
  | _, _ => none

/-- What bytes encode in front, and whether there is a stretch afterwards. -/
def front (isInside : Bool) (bs : List UInt8) : Piece × Bool :=
  let illegal : Piece := .broken 1 CodecFault.illegal
  match bs with
  | [] => (.broken 0 [], isInside)
  | b :: rest =>
    if 0x80 ≤ b then (illegal, isInside)
    else if b ≠ tilde ∧ !isInside then (.point 1 (CodePoint.ofCode b.toNat), isInside)
    else
      match rest with
      | [] => (.broken 1 CodecFault.incomplete, isInside)
      | next :: _ =>
        if b = tilde then
          match marked? isInside next with
          | some (t, isInside) => (.read 2 t, isInside)
          | none => (illegal, isInside)
        else
          match (table Grid.gb2312).text? [b, next] with
          | some t => (.read 2 t, isInside)
          | none => (illegal, isInside)

def reader : StreamReader Bool where
  codec := codecName
  start := false
  front isInside bs := .ok (front isInside bs)

end Zpl.Hz
