import Zpl.Text.Casing
import Zpl.Text.Codec.Point
import Zpl.Text.Codec.Reader

/-!
# Punycode

Punycode writes a text in letters, digits and hyphens. The ASCII characters come first; after a
hyphen, numbers tell which other code points there are and where they go, in the order of the code
points. A number is written in digits to the base of thirty-six, of which the last one is told by
being below a threshold. Thresholds depend on a bias that follows the size of the numbers before.

## Main definitions

* `Punycode.encode`, `Punycode.decode` — the two directions.
-/

namespace Zpl

/-! ### ASCII -/

namespace Ascii

/-- The reason why something has no encoding in ASCII, and encodes nothing. -/
def reason : Text := "ordinal not in range(128)"

def encoder : PointEncoder where
  codec := "ascii"
  reason := reason
  bytes? c := if c.code < 0x80 then some [UInt8.ofNat c.code] else none

/-- What bytes encode in front. -/
def front : List UInt8 → Piece
  | [] => .broken 0 []
  | b :: _ => if b < 0x80 then .point 1 (CodePoint.ofCode b.toNat) else .broken 1 reason

def reader : PieceReader where
  codec := "ascii"
  front := front

/-- The text of some of the bytes that are to be decoded. -/
def decodePart (policy : CodecPolicy) (bs : List UInt8) : Except CodecObstacle Text :=
  match reader.decode policy bs with
  | .ok t => .ok t
  | .error obstacle => .error (obstacle.within bs)

/-- Whether all of a text is in ASCII. -/
def covers (t : Text) : Bool := t.all fun c => c.code < 0x80

/-- The bytes of a text in ASCII. -/
def bytes (t : Text) : List UInt8 := t.map fun c => UInt8.ofNat c.code

end Ascii

namespace Punycode

/-! ### Numbers -/

/-- The character of a digit. -/
def digit (n : Nat) : Char := if n < 26 then Char.ofNat (0x61 + n) else Char.ofNat (n - 26 + 0x30)

/-- The digit that a capital letter or a decimal digit is. -/
def digit? (c : CodePoint) : Option Nat :=
  if 0x41 ≤ c.code ∧ c.code ≤ 0x5A then some (c.code - 0x41)
  else if 0x30 ≤ c.code ∧ c.code ≤ 0x39 then some (c.code - 0x30 + 26)
  else none

/-- The threshold of the digit at a place. -/
def threshold (place bias : Nat) : Nat := max 1 (min 26 (36 * (place + 1) - bias))

theorem one_le_threshold (place bias : Nat) : 1 ≤ threshold place bias := Nat.le_max_left _ _

theorem threshold_le (place bias : Nat) : threshold place bias ≤ 26 :=
  Nat.max_le.2 ⟨by decide, Nat.min_le_left _ _⟩

/-- The digits of a number from a place on. -/
def digits (bias place n : Nat) : List Char :=
  let t := threshold place bias
  if n < t then [digit n]
  else digit (t + (n - t) % (36 - t)) :: digits bias (place + 1) ((n - t) / (36 - t))
termination_by n
decreasing_by
  have positive := one_le_threshold place bias
  exact Nat.lt_of_le_of_lt (Nat.div_le_self _ _) (by omega)

/-- A difference divided until it is small, and the bias that this makes up for. -/
def settled (delta bias : Nat) : Nat × Nat :=
  if 455 < delta then settled (delta / 35) (bias + 36) else (delta, bias)
termination_by delta
decreasing_by exact Nat.div_lt_self (by omega) (by omega)

/-- The bias after a number, when there are so many code points. -/
def adapted (delta : Nat) (isFirst : Bool) (count : Nat) : Nat :=
  let delta := if isFirst then delta / 700 else delta / 2
  let (delta, bias) := settled (delta + delta / count) 0
  bias + 36 * delta / (delta + 38)

/-! ### Encoding -/

/-- How far a text is encoded. -/
structure Progress where
  /-- What is written, the last character first. -/
  written : List Char := []
  bias : Nat := 72
  delta : Nat := 0
  /-- How many code points are written. -/
  count : Nat
  isFirst : Bool := true

namespace Progress

/-- Passes a code point of the text while those of a number are written. -/
def pass (n : Nat) (p : Progress) (c : CodePoint) : Progress :=
  if c.code < n then { p with delta := p.delta + 1 }
  else if c.code = n then
    { written := (digits p.bias 0 p.delta).reverse ++ p.written
      bias := adapted p.delta p.isFirst (p.count + 1)
      delta := 0
      count := p.count + 1
      isFirst := false }
  else p

/-- Writes the code points of the numbers to come; those below `next` are written. -/
def writeAll (t : Text) (next : Nat) (p : Progress) : List Nat → Progress
  | [] => p
  | n :: ns =>
    let p := { p with delta := p.delta + (n - next) * (p.count + 1) }
    let p := t.foldl (pass n) p
    writeAll t (n + 1) { p with delta := p.delta + 1 } ns

end Progress

/-- The numbers of the code points of a text beyond ASCII, in ascending order. -/
def furtherCodes (t : Text) : List Nat :=
  ((t.map CodePoint.code).filter (0x80 ≤ ·)).eraseDups.mergeSort

/-- A text in ASCII. -/
def encode (t : Text) : Text :=
  let base := t.filter fun c => c.code < 0x80
  let further := (Progress.writeAll t 0x80 { count := base.length } (furtherCodes t)).written
  base ++ (if base.isEmpty then [] else ("-" : Text)) ++ Text.ofChars further.reverse

/-! ### Decoding -/

/-- The number in front of some digits, and what comes after it. -/
def readNumber (bias place weight sum : Nat) : Text → Except Text (Nat × Text)
  | [] => .error "incomplete punicode string"
  | c :: rest =>
    match digit? c with
    | none => .error ("Invalid extended code point '" ++ [c] ++ "'")
    | some d =>
      let t := threshold place bias
      let sum := sum + d * weight
      if d < t then .ok (sum, rest)
      else readNumber bias (place + 1) (weight * (36 - t)) sum rest

/-- A text with the code points put in that some numbers tell. `code` and `place` are those of the
one before; `fuel` bounds how many there are. Without strictness the rest is left out after a
fault. -/
def insertAll (strict : Bool) : (fuel : Nat) → (bias code place : Nat) → (isFirst : Bool) →
    (base further : Text) → Except Text Text
  | 0, _, _, _, _, base, _ => .ok base
  | _ + 1, _, _, _, _, base, [] => .ok base
  | fuel + 1, bias, code, place, isFirst, base, further =>
    match readNumber bias 0 1 0 further with
    | .error reason => if strict then .error reason else .ok base
    | .ok (delta, rest) =>
      let place := place + delta
      let code := code + place / (base.length + 1)
      if 0x10FFFF < code ∧ strict then
        .error ("Invalid character U+" ++ Text.ofHex 0 code)
      else
        let code := if 0x10FFFF < code then 0x3F else code
        let place := place % (base.length + 1)
        let base := base.insertIdx place (CodePoint.ofCode code)
        insertAll strict fuel (adapted delta isFirst base.length) code (place + 1) false base rest

/-- Some bytes after the last hyphen, and those before it. -/
def halves (bs : List UInt8) : List UInt8 × List UInt8 :=
  let (further, base) := bs.reverse.span (· != 0x2D)
  (further.reverse, (base.drop 1).reverse)

/-- The text of some bytes. -/
def decode (policy : CodecPolicy) (bs : List UInt8) : Except CodecObstacle Text := do
  let (further, base) := halves bs
  let base ← Ascii.decodePart policy base
  let further ← Ascii.decodePart .refuse further
  match insertAll (policy = .refuse) (further.length + 1) 72 0x80 0 true base further.upper with
  | .ok t => return t
  | .error reason => throw (.refused reason)

end Punycode

end Zpl
