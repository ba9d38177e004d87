import Zpl.Text.Codec.CodeTable
import Zpl.Text.Codec.Stream

/-!
# Codecs of several bytes

Some codecs encode ASCII by single bytes, and another character by two or more. How many bytes
belong together is judged by the first of them, and what they encode is listed.

## Main definitions

* `MultiByte` — such a codec.
* `MultiByte.encoder`, `MultiByte.reader` — the two directions.

## Main statements

* `MultiByte.bytesOf?_of_ascii`, `MultiByte.front_of_ascii` — ASCII is left as it is unless
  something else is listed for it.
-/

namespace Zpl

/-- A codec that takes several bytes for a character. -/
structure MultiByte extends CodeTable where
  codec : String
  /-- How many bytes belong together, judged by the first ones. -/
  span : List UInt8 → Nat
  /-- Whether characters beyond the first plane are encoded by their numbers. -/
  isFull : Bool := false
  /-- Encodings of another form of the standard. In this one they encode nothing as a whole, where
  other bytes encode nothing one by one. -/
  absent : List (List UInt8) := []

namespace MultiByte

open CodeTable (byte number)

/-! ### Beyond the first plane -/

/-- Four bytes that tell a number. -/
def fourBytes (n : Nat) : List UInt8 :=
  [byte (0x81 + n / 12600), byte (0x30 + n / 1260 % 10), byte (0x81 + n / 10 % 126),
    byte (0x30 + n % 10)]

/-- The number of the first character beyond the first plane. -/
def firstBeyond : Nat := 189000

/-- The character beyond the first plane that four bytes tell. -/
def characterBeyond? (bs : List UInt8) : Option Char :=
  match bs.map UInt8.toNat with
  | [a, b, c, d] =>
    let n := ((a - 0x81) * 10 + (b - 0x30)) * 1260 + (c - 0x81) * 10 + (d - 0x30)
    let code := 0x10000 + n - firstBeyond
    if fourBytes n = bs ∧ firstBeyond ≤ n ∧ code < 0x110000 then some (Char.ofNat code) else none
  | _ => none

/-! ### The two directions -/

variable (m : MultiByte)

/-- The bytes of a character by itself. -/
def bytesOf? (c : Char) : Option (List UInt8) :=
  match m.bytes? c with
  | some bytes => some bytes
  | none =>
    if c.toNat < 0x80 then some [byte c.toNat]
    else if m.isFull && 0x10000 ≤ c.toNat then
      some (fourBytes (firstBeyond + c.toNat - 0x10000))
    else none

/-- ASCII is left as it is unless something else is listed for it. -/
theorem bytesOf?_of_ascii {c : Char} (h : c.toNat < 0x80) (free : m.bytes? c = none) :
    m.bytesOf? c = some [byte c.toNat] := by
  simp [bytesOf?, h, free]

/-- What bytes that belong together encode. -/
def textOf? (bs : List UInt8) : Option Text :=
  match m.text? bs with
  | some t => some t
  | none =>
    match bs with
    | [b] => if b < 0x80 then some [CodePoint.ofCode b.toNat] else none
    | bs => if m.isFull then (characterBeyond? bs).map fun c => [.scalar c] else none

/-- The bytes of a code point, given the one that follows. There is no state to speak of. -/
def step? (_ : Unit) (c : CodePoint) (next? : Option CodePoint) : Option (Coded Unit) :=
  match next?.bind (m.pairBytes? c), c with
  | some bytes, _ => some { bytes := bytes, isPair := true, state := () }
  | none, .scalar c => (m.bytesOf? c).map fun bytes => { bytes := bytes, state := () }
  | none, .surrogate _ => none

def encoder : StreamEncoder Unit where
  codec := m.codec
  start := ()
  step? := m.step?
  finish _ := []

/-- What bytes encode in front. -/
def front : List UInt8 → Piece
  | [] => .broken 0 []
  | b :: rest =>
    let length := if b < 0x80 then 1 else m.span (b :: rest)
    let together := (b :: rest).take length
    if together.length < length then .broken together.length CodecFault.incomplete
    else
      match m.textOf? together with
      | some t => .read length t
      | none =>
        .broken (if m.absent.contains together then together.length else 1) CodecFault.illegal

/-- A byte of ASCII is read as it is, whatever follows, unless something else is listed for it. -/
theorem front_of_ascii {b : UInt8} (h : b < 0x80) (free : m.text? [b] = none)
    (rest : List UInt8) : m.front (b :: rest) = .read 1 [CodePoint.ofCode b.toNat] := by
  simp [front, textOf?, h, free]

def reader : PieceReader where
  codec := m.codec
  front := m.front

end MultiByte

end Zpl
