import Zpl.Text.Codec.Reader
import Zpl.Text.Codec.Unicode

/-!
# UTF-7

UTF-7 writes texts in ASCII. Most ASCII characters stand for themselves. Others stand in stretches
between a plus sign and a minus sign, where each digit in base sixty-four tells six bits of the
numbers that UTF-16 has for them. A stretch may also end with any character that is no such digit,
and a plus sign is written as an empty stretch.

## Main definitions

* `Shift.encode` — the bytes of a text; every text has some.
* `Shift.decode` — the text of some bytes.
-/

namespace Zpl.Shift

/-! ### Digits -/

/-- The character of a digit in base sixty-four. -/
def digit (n : Nat) : Char :=
  if n < 26 then Char.ofNat (0x41 + n)
  else if n < 52 then Char.ofNat (0x61 + (n - 26))
  else if n < 62 then Char.ofNat (0x30 + (n - 52))
  else if n = 62 then '+'
  else '/'

/-- The digit in base sixty-four that a character is. -/
def digit? (n : Nat) : Option Nat :=
  if 0x41 ≤ n ∧ n ≤ 0x5A then some (n - 0x41)
  else if 0x61 ≤ n ∧ n ≤ 0x7A then some (n - 0x61 + 26)
  else if 0x30 ≤ n ∧ n ≤ 0x39 then some (n - 0x30 + 52)
  else if n = 0x2B then some 62
  else if n = 0x2F then some 63
  else none

def isDigit (n : Nat) : Bool := (digit? n).isSome

/-- Whether a character stands for itself when a text is encoded. -/
def isPlain (n : Nat) : Bool :=
  n = 0x9 || n = 0xA || n = 0xD || (0x20 ≤ n && n < 0x7E && n != 0x2B && n != 0x5C)

/-! ### Encoding -/

/-- Bits that wait for others to make up a digit. -/
structure Bits where
  number : Nat := 0
  count : Nat := 0

namespace Bits

/-- The digits of some bits in groups of six, and the bits that are left; `fuel` is at least the
number of groups. -/
def digits : (fuel : Nat) → Bits → List Char × Bits
  | 0, b => ([], b)
  | fuel + 1, b =>
    if 6 ≤ b.count then
      let rest := Nat.pow 2 (b.count - 6)
      let (others, left) := digits fuel ⟨b.number % rest, b.count - 6⟩
      (digit (b.number / rest) :: others, left)
    else ([], b)

/-- The digits that sixteen further bits make up. -/
def push (b : Bits) (unit : Nat) : List Char × Bits :=
  digits 4 ⟨b.number * 0x10000 + unit, b.count + 16⟩

/-- The digits that some numbers make up. -/
def pushAll (b : Bits) : List Nat → List Char × Bits
  | [] => ([], b)
  | unit :: units =>
    let (first, b) := b.push unit
    let (others, b) := b.pushAll units
    (first ++ others, b)

/-- The digit of the bits that are left at the end of a stretch. -/
def last (b : Bits) : List Char :=
  if b.count = 0 then [] else [digit (b.number * Nat.pow 2 (6 - b.count))]

end Bits

/-- The characters of a text; in a stretch there are bits left over. -/
def encodeFrom : Option Bits → Text → List Char
  | none, [] => []
  | some b, [] => b.last ++ ['-']
  | none, c :: rest =>
    if c.code = 0x2B then '+' :: '-' :: encodeFrom none rest
    else if isPlain c.code then Char.ofNat c.code :: encodeFrom none rest
    else
      let (digits, b) := Bits.pushAll {} (Utf16.units c.code)
      '+' :: digits ++ encodeFrom (some b) rest
  | some b, c :: rest =>
    if isPlain c.code then
      let mark := if isDigit c.code || c.code == 0x2D then ['-'] else []
      b.last ++ mark ++ Char.ofNat c.code :: encodeFrom none rest
    else
      let (digits, b) := b.pushAll (Utf16.units c.code)
      digits ++ encodeFrom (some b) rest

/-- The bytes of a text. -/
def encode (t : Text) : List UInt8 := (encodeFrom none t).map fun c => UInt8.ofNat c.toNat

/-! ### Decoding -/

/-- A stretch that is being read: where it starts, the bytes from there on, the bits left over, and
the first of two surrogates. -/
structure Stretch where
  start : Nat
  bytes : List UInt8
  bits : Bits := {}
  surrogate? : Option Nat := none

namespace Stretch

/-- The surrogate that still waits for another one. -/
def waiting (s : Stretch) : Text := (s.surrogate?.map CodePoint.ofCode).toList

/-- A stretch after a number of sixteen bits, and the code points that are read with it. -/
def take (s : Stretch) (bits : Bits) (unit : Nat) : Text × Stretch :=
  match s.surrogate? with
  | some high =>
    if Utf16.isLow unit then
      ([CodePoint.ofCode (Utf16.joined high unit)], { s with bits := bits, surrogate? := none })
    else if Utf16.isHigh unit then
      (s.waiting, { s with bits := bits, surrogate? := some unit })
    else
      (s.waiting ++ [CodePoint.ofCode unit], { s with bits := bits, surrogate? := none })
  | none =>
    if Utf16.isHigh unit then ([], { s with bits := bits, surrogate? := some unit })
    else ([CodePoint.ofCode unit], { s with bits := bits })

/-- A stretch after a digit, and the code points that are read with it. -/
def push (s : Stretch) (digit : Nat) : Text × Stretch :=
  let number := s.bits.number * 64 + digit
  let count := s.bits.count + 6
  if 16 ≤ count then
    let rest := Nat.pow 2 (count - 16)
    s.take ⟨number % rest, count - 16⟩ (number / rest)
  else ([], { s with bits := ⟨number, count⟩ })

/-- Why a stretch must not end. -/
def obstacle? (s : Stretch) : Option Text :=
  if 6 ≤ s.bits.count then some "partial character in shift sequence"
  else if s.bits.number ≠ 0 then some "non-zero padding bits in shift sequence"
  else none

/-- Whether a text may end with a stretch. -/
def isComplete (s : Stretch) : Bool := s.surrogate?.isNone && s.obstacle?.isNone

end Stretch

/-- What stands for a part that encodes nothing, and how many of the bytes from its start it stands
for. -/
def mend (policy : CodecPolicy) (start stop : Nat) (reason : Text) (bs : List UInt8) :
    Except CodecObstacle (Nat × Text) :=
  let reader : PieceReader := { codec := "utf7", front := fun _ => .broken 1 reason }
  let fault : CodecFault :=
    { codec := "utf7", start := start, stop := stop, reason := reason }
  reader.mend policy fault (stop - start) bs

/-- The text of some bytes, which stand at a place. Where a part encodes nothing and less of it than
all is replaced, reading goes on behind what is replaced; `fuel` bounds how many bytes are read. -/
def decodeFrom (policy : CodecPolicy) :
    (fuel : Nat) → (place : Nat) → List UInt8 → Option Stretch → Except CodecObstacle Text
  | 0, _, _, _ => .ok []
  | fuel + 1, place, bs, state => do
    let broken (start stop : Nat) (bytes : List UInt8) (reason : Text) :
        Except CodecObstacle Text := do
      let (length, t) ← mend policy start stop reason bytes
      let others ← decodeFrom policy fuel (start + length) (bytes.drop length) none
      return t ++ others
    match bs, state with
    | [], none => return []
    | [], some s =>
      if s.isComplete then return []
      else broken s.start place s.bytes "unterminated shift sequence"
    | b :: rest, some s =>
      match digit? b.toNat with
      | some n =>
        let (t, s) := s.push n
        let others ← decodeFrom policy fuel (place + 1) rest (some s)
        return t ++ others
      | none =>
        match s.obstacle? with
        | some reason => broken s.start (place + 1) s.bytes reason
        | none =>
          let t := if b < 0x80 then s.waiting else []
          let others ←
            if b = 0x2D then decodeFrom policy fuel (place + 1) rest none
            else decodeFrom policy fuel place (b :: rest) none
          return t ++ others
    | b :: rest, none =>
      if b = 0x2B then
        let stretch : Stretch := { start := place, bytes := b :: rest }
        match rest with
        | next :: after =>
          if next = 0x2D then
            let others ← decodeFrom policy fuel (place + 2) after none
            return .scalar '+' :: others
          else if isDigit next.toNat then
            decodeFrom policy fuel (place + 1) rest (some stretch)
          else broken place (place + 2) (b :: rest) "ill-formed sequence"
        | [] => decodeFrom policy fuel (place + 1) [] (some stretch)
      else if b < 0x80 then
        let others ← decodeFrom policy fuel (place + 1) rest none
        return CodePoint.ofCode b.toNat :: others
      else broken place (place + 1) (b :: rest) "unexpected special character"

/-- The text of some bytes. -/
def decode (policy : CodecPolicy) (bs : List UInt8) : Except CodecObstacle Text :=
  decodeFrom policy (2 * bs.length + 2) 0 bs none

end Zpl.Shift
