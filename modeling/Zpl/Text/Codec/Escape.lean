import Zpl.Text.Codec.Reader

/-!
# Escapes in ASCII and Latin-1

Two codecs write what they have no byte for as an escape after a backslash. The full one writes
ASCII only and has escapes for line layout, for backslashes and for numbers of characters; it also
reads escapes for names of characters. The raw one leaves Latin-1 as it is and knows only two
escapes, for the numbers of other characters. So raw text may read as an escape that was none.

## Main definitions

* `Escape.encode`, `Escape.reader` — the full escapes.
* `Escape.encodeRaw`, `Escape.readerRaw` — the raw ones.
-/

namespace Zpl.Escape

/-- The bytes of an ASCII text. -/
def bytesOf (t : Text) : List UInt8 := t.map fun c => UInt8.ofNat c.code

/-! ### Encoding -/

/-- A code point as the full codec writes it. -/
def escaped (c : CodePoint) : Text :=
  if c.code = 0x9 then "\\t"
  else if c.code = 0xA then "\\n"
  else if c.code = 0xD then "\\r"
  else if c.code = 0x5C then "\\\\"
  else if 0x20 ≤ c.code ∧ c.code < 0x7F then [c]
  else Text.escapedByCode c.code

def encode (t : Text) : List UInt8 := bytesOf (t.flatMap escaped)

def encodeRaw (t : Text) : List UInt8 :=
  bytesOf (t.flatMap fun c => if c.code < 0x100 then [c] else Text.escapedByCode c.code)

/-! ### Decoding -/

/-- The value of a hexadecimal digit. -/
def hexDigit? (b : UInt8) : Option Nat :=
  let n := b.toNat
  if 0x30 ≤ n ∧ n ≤ 0x39 then some (n - 0x30)
  else if 0x41 ≤ n ∧ n ≤ 0x46 then some (n - 0x41 + 10)
  else if 0x61 ≤ n ∧ n ≤ 0x66 then some (n - 0x61 + 10)
  else none

/-- The value of an octal digit. -/
def octalDigit? (b : UInt8) : Option Nat :=
  if 0x30 ≤ b ∧ b ≤ 0x37 then some (b.toNat - 0x30) else none

/-- The number that up to `count` digits in front spell after others, and how many there are. -/
def readDigits (digit? : UInt8 → Option Nat) (base : Nat) :
    (count : Nat) → (number : Nat) → List UInt8 → Nat × Nat
  | count + 1, number, b :: rest =>
    match digit? b with
    | some d =>
      let (n, length) := readDigits digit? base count (number * base + d) rest
      (n, length + 1)
    | none => (number, 0)
  | _, number, _ => (number, 0)

/-- An escape for a number of `count` hexadecimal digits, which come after a backslash and a
letter. -/
def numbered (count : Nat) (short large : Text) (bs : List UInt8) : Piece :=
  let (n, length) := readDigits hexDigit? 16 count 0 bs
  if length < count then .broken (2 + length) short
  else if 0x110000 ≤ n then .broken (2 + count) large
  else .point (2 + count) (CodePoint.ofCode n)

def shortByte : Text := "truncated \\xXX escape"

def shortCode : Text := "truncated \\uXXXX escape"

def shortLongCode : Text := "truncated \\UXXXXXXXX escape"

/-- The character that a letter after a backslash stands for. -/
def layout? (b : UInt8) : Option Nat :=
  let letters : List (Char × Nat) :=
    [('\\', 0x5C), ('\'', 0x27), ('"', 0x22), ('b', 0x8), ('f', 0xC), ('t', 0x9), ('n', 0xA),
      ('r', 0xD), ('v', 0xB), ('a', 0x7)]
  (letters.find? fun entry => entry.1.toNat == b.toNat).map (·.2)

/-- The character that a name in braces stands for. -/
def characterOf? (name : List UInt8) : Option CodePoint :=
  CodePoint.ofName? (String.ofList (name.map fun b => Char.ofNat b.toNat))

/-- An escape for a name in braces, which comes after a backslash and a letter. -/
def named (bs : List UInt8) : Piece :=
  match bs with
  | 0x7B :: rest =>
    match rest.idxOf? 0x7D with
    | some 0 => .broken 3 "malformed \\N character escape"
    | some n =>
      match characterOf? (rest.take n) with
      | some c => .point (4 + n) c
      | none => .broken (4 + n) "unknown Unicode character name"
    | none => .broken (3 + rest.length) "malformed \\N character escape"
  | _ => .broken 2 "malformed \\N character escape"

/-- What bytes encode in front, by the full escapes. A line break after a backslash encodes
nothing. -/
def front : List UInt8 → Piece
  | 0x5C :: 0xA :: _ => .read 2 []
  | 0x5C :: b :: rest =>
    match layout? b, octalDigit? b with
    | some n, _ => .point 2 (CodePoint.ofCode n)
    | none, some d =>
      let (n, length) := readDigits octalDigit? 8 2 d rest
      .point (2 + length) (CodePoint.ofCode n)
    | none, none =>
      if b = 0x78 then numbered 2 shortByte [] rest
      else if b = 0x75 then numbered 4 shortCode [] rest
      else if b = 0x55 then numbered 8 shortLongCode "illegal Unicode character" rest
      else if b = 0x4E then named rest
      else .point 1 (.scalar '\\')
  | 0x5C :: _ => .broken 1 "\\ at end of string"
  | b :: _ => .point 1 (CodePoint.ofCode b.toNat)
  | [] => .broken 0 []

/-- What bytes encode in front, by the raw escapes. -/
def frontRaw : List UInt8 → Piece
  | 0x5C :: b :: rest =>
    if b = 0x75 then numbered 4 shortCode [] rest
    else if b = 0x55 then numbered 8 shortLongCode "\\Uxxxxxxxx out of range" rest
    else .read 2 [.scalar '\\', CodePoint.ofCode b.toNat]
  | b :: _ => .point 1 (CodePoint.ofCode b.toNat)
  | [] => .broken 0 []

def reader : PieceReader where
  codec := "unicodeescape"
  front := front

def readerRaw : PieceReader where
  codec := "rawunicodeescape"
  front := frontRaw

end Zpl.Escape
