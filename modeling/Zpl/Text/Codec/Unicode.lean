import Zpl.Text.Codec.Point
import Zpl.Text.Codec.Reader
import Zpl.Text.Utf8

/-!
# The encoding forms of Unicode

UTF-8 encodes a code point as one to four bytes, UTF-16 as one or two numbers of two bytes, and
UTF-32 as one number of four bytes. Numbers are written with the first or with the last of their
bytes in front, and the order of their bytes may be told by a mark before the text. Surrogates have
no encoding.

## Main definitions

* `ByteOrder` — the order of the bytes of a number.
* `Utf8.encoder`, `Utf16.encoder`, `Utf32.encoder` — the bytes of code points.
* `Utf8.reader`, `Utf16.reader`, `Utf32.reader` — what bytes encode.
-/

namespace Zpl

/-- The order of the bytes of a number: the one of the least digits first, or last. -/
inductive ByteOrder where
  | little
  | big
  deriving DecidableEq, Repr

namespace ByteOrder

/-- The bytes of a number, the one of the least digits first. -/
def littleBytes : (count n : Nat) → List UInt8
  | 0, _ => []
  | count + 1, n => UInt8.ofNat n :: littleBytes count (n / 256)

/-- The bytes of a number. -/
def bytes (order : ByteOrder) (count n : Nat) : List UInt8 :=
  match order with
  | .little => littleBytes count n
  | .big => (littleBytes count n).reverse

/-- The number of some bytes, the one of the greatest digits first. -/
def bigNumber (bs : List UInt8) : Nat := bs.foldl (fun n b => n * 256 + b.toNat) 0

/-- The number of some bytes. -/
def number (order : ByteOrder) (bs : List UInt8) : Nat :=
  match order with
  | .little => bigNumber bs.reverse
  | .big => bigNumber bs

@[simp] theorem length_littleBytes (count n : Nat) : (littleBytes count n).length = count := by
  induction count generalizing n with
  | zero => rfl
  | succ count ih => simp [littleBytes, ih]

/-- A number takes as many bytes as it is asked for, in either order. -/
@[simp] theorem length_bytes (order : ByteOrder) (count n : Nat) :
    (order.bytes count n).length = count := by
  cases order <;> simp [bytes]

/-- What the name of an encoding form ends with. -/
def suffix : ByteOrder → Text
  | .little => "-le"
  | .big => "-be"

/-- The end of the name of an encoding form in which the order need not be told. -/
def nameEnd : Option ByteOrder → Text
  | some order => order.suffix
  | none => []

end ByteOrder

/-- The code point that tells the order of bytes. -/
def orderMark : Nat := 0xFEFF

/-- The reason why surrogates have no encoding. -/
def surrogateReason : Text := "surrogates not allowed"

/-! ### UTF-8 -/

namespace Utf8

/-- The bytes of a surrogate, if it is encoded as if it were a character. -/
def surrogateBytes? (c : CodePoint) : Option (List UInt8) :=
  if c.isSurrogate then
    let n := c.code
    some [UInt8.ofNat (0xE0 + n / 0x1000), UInt8.ofNat (0x80 + n / 0x40 % 0x40),
      UInt8.ofNat (0x80 + n % 0x40)]
  else none

def encoder : PointEncoder where
  codec := "utf-8"
  reason := surrogateReason
  bytes? c := if c.isSurrogate then none else some (encodeCodePoint c)
  surrogate? := surrogateBytes?

/-- A surrogate in front that is encoded as if it were a character. -/
def surrogateFront? : List UInt8 → Option (Nat × CodePoint)
  | a :: b :: c :: _ =>
    if a = 0xED ∧ 0xA0 ≤ b ∧ b < 0xC0 ∧ 0x80 ≤ c ∧ c < 0xC0 then
      some (3, CodePoint.ofCode (0xD000 + (b.toNat - 0x80) * 0x40 + (c.toNat - 0x80)))
    else none
  | _ => none

/-- What bytes encode in front. -/
def front : List UInt8 → Piece
  | [] => .broken 0 []
  | b :: rest =>
    match lead? b with
    | none => .broken 1 DecodeCause.invalidStart.reason
    | some lead =>
      match readTails lead.bits lead.low lead.high lead.tails 1 rest with
      | .ok n => .point (lead.tails + 1) (CodePoint.ofCode n)
      | .error (seen, cause) => .broken seen cause.reason

def reader : PieceReader where
  codec := "utf-8"
  front := front
  surrogate? := surrogateFront?

/-- The bytes of the mark that a text may start with. -/
def mark : List UInt8 := [0xEF, 0xBB, 0xBF]

end Utf8

/-! ### UTF-16 -/

namespace Utf16

def isHigh (n : Nat) : Bool := 0xD800 ≤ n && n < 0xDC00

def isLow (n : Nat) : Bool := 0xDC00 ≤ n && n < 0xE000

/-- The one or two numbers of a code point. -/
def units (n : Nat) : List Nat :=
  if n < 0x10000 then [n]
  else [0xD800 + (n - 0x10000) / 0x400, 0xDC00 + (n - 0x10000) % 0x400]

/-- The bytes of the numbers of a code point. -/
def bytesOf (order : ByteOrder) (n : Nat) : List UInt8 := (units n).flatMap (order.bytes 2)

/-- The code point of two surrogates. -/
def joined (high low : Nat) : Nat := 0x10000 + (high - 0xD800) * 0x400 + (low - 0xDC00)

def encoder (order? : Option ByteOrder) : PointEncoder where
  codec := "utf-16" ++ ByteOrder.nameEnd order?
  reason := surrogateReason
  bytes? c := if c.isSurrogate then none else some (bytesOf (order?.getD .little) c.code)
  surrogate? c := if c.isSurrogate then some (bytesOf (order?.getD .little) c.code) else none
  gathers := false
  width := 2

/-- What bytes encode in front. -/
def front (order : ByteOrder) : List UInt8 → Piece
  | a :: b :: rest =>
    let n := order.number [a, b]
    if isHigh n then
      match rest with
      | c :: d :: _ =>
        let m := order.number [c, d]
        if isLow m then .point 4 (CodePoint.ofCode (joined n m))
        else .broken 2 "illegal UTF-16 surrogate"
      | rest => .broken (2 + rest.length) "unexpected end of data"
    else if isLow n then .broken 2 "illegal encoding"
    else .point 2 (CodePoint.ofCode n)
  | bs => .broken bs.length "truncated data"

/-- A surrogate in front that is read as if it were a character. -/
def surrogateFront? (order : ByteOrder) : List UInt8 → Option (Nat × CodePoint)
  | a :: b :: _ =>
    let n := order.number [a, b]
    if isHigh n || isLow n then some (2, CodePoint.ofCode n) else none
  | _ => none

def reader (order : ByteOrder) : PieceReader where
  codec := "utf-16" ++ order.suffix
  front := front order
  surrogate? := surrogateFront? order

end Utf16

/-! ### UTF-32 -/

namespace Utf32

def encoder (order? : Option ByteOrder) : PointEncoder where
  codec := "utf-32" ++ ByteOrder.nameEnd order?
  reason := surrogateReason
  bytes? c := if c.isSurrogate then none else some ((order?.getD .little).bytes 4 c.code)
  surrogate? c := if c.isSurrogate then some ((order?.getD .little).bytes 4 c.code) else none
  gathers := false
  width := 4

/-- What bytes encode in front. -/
def front (order : ByteOrder) : List UInt8 → Piece
  | a :: b :: c :: d :: _ =>
    let n := order.number [a, b, c, d]
    if Utf16.isHigh n || Utf16.isLow n then
      .broken 4 "code point in surrogate code point range(0xd800, 0xe000)"
    else if n < 0x110000 then .point 4 (CodePoint.ofCode n)
    else .broken 4 "code point not in range(0x110000)"
  | bs => .broken bs.length "truncated data"

/-- A surrogate in front that is read as if it were a character. -/
def surrogateFront? (order : ByteOrder) : List UInt8 → Option (Nat × CodePoint)
  | a :: b :: c :: d :: _ =>
    let n := order.number [a, b, c, d]
    if Utf16.isHigh n || Utf16.isLow n then some (4, CodePoint.ofCode n) else none
  | _ => none

def reader (order : ByteOrder) : PieceReader where
  codec := "utf-32" ++ order.suffix
  front := front order
  surrogate? := surrogateFront? order

end Utf32

namespace ByteOrder

/-- The order that a mark of some length in front of bytes tells, if there is one. -/
def told? (width : Nat) (bs : List UInt8) : Option ByteOrder :=
  if (bytes .little width orderMark).isPrefixOf bs then some .little
  else if (bytes .big width orderMark).isPrefixOf bs then some .big
  else none

end ByteOrder

end Zpl
