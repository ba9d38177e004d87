import Zpl.Text.Codec.Escape
import Zpl.Text.Codec.HostName
import Zpl.Text.Codec.Name
import Zpl.Text.Codec.Punycode
import Zpl.Text.Codec.Shift

/-!
# Codecs

A codec encodes texts as bytes and decodes bytes as texts. What has no encoding is refused, left out
or replaced, and so is what encodes nothing.

## Main definitions

* `Codec.encode`, `Codec.decode` — the two directions.
-/

namespace Zpl

namespace Latin1

/-- The reason why something has no encoding. -/
def reason : Text := "ordinal not in range(256)"

def encoder : PointEncoder where
  codec := "latin-1"
  reason := reason
  bytes? c := if c.code < 0x100 then some [UInt8.ofNat c.code] else none

/-- What bytes encode in front. -/
def front : List UInt8 → Piece
  | [] => .broken 0 []
  | b :: _ => .point 1 (CodePoint.ofCode b.toNat)

def reader : PieceReader where
  codec := "latin-1"
  front := front

end Latin1

namespace CodePage

/-- The reason why something has no encoding, or encodes nothing. -/
def reason : Text := "character maps to <undefined>"

def encoder (p : CodePage) : PointEncoder :=
  let order := p.searchOrder
  { codec := "charmap"
    reason := reason
    bytes? := fun c =>
      match c with
      | .scalar c => (p.byteBy? order c).map fun b => [b]
      | .surrogate _ => none
    advances := false }

/-- What bytes encode in front. `characters` are those that the page writes down. -/
def front (p : CodePage) (characters : List Char) : List UInt8 → Piece
  | [] => .broken 0 []
  | b :: _ =>
    match p.characterAmong? characters b with
    | some c => .point 1 (.scalar c)
    | none => .broken 1 reason

def reader (p : CodePage) : PieceReader :=
  let characters := p.high.toList
  { codec := "charmap"
    front := p.front characters }

end CodePage

namespace Codec

/-- A failure of an encoder. -/
def obstacle {α : Type} : Except CodecFault α → Except CodecObstacle α
  | .ok a => .ok a
  | .error fault => .error (.fault fault)

/-- The mark before a text that tells the order of bytes, if it is not known otherwise. -/
def orderMark (width : Nat) : Option ByteOrder → List UInt8
  | some _ => []
  | none => ByteOrder.bytes .little width Zpl.orderMark

/-- The bytes of a text in ASCII. -/
def asciiBytes : Except CodecObstacle Text → Except CodecObstacle (List UInt8)
  | .ok t => .ok (Ascii.bytes t)
  | .error obstacle => .error obstacle

/-- The fault that a name of a policy is none that a codec takes. -/
def unsupported (verb policy : Text) : CodecObstacle :=
  .refused (verb ++ " error handling " ++ policy)

/-- The bytes of a text. The policy goes by a name, which some codecs judge by themselves. -/
def encode (codec : Codec) (name : Text) (policy : CodecPolicy) (t : Text) :
    Except CodecObstacle (List UInt8) :=
  match codec with
  | .utf8 marked => do
    let bytes ← obstacle (Utf8.encoder.encode policy t)
    return (if marked then Utf8.mark else []) ++ bytes
  | .utf16 order => do
    let bytes ← obstacle ((Utf16.encoder order).encode policy t)
    return orderMark 2 order ++ bytes
  | .utf32 order => do
    let bytes ← obstacle ((Utf32.encoder order).encode policy t)
    return orderMark 4 order ++ bytes
  | .utf7 => .ok (Shift.encode t)
  | .ascii => obstacle (Ascii.encoder.encode policy t)
  | .latin1 => obstacle (Latin1.encoder.encode policy t)
  | .page p => obstacle (p.encoder.encode policy t)
  | .eastAsian codec => obstacle (codec.encodings.encoder.encode policy t)
  | .escaped codec => obstacle (codec.encoder.encode policy t)
  | .hz => obstacle (Hz.encoder.encode policy t)
  | .escape => .ok (Escape.encode t)
  | .rawEscape => .ok (Escape.encodeRaw t)
  | .punycode => .ok (Ascii.bytes (Punycode.encode t))
  | .hostName =>
    if name = "strict" then asciiBytes (HostName.encode t)
    else .error (unsupported "unsupported" name)
  | .undefined => .error (.refused "undefined encoding")

/-- The order of bytes, and how many of the bytes tell it. -/
def orderOf (width : Nat) (order : Option ByteOrder) (bs : List UInt8) : ByteOrder × Nat :=
  match order with
  | some order => (order, 0)
  | none =>
    match ByteOrder.told? width bs with
    | some order => (order, width)
    | none => (.little, 0)

/-- The text of some bytes. The policy goes by a name, which some codecs judge by themselves. -/
def decode (codec : Codec) (name : Text) (policy : CodecPolicy) (bs : List UInt8) :
    Except CodecObstacle Text :=
  match codec with
  | .utf8 marked =>
    Utf8.reader.decode policy
      (if marked && Utf8.mark.isPrefixOf bs then bs.drop Utf8.mark.length else bs)
  | .utf16 order =>
    let (order, passed) := orderOf 2 order bs
    (Utf16.reader order).decodeAfter policy passed bs
  | .utf32 order =>
    let (order, passed) := orderOf 4 order bs
    (Utf32.reader order).decodeAfter policy passed bs
  | .utf7 => Shift.decode policy bs
  | .ascii => Ascii.reader.decode policy bs
  | .latin1 => Latin1.reader.decode policy bs
  | .page p => p.reader.decode policy bs
  | .eastAsian codec => codec.encodings.reader.decode policy bs
  | .escaped codec => codec.reader.decode policy bs
  | .hz => Hz.reader.decode policy bs
  | .escape => Escape.reader.decode policy bs
  | .rawEscape => Escape.readerRaw.decode policy bs
  | .punycode =>
    if name = "strict" ∨ name = "ignore" ∨ name = "replace" then Punycode.decode policy bs
    else .error (unsupported "Unsupported" name)
  | .hostName =>
    if bs.isEmpty then .ok []
    else if name = "strict" then HostName.decode bs
    else .error (unsupported "Unsupported" name)
  | .undefined => .error (.refused "undefined encoding")

end Codec

end Zpl
