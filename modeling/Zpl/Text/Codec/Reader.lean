import Zpl.Text.Codec.Policy

/-!
# Decoding piece by piece

A reader takes a piece off the front of some bytes: the encoding of a code point, or a part that
encodes nothing. What is done about such a part is a matter of policy; afterwards reading goes on
behind it.

## Main definitions

* `Piece` — what a reader finds in front.
* `PieceReader` — a reader.
* `PieceReader.decode` — the text of some bytes.
-/

namespace Zpl

/-- What a reader finds in front of some bytes. -/
inductive Piece where
  /-- A text that takes some bytes, at least one. -/
  | read (length : Nat) (t : Text)
  /-- So many bytes encode nothing, for a reason. -/
  | broken (length : Nat) (reason : Text)
  deriving Repr

/-- A code point that takes some bytes. -/
def Piece.point (length : Nat) (c : CodePoint) : Piece := .read length [c]

/-- A reader. -/
structure PieceReader where
  /-- The name of the codec in diagnostics. -/
  codec : Text
  front : List UInt8 → Piece
  /-- A surrogate in front that is read as if it were a character, and the bytes that it takes. -/
  surrogate? : List UInt8 → Option (Nat × CodePoint) := fun _ => none

namespace PieceReader

variable (r : PieceReader)

/-- The surrogates that keep the bytes in front, if there are such; at most four are kept at
once. -/
def keepers (length : Nat) (bs : List UInt8) : Text :=
  (((bs.take (min length 4)).map CodecPolicy.keeper?).takeWhile Option.isSome).filterMap id

/-- What stands for a part in front that encodes nothing, and how many bytes it stands for. -/
def mend (policy : CodecPolicy) (fault : CodecFault) (length : Nat) (bs : List UInt8) :
    Except CodecObstacle (Nat × Text) :=
  match policy with
  | .refuse => .error (.fault fault)
  | .leaveOut => .ok (length, [])
  | .substitute => .ok (length, [.scalar '\uFFFD'])
  | .byNumber => .ok (length, (bs.take length).flatMap CodecPolicy.escapedByte)
  | .byReference => .error .helpless
  | .byName => .error .helpless
  | .keepBytes =>
    match keepers length bs with
    | [] => .error (.fault fault)
    | kept => .ok (kept.length, kept)
  | .keepSurrogates =>
    match r.surrogate? bs with
    | some (length, c) => .ok (length, [c])
    | none => .error (.fault fault)

/-- The text of bytes from a place on. `skip` bytes belong to a piece already read. -/
def decodeFrom (policy : CodecPolicy) (place : Nat) :
    (skip : Nat) → List UInt8 → Except CodecObstacle Text
  | _, [] => .ok []
  | skip + 1, _ :: rest => decodeFrom policy (place + 1) skip rest
  | 0, b :: rest =>
    match r.front (b :: rest) with
    | .read length t => do
      let others ← decodeFrom policy (place + 1) (length - 1) rest
      return t ++ others
    | .broken length reason => do
      let fault : CodecFault :=
        { codec := r.codec, start := place, stop := place + length, reason := reason }
      let (length, t) ← r.mend policy fault length (b :: rest)
      let others ← decodeFrom policy (place + 1) (length - 1) rest
      return t ++ others

/-- The text of some bytes, of which the first ones are passed over. -/
def decodeAfter (policy : CodecPolicy) (passed : Nat) (bs : List UInt8) :
    Except CodecObstacle Text :=
  r.decodeFrom policy passed 0 (bs.drop passed)

/-- The text of some bytes. -/
def decode (policy : CodecPolicy) (bs : List UInt8) : Except CodecObstacle Text :=
  r.decodeFrom policy 0 0 bs

end PieceReader

end Zpl
