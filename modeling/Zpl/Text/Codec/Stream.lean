import Zpl.Text.Codec.Reader

/-!
# Codecs with a memory

Some codecs encode a character in a way that depends on what came before, or encode it together with
the character that follows. They go through a text, or through bytes, from front to back, and keep a
state. What has no encoding is reported one by one, and what is written in its place is encoded in
the state that there is.

## Main definitions

* `StreamEncoder`, `StreamEncoder.encode` — the bytes of a text.
* `StreamReader`, `StreamReader.decode` — the text of some bytes.
-/

namespace Zpl

namespace CodecFault

/-- The reason why something has no encoding, or encodes nothing. -/
def illegal : Text := "illegal multibyte sequence"

/-- The reason why bytes encode nothing if there are none after them. -/
def incomplete : Text := "incomplete multibyte sequence"

end CodecFault

/-- What is in front of a text as bytes, and the state behind it. -/
structure Coded (σ : Type) where
  bytes : List UInt8
  /-- Whether two code points are encoded together. -/
  isPair : Bool := false
  state : σ

/-- An encoder with a state. -/
structure StreamEncoder (σ : Type) where
  /-- The name of the codec in diagnostics. -/
  codec : Text
  start : σ
  /-- The bytes of a code point, given the one that follows. -/
  step? : σ → CodePoint → Option CodePoint → Option (Coded σ)
  /-- What is written at the end. -/
  finish : σ → List UInt8

namespace StreamEncoder

variable {σ : Type} (e : StreamEncoder σ)

/-- The bytes of a text that is put in for something, each code point by itself. -/
def encodeAll? (s : σ) : Text → Option (List UInt8 × σ)
  | [] => some ([], s)
  | c :: rest => do
    let step ← e.step? s c none
    let (others, s) ← encodeAll? step.state rest
    return (step.bytes ++ others, s)

/-- What stands for a code point without an encoding. -/
def replace (policy : CodecPolicy) (s : σ) (place : Nat) (c : CodePoint) :
    Except CodecFault (List UInt8 × σ) :=
  let refusal : CodecFault :=
    { codec := e.codec, start := place, stop := place + 1, reason := CodecFault.illegal }
  match policy with
  | .keepBytes =>
    match CodecPolicy.keptByte? c with
    | some b => .ok ([b], s)
    | none => .error refusal
  | policy =>
    match (policy.words? [c]).bind (e.encodeAll? s) with
    | some written => .ok written
    | none => .error refusal

/-- The bytes of a text from a place on. `passes` says whether the code point in front is already
encoded. -/
def encodeFrom (policy : CodecPolicy) (place : Nat) (s : σ) :
    (passes : Bool) → Text → Except CodecFault (List UInt8)
  | _, [] => .ok (e.finish s)
  | true, _ :: rest => encodeFrom policy (place + 1) s false rest
  | false, c :: rest =>
    match e.step? s c rest.head? with
    | some step => do
      let others ← encodeFrom policy (place + 1) step.state step.isPair rest
      return step.bytes ++ others
    | none => do
      let (bytes, s) ← e.replace policy s place c
      let others ← encodeFrom policy (place + 1) s false rest
      return bytes ++ others

/-- The bytes of a text. -/
def encode (policy : CodecPolicy) (t : Text) : Except CodecFault (List UInt8) :=
  e.encodeFrom policy 0 e.start false t

end StreamEncoder

/-- A reader with a state. -/
structure StreamReader (σ : Type) where
  /-- The name of the codec in diagnostics. -/
  codec : Text
  start : σ
  /-- What is in front of some bytes, and the state behind it. -/
  front : σ → List UInt8 → Except CodecObstacle (Piece × σ)

namespace StreamReader

variable {σ : Type} (r : StreamReader σ)

/-- What stands for a part in front that encodes nothing, and how many bytes it stands for. -/
def mend (policy : CodecPolicy) (place length : Nat) (reason : Text) (bs : List UInt8) :
    Except CodecObstacle (Nat × Text) :=
  let reader : PieceReader := { codec := r.codec, front := fun _ => .broken length reason }
  reader.mend policy { codec := r.codec, start := place, stop := place + length, reason := reason }
    length bs

/-- The text of bytes from a place on. `skip` bytes belong to a piece already read. -/
def decodeFrom (policy : CodecPolicy) (place : Nat) (s : σ) :
    (skip : Nat) → List UInt8 → Except CodecObstacle Text
  | _, [] => .ok []
  | skip + 1, _ :: rest => decodeFrom policy (place + 1) s skip rest
  | 0, b :: rest => do
    let (piece, s) ← r.front s (b :: rest)
    let (length, t) ←
      match piece with
      | .read length t => pure (length, t)
      | .broken length reason => r.mend policy place length reason (b :: rest)
    let others ← decodeFrom policy (place + 1) s (length - 1) rest
    return t ++ others

/-- The text of some bytes. -/
def decode (policy : CodecPolicy) (bs : List UInt8) : Except CodecObstacle Text :=
  r.decodeFrom policy 0 r.start 0 bs

end StreamReader

end Zpl
