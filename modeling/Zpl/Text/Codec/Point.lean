import Zpl.Text.Codec.Policy

/-!
# Encoding code points one by one

Most codecs encode each code point by itself. They differ in which code points have an encoding, and
in how they report those that have none: neighbours together or one by one.

## Main definitions

* `PointEncoder` — the bytes of each code point.
* `PointEncoder.encode` — the bytes of a text.
-/

namespace Zpl

/-- The bytes of each code point. -/
structure PointEncoder where
  /-- The name of the codec in diagnostics. -/
  codec : Text
  /-- The reason why code points have no encoding. -/
  reason : Text
  bytes? : CodePoint → Option (List UInt8)
  /-- The bytes of a surrogate that is encoded as if it were a character. -/
  surrogate? : CodePoint → Option (List UInt8) := fun _ => none
  /-- Whether neighbours without an encoding are reported together. -/
  gathers : Bool := true
  /-- Whether bytes that are kept before something without an encoding are not reported with it. -/
  advances : Bool := true
  /-- Bytes come in groups of this size. -/
  width : Nat := 1

namespace PointEncoder

variable (e : PointEncoder)

def hasBytes (c : CodePoint) : Bool := (e.bytes? c).isSome

/-- The fault that a run of code points has no encoding. -/
def fault (start length : Nat) : CodecFault where
  codec := e.codec
  start := start
  stop := start + length
  reason := e.reason

/-- The bytes of a text in which everything has an encoding. -/
def encodeAll? (t : Text) : Option (List UInt8) := do
  let parts ← t.mapM e.bytes?
  return parts.flatten

/-- The bytes that a run of surrogates keeps. -/
def keptBytes (start : Nat) (run : Text) : Except CodecFault (List UInt8) :=
  let kept := (run.map CodecPolicy.keptByte?).takeWhile Option.isSome
  if kept.length = run.length ∧ run.length % e.width = 0 then .ok (kept.filterMap id)
  else
    let passed := if e.advances ∧ kept.length < run.length then kept.length else 0
    .error (e.fault (start + passed) (run.length - passed))

/-- What stands for a run of code points without an encoding. -/
def encodeRun (policy : CodecPolicy) (start : Nat) (run : Text) :
    Except CodecFault (List UInt8) :=
  let refusal := e.fault start run.length
  match policy with
  | .keepBytes => e.keptBytes start run
  | .keepSurrogates =>
    match run.mapM e.surrogate? with
    | some parts => .ok parts.flatten
    | none => .error refusal
  | policy =>
    match (policy.words? run).bind e.encodeAll? with
    | some bytes => .ok bytes
    | none => .error refusal

/-- The bytes of parts of a text, from a place on. In each part either everything has an encoding,
or nothing does. -/
def encodeParts (policy : CodecPolicy) (place : Nat) :
    List Text → Except CodecFault (List UInt8)
  | [] => .ok []
  | part :: parts => do
    let bytes ←
      match e.encodeAll? part with
      | some bytes => pure bytes
      | none => e.encodeRun policy place part
    let others ← encodeParts policy (place + part.length) parts
    return bytes ++ others

/-- Whether two neighbours are encoded, or reported, together. -/
def staysTogether (c d : CodePoint) : Bool :=
  e.hasBytes c == e.hasBytes d && (e.hasBytes c || e.gathers)

/-- The bytes of a text. -/
def encode (policy : CodecPolicy) (t : Text) : Except CodecFault (List UInt8) :=
  e.encodeParts policy 0 (t.splitBy e.staysTogether)

end PointEncoder

end Zpl
