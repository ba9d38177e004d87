import Zpl.Text.Name
import Zpl.Text.Quoted

/-!
# What codecs do about faults

A text may have parts without an encoding, and bytes may have parts that encode nothing. A policy
says what is done about them: they are refused, left out or replaced.

## Main definitions

* `CodecPolicy` — what is done about a part that has no encoding, or is none.
* `CodecObstacle` — why a codec gives up.
-/

namespace Zpl

/-- What is done about a part that has no encoding, or is none. -/
inductive CodecPolicy where
  | refuse
  | leaveOut
  | substitute
  /-- Code points and bytes are replaced by escapes with their numbers. -/
  | byNumber
  /-- Code points are replaced by character references. -/
  | byReference
  /-- Characters are replaced by escapes with their names, if those are known. -/
  | byName
  /-- Bytes that encode nothing become surrogates, from which the bytes are taken back. -/
  | keepBytes
  /-- Surrogates are encoded as if they were characters. -/
  | keepSurrogates
  deriving DecidableEq, Repr

/-- A part of a text that has no encoding, or a part of some bytes that is none: where it starts,
and where it ends. -/
structure CodecFault where
  /-- The name of the codec in diagnostics. -/
  codec : Text
  start : Nat
  stop : Nat
  reason : Text
  /-- The bytes that are at fault, if those are not all that were to be decoded. -/
  within : Option (List UInt8) := none
  deriving Repr

/-- Why a codec gives up. -/
inductive CodecObstacle where
  | fault (fault : CodecFault)
  /-- The policy is one for texts, and bytes are at fault. -/
  | helpless
  /-- The codec meets something that it is not made for. -/
  | defective
  /-- Some bytes are not those that their text is encoded by again. -/
  | differing (message : Text) (bytes again : List UInt8)
  /-- The whole of a text or of some bytes cannot be handled. -/
  | refused (message : Text)
  deriving Repr

/-- The obstacle that some of the bytes to be decoded meet. -/
def CodecObstacle.within (bs : List UInt8) : CodecObstacle → CodecObstacle
  | .fault f => .fault { f with within := some bs }
  | other => other

namespace CodecPolicy

/-- The names of the policies. -/
def names : List (String × CodecPolicy) :=
  [("strict", .refuse), ("ignore", .leaveOut), ("replace", .substitute),
    ("backslashreplace", .byNumber), ("xmlcharrefreplace", .byReference),
    ("namereplace", .byName), ("surrogateescape", .keepBytes), ("surrogatepass", .keepSurrogates)]

/-- The policy of a name. -/
def ofName? (name : Text) : Option CodecPolicy :=
  (names.find? fun entry => Text.ofString entry.1 == name).map (·.2)

/-- A character reference to a code point. -/
def reference (c : CodePoint) : Text := "&#" ++ Text.ofNat c.code ++ ";"

/-- An escape with the name of a code point, or else with its number. -/
def namedEscape (c : CodePoint) : Text :=
  match c.name? with
  | some name => Text.ofString ("\\N\x7b" ++ name ++ "\x7d")
  | none => Text.escapedByCode c.code

/-- What is written in place of code points without an encoding, if anything is. -/
def words? (policy : CodecPolicy) (run : Text) : Option Text :=
  match policy with
  | .leaveOut => some []
  | .substitute => some (run.map fun _ => .scalar '?')
  | .byNumber => some (run.flatMap fun c => Text.escapedByCode c.code)
  | .byReference => some (run.flatMap reference)
  | .byName => some (run.flatMap namedEscape)
  | _ => none

/-- The byte that a surrogate keeps, if it keeps one. -/
def keptByte? (c : CodePoint) : Option UInt8 :=
  if 0xDC80 ≤ c.code ∧ c.code < 0xDD00 then some (UInt8.ofNat (c.code - 0xDC00)) else none

/-- The surrogate that keeps a byte. ASCII is not kept. -/
def keeper? (b : UInt8) : Option CodePoint :=
  if b < 0x80 then none else some (CodePoint.ofCode (0xDC00 + b.toNat))

/-- A byte written by its number. -/
def escapedByte (b : UInt8) : Text := "\\x" ++ Text.ofHex 2 b.toNat

end CodecPolicy

end Zpl
