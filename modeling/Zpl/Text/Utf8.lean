import Zpl.Text.Basic

/-!
# UTF-8

Encoding a text as UTF-8 fails on lone surrogates, and decoding fails on bytes that no text
encodes to. Both failures name the place: encoding the whole run of surrogates it stopped at,
decoding the longest beginning of a sequence that the next byte broke off.

## Main definitions

* `Utf8.encode` — the bytes of a text, or the first run that has none.
* `Utf8.decode` — the text of some bytes, or the first part that is no text.
-/

namespace Zpl.Utf8

/-- A run of code points that has no encoding: it starts at `start` with `first` and ends before
`stop`. -/
structure EncodeFault where
  start : Nat
  stop : Nat
  first : CodePoint
  deriving DecidableEq, Repr

/-- Why some bytes are no text. -/
inductive DecodeCause where
  | invalidStart
  | invalidContinuation
  | unexpectedEnd
  deriving DecidableEq, Repr

def DecodeCause.reason : DecodeCause → Text
  | .invalidStart => "invalid start byte"
  | .invalidContinuation => "invalid continuation byte"
  | .unexpectedEnd => "unexpected end of data"

/-- The bytes from `start` to before `stop`, the first of which is `byte`, are no text. -/
structure DecodeFault where
  start : Nat
  stop : Nat
  byte : UInt8
  cause : DecodeCause
  deriving DecidableEq, Repr

/-- The bytes of one code point; a surrogate has none. -/
def encodeCodePoint : CodePoint → List UInt8
  | .scalar c => String.utf8EncodeChar c
  | .surrogate _ => []

/-- The first run of surrogates, counting positions from `position`. -/
def firstSurrogates (position : Nat) : Text → Option EncodeFault
  | [] => none
  | .scalar _ :: rest => firstSurrogates (position + 1) rest
  | .surrogate n :: rest =>
    some ⟨position, position + 1 + (rest.takeWhile CodePoint.isSurrogate).length, .surrogate n⟩

/-- The UTF-8 bytes of a text. -/
def encode (t : Text) : Except EncodeFault (List UInt8) :=
  match firstSurrogates 0 t with
  | some fault => .error fault
  | none => .ok (t.flatMap encodeCodePoint)

/-! ### Decoding -/

/-- What a first byte announces: the bits it contributes, the number of bytes that follow, and
the range of the one right after it. -/
structure Lead where
  bits : Nat
  tails : Nat
  low : Nat := 0x80
  high : Nat := 0xBF

/-- The first bytes of the well-formed sequences. The range of the second byte keeps out overlong
forms, surrogates and codes past the last plane. -/
def lead? (b : UInt8) : Option Lead :=
  let n := b.toNat
  if n < 0x80 then some { bits := n, tails := 0 }
  else if n < 0xC2 then none
  else if n < 0xE0 then some { bits := n - 0xC0, tails := 1 }
  else if n = 0xE0 then some { bits := 0, tails := 2, low := 0xA0 }
  else if n = 0xED then some { bits := 0xD, tails := 2, high := 0x9F }
  else if n < 0xF0 then some { bits := n - 0xE0, tails := 2 }
  else if n = 0xF0 then some { bits := 0, tails := 3, low := 0x90 }
  else if n < 0xF4 then some { bits := n - 0xF0, tails := 3 }
  else if n = 0xF4 then some { bits := 4, tails := 3, high := 0x8F }
  else none

/-- Reads `tails` bytes, the first of them from `low` to `high` and the others any continuation
bytes; answers the number they spell, or how many were read and why the next one could not be. -/
def readTails (bits : Nat) (low high : Nat) :
    (tails : Nat) → (seen : Nat) → List UInt8 → Except (Nat × DecodeCause) Nat
  | 0, _, _ => .ok bits
  | _ + 1, seen, [] => .error (seen, .unexpectedEnd)
  | tails + 1, seen, b :: rest =>
    if low ≤ b.toNat ∧ b.toNat ≤ high then
      readTails (bits * 64 + (b.toNat - 0x80)) 0x80 0xBF tails (seen + 1) rest
    else
      .error (seen, .invalidContinuation)

/-- Decodes from a given position on. `skip` bytes belong to a sequence already read. -/
def decodeFrom (position : Nat) : (skip : Nat) → List UInt8 → Except DecodeFault Text
  | _, [] => .ok []
  | skip + 1, _ :: rest => decodeFrom (position + 1) skip rest
  | 0, b :: rest =>
    match lead? b with
    | none => .error ⟨position, position + 1, b, .invalidStart⟩
    | some lead =>
      match readTails lead.bits lead.low lead.high lead.tails 1 rest with
      | .error (seen, cause) => .error ⟨position, position + seen, b, cause⟩
      | .ok n => do
        let text ← decodeFrom (position + 1) lead.tails rest
        return CodePoint.ofCode n :: text

/-- The text that some bytes encode. -/
def decode (bs : List UInt8) : Except DecodeFault Text := decodeFrom 0 0 bs

@[simp] theorem encode_nil : encode [] = .ok [] := rfl

@[simp] theorem decode_nil : decode [] = .ok [] := rfl

theorem firstSurrogates_ofChars (position : Nat) (cs : List Char) :
    firstSurrogates position (Text.ofChars cs) = none := by
  induction cs generalizing position with
  | nil => rfl
  | cons c cs ih => exact ih (position + 1)

/-- Characters always have an encoding. -/
theorem encode_ofChars (cs : List Char) :
    encode (Text.ofChars cs) = .ok (cs.flatMap String.utf8EncodeChar) := by
  rw [encode, firstSurrogates_ofChars]
  simp [Text.ofChars, List.flatMap_map, encodeCodePoint]

end Zpl.Utf8
