import Zpl.Fault.Incident
import Zpl.Text.Codec.Unicode

/-!
# Integers in binary digits and in bytes

An integer is written as so many bytes, if it fits into them. With a sign it takes one binary digit
more, and a negative integer is written modulo the numbers of that length.

## Main definitions

* `Integer.bitLength`, `Integer.bitCount` — the binary digits of an integer.
* `Integer.toBytes`, `Integer.ofBytes` — integers as bytes.
-/

namespace Zpl.Integer

/-- How many binary digits the magnitude of an integer has. -/
def bitLength (n : Int) : Nat := if n = 0 then 0 else n.natAbs.log2 + 1

/-- How many of the binary digits of the magnitude of an integer are ones. -/
def bitCount (n : Int) : Nat := (Nat.toDigits 2 n.natAbs).count '1'

/-- How many binary digits an integer has next to its sign. -/
def innerLength (n : Int) : Nat := bitLength (if n < 0 then -n - 1 else n)

/-- So many bytes of an integer; a negative one is taken modulo the numbers of its length. -/
def toBytes (order : ByteOrder) (isSigned : Bool) (length : Nat) (n : Int) :
    Except Fault (List UInt8) :=
  let tooBig := Incident.refusal "OverflowError" "int too big to convert"
  if isSigned then
    if 8 * length - 1 < innerLength n then .error tooBig
    else .ok (order.bytes length (n % (Nat.pow 256 length : Nat)).toNat)
  else if n < 0 then
    .error (Incident.refusal "OverflowError" "can't convert negative int to unsigned")
  else if 8 * length < bitLength n then .error tooBig
  else .ok (order.bytes length n.toNat)

/-- The integer of some bytes. -/
def ofBytes (order : ByteOrder) (isSigned : Bool) (bs : List UInt8) : Int :=
  let n := order.number bs
  let bound := Nat.pow 256 bs.length
  if isSigned && bound ≤ 2 * n && !bs.isEmpty then (n : Int) - bound else n

/-- An integer takes as many bytes as it is asked for. -/
theorem length_of_toBytes {order : ByteOrder} {isSigned : Bool} {length : Nat} {n : Int}
    {bs : List UInt8} (h : toBytes order isSigned length n = .ok bs) : bs.length = length := by
  unfold toBytes at h
  split at h
  · split at h
    · simp at h
    · exact Except.ok.inj h ▸ ByteOrder.length_bytes order length _
  · split at h
    · simp at h
    · split at h
      · simp at h
      · exact Except.ok.inj h ▸ ByteOrder.length_bytes order length _

end Zpl.Integer
