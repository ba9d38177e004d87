import Zpl.Binary64.Hexadecimal
import Zpl.Integer
import Zpl.Store.Layout
import Zpl.Store.Listing
import Zpl.Store.Method.Basic

/-!
# Methods of numbers

Truth values have the methods of integers. An integer is also written as bytes, the number of which
and the order of which are told, and a binary64 value is also written in hexadecimal digits.

## Main definitions

* `Integer.methods`, `Binary64.methods` — the methods of numbers.
* `Value.partOfNumber?` — the parts that numbers are made of.
-/

namespace Zpl

/-- A part of a number that has a name. -/
def Value.partOfNumber? (v : Value) (name : String) : Option Value :=
  match v.integer?, v, name with
  | some n, _, "real" => some (.int n)
  | some n, _, "numerator" => some (.int n)
  | some _, _, "imag" => some (.int 0)
  | some _, _, "denominator" => some (.int 1)
  | Option.none, .float x, "real" => some (.float x)
  | Option.none, .float _, "imag" => some (.float (Binary64.zero false))
  | _, _, _ => Option.none

namespace Integer

/-! ### Integers as bytes -/

/-- The order of bytes that a text tells. -/
def orderNamed (t : Text) : Except Fault ByteOrder :=
  if t = "little" then .ok .little
  else if t = "big" then .ok .big
  else
    .error (Incident.refusal "ValueError" "byteorder must be either 'little' or 'big'")

/-- The text that tells the order of bytes. -/
def orderText (method : String) : Value → Except Fault Text
  | .text t => .ok t
  | v =>
    .error (.unsuited (Text.ofString (method ++ "() argument 'byteorder' must be str, not "
      ++ v.kindName .empty)))

/-- The greatest number of bytes that are counted. -/
def maxLength : Int := Value.countBound - 34

/-- The bytes of an integer, by the values of a call. -/
def bytesOf (n : Int) (length order isSigned : Value) : Action Value := do
  let length ← (Listing.placeOf length : Except Fault Int)
  let order ← orderText "to_bytes" order
  let isSigned := isSigned.truth (← Action.directory)
  let order ← orderNamed order
  if length < 0 then
    throw (Incident.refusal "ValueError" "length argument must be non-negative")
  if maxLength < length then throw .jobTooLong
  if ((← Action.capacity : Nat) : Int) < length then throw .outOfMemory
  return .bytes (← toBytes order isSigned length.toNat n)

/-- The byte of a number. -/
def byteOf (v : Value) : Except Fault UInt8 :=
  match v.integer? with
  | some n => if 0 ≤ n ∧ n < 256 then .ok (UInt8.ofNat n.toNat) else .error .byteOutOfRange
  | none => .error (.notCounting (v.kindName .empty))

/-- The fault that a value of a kind is no row of bytes. -/
def noBytes (kind : String) : Fault :=
  .unsuited (Text.ofString ("cannot convert '" ++ kind ++ "' object to bytes"))

/-- The bytes that a value hands out; a text hands out none. -/
def bytesFrom (v : Value) : Action (List UInt8) := do
  let d ← Action.directory
  match v, v.elements d with
  | .text _, _ => throw (noBytes "str")
  | .bytes bs, _ => return bs
  | v, .error _ => throw (noBytes (v.kindName d))
  | _, .ok parts => parts.mapM fun part => (byteOf part : Except Fault UInt8)

/-- The integer of some bytes, by the values of a call. -/
def fromBytes (bytes order isSigned : Value) : Action Int := do
  let order ← orderText "from_bytes" order
  let isSigned := isSigned.truth (← Action.directory)
  let order ← orderNamed order
  let bs ← bytesFrom bytes
  return ofBytes order isSigned bs

def orderParameter : Parameter := { name := "byteorder", default? := some (.text "big") }

def signParameter : Parameter :=
  { name := "signed", default? := some (.bool false), giving := .byName }

/-- The methods of integers; `wrap` makes a value of the kind. -/
def methods (wrap : Int → Value) : List (Method Int) :=
  [.query "bit_length" fun n => return .int (bitLength n),
    .query "bit_count" fun n => return .int (bitCount n),
    .query "conjugate" fun n => return .int n,
    .query "as_integer_ratio" fun n => return .tuple [.int n, .int 1],
    { name := "to_bytes"
      signature :=
        { parameters := [{ name := "length", default? := some (.int 1) }, orderParameter,
            signParameter] }
      run := fun n vs =>
        match vs with
        | [length, order, isSigned] => bytesOf n length order isSigned
        | _ => throw .wrongType },
    { name := "from_bytes"
      signature := { parameters := [{ name := "bytes" }, orderParameter, signParameter] }
      isShared := true
      run := fun _ vs => do
        match vs with
        | [bytes, order, isSigned] => return wrap (← fromBytes bytes order isSigned)
        | _ => throw .wrongType }]

end Integer

namespace Binary64

/-- Whether a binary64 value is a whole number. -/
def isWhole (x : Binary64) : Bool :=
  match x.truncate? with
  | some n => x.compareInt? n == some .eq
  | none => false

/-- A binary64 value as a quotient in lowest terms; only finite values are one. -/
def ratio : Binary64 → Except Fault Value
  | .nan _ => .error (Incident.refusal "ValueError" "cannot convert NaN to integer ratio")
  | .infinity _ =>
    .error (Incident.refusal "OverflowError" "cannot convert Infinity to integer ratio")
  | .finite negative m q =>
    let num := m * powNum q
    let den := powDen q
    let common := Nat.gcd num den
    .ok (.tuple [.int (signed negative (num / common)), .int (den / common : Nat)])

/-- The value that a text spells in hexadecimal digits. -/
def fromHex (v : Value) : Except Fault Value :=
  match v with
  | .text t =>
    match Utf8.firstSurrogates 0 t with
    | some fault => .error (.encoding fault)
    | none =>
      match readHex (t.map fun c => Char.ofNat c.code) with
      | .ok x => .ok (.float x)
      | .error .invalid =>
        .error (Incident.refusal "ValueError" "invalid hexadecimal floating-point string")
      | .error .tooLarge =>
        .error (Incident.refusal "OverflowError"
          "hexadecimal value too large to represent as a float")
  | _ => .error (.unsuited "bad argument type for built-in operation")

def methods : List (Method Binary64) :=
  [.query "is_integer" fun x => return .bool (isWhole x),
    .query "conjugate" fun x => return .float x,
    .query "as_integer_ratio" fun x => do ratio x,
    .query "hex" fun x => return .text (hexText x),
    { Method.asking "fromhex" (.row 1) fun (_ : Binary64) v => do fromHex v with
      isShared := true }]

end Binary64

end Zpl
