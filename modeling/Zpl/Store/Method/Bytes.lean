import Zpl.Binary64.Hexadecimal
import Zpl.Print.Link
import Zpl.Store.Method.Text

/-!
# Methods of byte strings

Byte strings are read as ASCII where case or kinds of characters matter; other bytes have neither. A
byte may be looked for by its number.

## Main definitions

* `Bytes.methods` — the methods of byte strings.
-/

namespace Zpl.Bytes

/-! ### ASCII -/

def isUpper (b : UInt8) : Bool := 0x41 ≤ b && b ≤ 0x5A

def isLower (b : UInt8) : Bool := 0x61 ≤ b && b ≤ 0x7A

def isCased (b : UInt8) : Bool := isUpper b || isLower b

def isDigit (b : UInt8) : Bool := 0x30 ≤ b && b ≤ 0x39

def isBlank (b : UInt8) : Bool := b == 0x20 || 0x9 ≤ b && b ≤ 0xD

def upper (b : UInt8) : UInt8 := if isLower b then b - 0x20 else b

def lower (b : UInt8) : UInt8 := if isUpper b then b + 0x20 else b

/-- The other case of a byte. -/
def swapped (b : UInt8) : UInt8 := if isUpper b then lower b else upper b

/-- Bytes with each word in title case; `inWord` says whether a letter comes before. -/
def titled (inWord : Bool) : List UInt8 → List UInt8
  | [] => []
  | b :: rest => (if inWord then lower b else upper b) :: titled (isCased b) rest

def capitalized : List UInt8 → List UInt8
  | [] => []
  | b :: rest => upper b :: rest.map lower

/-- Whether capitals start words only, and small letters do not. -/
def titlesFit (inWord : Bool) : List UInt8 → Bool
  | [] => true
  | b :: rest =>
    if isUpper b then !inWord && titlesFit true rest
    else if isLower b then inWord && titlesFit true rest
    else titlesFit false rest

/-! ### Methods -/

/-- Byte strings as sequences of bytes. -/
def sort : SequenceSort UInt8 where
  kind := "bytes"
  part := "a bytes-like object"
  wrap := .bytes
  unwrap?
    | .bytes bs => some bs
    | _ => none
  pattern
    | .bytes bs => .ok bs
    | v =>
      match v.integer? with
      | some n =>
        if 0 ≤ n ∧ n < 256 then .ok [UInt8.ofNat n.toNat]
        else .error (Incident.refusal "ValueError" "byte must be in range(0, 256)")
      | none => .error .wrongType
  absent := Incident.refusal "ValueError" "subsection not found"
  isBlank := isBlank
  lineEnds :=
    { ends := fun b => b == 0xA || b == 0xD
      isPair := fun b c => b == 0xD && c == 0xA }
  ofChar c := UInt8.ofNat c.toNat

/-- A method that changes a byte string. -/
def changing (name : String) (f : List UInt8 → List UInt8) : Method (List UInt8) :=
  SequenceSort.plain name fun bs => .bytes (f bs)

/-- A method that asks something about a byte string. -/
def asking (name : String) (f : List UInt8 → Bool) : Method (List UInt8) :=
  SequenceSort.plain name fun bs => .bool (f bs)

/-- A method that asks something about each byte, and is answered in the negative where there is
none. -/
def askingAll (name : String) (p : UInt8 → Bool) : Method (List UInt8) :=
  asking name fun bs => !bs.isEmpty && bs.all p

def classMethods : List (Method (List UInt8)) :=
  [changing "upper" (·.map upper), changing "lower" (·.map lower),
    changing "swapcase" (·.map swapped), changing "title" (titled false),
    changing "capitalize" capitalized,
    askingAll "isalpha" isCased, askingAll "isalnum" fun b => isCased b || isDigit b,
    askingAll "isdigit" isDigit, askingAll "isspace" isBlank,
    asking "isascii" fun bs => bs.all (· < 0x80),
    asking "isupper" fun bs => bs.any isUpper && !bs.any isLower,
    asking "islower" fun bs => bs.any isLower && !bs.any isUpper,
    asking "istitle" fun bs => bs.any isCased && titlesFit false bs]

/-! ### Translating -/

/-- The bytes that a value is. -/
def bytesOf (d : Directory) (v : Value) : Except Fault (List UInt8) :=
  match v with
  | .bytes bs => .ok bs
  | v =>
    .error (.unsuited (Text.ofString ("a bytes-like object is required, not '" ++ v.kindName d
      ++ "'")))

/-- The table that a value is, which has an entry for each byte. -/
def tableOf (d : Directory) (v : Value) : Except Fault (Option (List UInt8)) :=
  match v with
  | .none => .ok none
  | v => do
    let table ← bytesOf d v
    if table.length = 256 then return some table
    else
      throw (Incident.refusal "ValueError" "translation table must be 256 characters long")

/-- Bytes with each of them replaced by its entry. -/
def replaced (table : Option (List UInt8)) (bs : List UInt8) : List UInt8 :=
  match table with
  | none => bs
  | some table => bs.map fun b => table.getD b.toNat b

/-- Bytes without some of them, and with each of the others replaced by its entry. -/
def translated (bs : List UInt8) (table dropped : Value) : Action Value := do
  let d ← Action.directory
  let table ← (tableOf d table : Except Fault _)
  let dropped ← bytesOf d dropped
  return .bytes (replaced table (bs.filter (!dropped.contains ·)))

/-- The table that replaces bytes by others. -/
def tableBetween (old new : Value) : Action Value := do
  let d ← Action.directory
  let old ← bytesOf d old
  let new ← bytesOf d new
  if old.length = new.length then
    let all : List UInt8 := (List.range 256).map UInt8.ofNat
    let table := (old.zip new).foldl (fun table (b, c) => table.set b.toNat c) all
    return .bytes table
  else throw (Incident.refusal "ValueError" "maketrans arguments must have same length")

/-! ### Hexadecimal digits -/

/-- What separates groups of digits. -/
def separatorOf (d : Directory) (v : Value) : Except Fault CodePoint := do
  let length ← v.length d
  if length ≠ 1 then throw (Incident.refusal "ValueError" "sep must be length 1.")
  let c ←
    match v with
    | .text [c] => pure c
    | .bytes [b] => pure (CodePoint.ofCode b.toNat)
    | _ => throw (.unsuited "sep must be str or bytes.")
  if c.code < 0x80 then return c
  else throw (Incident.refusal "ValueError" "sep must be ASCII.")

/-- Bytes in groups. The first group is the smaller one, or else the last one if the number of bytes
in a group is negative. -/
def groupsOf (count : Int) (bs : List UInt8) : List (List UInt8) :=
  if count = 0 then [bs]
  else if count < 0 then Link.chunks count.natAbs bs
  else ((Link.chunks count.natAbs bs.reverse).map List.reverse).reverse

/-- Hexadecimal digits of bytes. -/
def hexText (bs : List UInt8) : Text := bs.flatMap fun b => Text.ofHex 2 b.toNat

/-- What stands for a separator that is not given: no call gives it. -/
def noSeparator : Value := .list []

/-- Hexadecimal digits of bytes, in groups if a separator is told. -/
def hexOf (bs : List UInt8) (separator count : Value) : Action Value := do
  let count ← (Listing.small count : Except Fault Int)
  match separator with
  | .list _ => return .text (hexText bs)
  | v =>
    let c ← separatorOf (← Action.directory) v
    return .text (Text.join [c] ((groupsOf count bs).map hexText))

def hexSignature : Signature :=
  { parameters := [{ name := "sep", default? := some noSeparator },
      { name := "bytes_per_sep", default? := some (.int 1) }] }

/-- The fault that there is no hexadecimal digit at a place. -/
def noDigit (place : Nat) : Fault :=
  Incident.refusal "ValueError"
    s!"non-hexadecimal number found in fromhex() arg at position {place}"

/-- The hexadecimal digit that a code point is. -/
def digit? (c : CodePoint) : Option Nat :=
  match c with
  | .scalar c => Binary64.hexDigit? c
  | .surrogate _ => none

/-- The bytes that pairs of hexadecimal digits spell, from a place on. Blanks may stand between the
pairs. -/
def readHex (place : Nat) : Text → Except Fault (List UInt8)
  | [] => .ok []
  | [c] =>
    if c.code < 0x80 && isBlank (UInt8.ofNat c.code) then .ok []
    else if (digit? c).isSome then .error (noDigit (place + 1))
    else .error (noDigit place)
  | c :: d :: rest =>
    if c.code < 0x80 && isBlank (UInt8.ofNat c.code) then readHex (place + 1) (d :: rest)
    else
      match digit? c, digit? d with
      | none, _ => .error (noDigit place)
      | some _, none => .error (noDigit (place + 1))
      | some high, some low => do
        let bs ← readHex (place + 2) rest
        return UInt8.ofNat (16 * high + low) :: bs

/-- The bytes that a text spells in hexadecimal digits. Only ASCII is looked at. -/
def ofHex (v : Value) : Except Fault Value :=
  match v with
  | .text t =>
    match t.findIdx? fun c => 0x80 ≤ c.code with
    | some place => .error (noDigit place)
    | none => do
      let bs ← readHex 0 t
      return .bytes bs
  | v =>
    .error (.unsuited (Text.ofString ("fromhex() argument must be str, not "
      ++ v.kindName .empty)))

def tableMethods : List (Method (List UInt8)) :=
  [{ name := "translate"
     signature :=
      { parameters := [{ giving := .inRow }, { name := "delete", default? := some (.bytes []) }] }
     run := fun bs vs =>
      match vs with
      | [table, dropped] => translated bs table dropped
      | _ => throw .wrongType },
    { name := "maketrans"
      signature := .row 2
      isShared := true
      run := fun _ vs =>
        match vs with
        | [old, new] => tableBetween old new
        | _ => throw .wrongType }]

def hexMethods : List (Method (List UInt8)) :=
  [{ name := "hex"
     signature := hexSignature
     run := fun bs vs =>
      match vs with
      | [separator, count] => hexOf bs separator count
      | _ => throw .wrongType },
    { Method.asking "fromhex" (.row 1) fun (_ : List UInt8) v => do ofHex v with
      isShared := true }]

/-- The methods of byte strings. -/
def methods : List (Method (List UInt8)) :=
  sort.methods ++ classMethods ++ tableMethods ++ hexMethods
    ++ [SequenceSort.computing "decode" Coding.signature fun bs vs =>
          match vs with
          | [name, policy] => Coding.decoded bs name policy
          | _ => .error .wrongType]

end Zpl.Bytes
