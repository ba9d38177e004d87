import Zpl.Binary64.Basic
import Zpl.Binary64.Shortest

/-!
# Binary64 values in hexadecimal digits

In hexadecimal digits a binary64 value is written exactly: a leading digit, thirteen digits after
the point, and the power of two that all of it is multiplied by. More digits are read than are
written, and are rounded.

## Main definitions

* `Binary64.hexText` — the text of a value.
* `Binary64.readHex` — reads a value.
-/

namespace Zpl.Binary64

/-! ### Writing -/

/-- The least number with as many bits as a full mantissa has. -/
def leadingBit : Nat := 0x10000000000000

/-- The text of a value. -/
def hexText : Binary64 → Text
  | .finite negative m q =>
    let exponent := if m = 0 then 0 else q + 52
    (if negative then ("-0x" : Text) else "0x") ++ Text.ofNat (m / leadingBit) ++ "."
      ++ (if m = 0 then ("0" : Text) else Text.ofHex 13 (m % leadingBit)) ++ "p"
      ++ (if exponent < 0 then ("-" : Text) else "+") ++ Text.ofNat exponent.natAbs
  | x => x.text

/-! ### Reading -/

/-- Why a text is no value. -/
inductive HexObstacle where
  | invalid
  | tooLarge
  deriving DecidableEq, Repr

def isHexBlank (c : Char) : Bool := c == ' ' || 0x9 ≤ c.toNat && c.toNat ≤ 0xD

/-- The value of a hexadecimal digit. -/
def hexDigit? (c : Char) : Option Nat :=
  if '0' ≤ c ∧ c ≤ '9' then some (c.toNat - 0x30)
  else if 'a' ≤ c ∧ c ≤ 'f' then some (c.toNat - 0x57)
  else if 'A' ≤ c ∧ c ≤ 'F' then some (c.toNat - 0x37)
  else none

/-- The hexadecimal digits in front of some characters, and what follows. -/
def splitHex : List Char → List Nat × List Char
  | [] => ([], [])
  | c :: cs =>
    match hexDigit? c with
    | none => ([], c :: cs)
    | some d =>
      let (ds, rest) := splitHex cs
      (d :: ds, rest)

/-- A sign in front of some characters, and what follows. -/
def splitSign : List Char → Bool × List Char
  | '-' :: cs => (true, cs)
  | '+' :: cs => (false, cs)
  | cs => (false, cs)

/-- A mark of the base in front of digits is passed over. -/
def dropMark : List Char → List Char
  | '0' :: 'x' :: cs => cs
  | '0' :: 'X' :: cs => cs
  | cs => cs

/-- What follows a word in front of some characters, whatever its case. -/
def afterWord? (word : String) (cs : List Char) : Option (List Char) :=
  if word.toList.isPrefixOf (cs.map Char.toLower) then some (cs.drop word.length) else none

/-- An infinity or not-a-number in front of some characters, and what follows. -/
def splitSpecial (cs : List Char) : Option (Binary64 × List Char) :=
  let (negative, cs) := splitSign cs
  match afterWord? "infinity" cs, afterWord? "inf" cs, afterWord? "nan" cs with
  | some rest, _, _ => some (.infinity negative, rest)
  | none, some rest, _ => some (.infinity negative, rest)
  | none, none, some rest => some (.nan 0, rest)
  | none, none, none => none

/-- The exponent in front of some characters, zero if there is none, and what follows. -/
def splitExponent : List Char → Except HexObstacle (Int × List Char)
  | [] => .ok (0, [])
  | c :: cs =>
    if c = 'p' ∨ c = 'P' then
      let (negative, cs) := splitSign cs
      let ds := cs.takeWhile Char.isDigit
      if ds.isEmpty then .error .invalid
      else
        let n : Nat := ds.foldl (fun n c => 10 * n + (c.toNat - 0x30)) 0
        .ok (if negative then -(n : Int) else n, cs.drop ds.length)
    else .ok (0, c :: cs)

/-- The value nearest to `digits · 2 ^ exponent`, of hexadecimal digits. Far beyond the range of
values the answer is known without computing the power. -/
def ofHex (negative : Bool) (digits : List Nat) (exponent : Int) : Except HexObstacle Binary64 :=
  let n := digits.foldl (fun n d => 16 * n + d) 0
  let top := exponent + n.log2 + 1
  if n = 0 ∨ top < -1074 then .ok (zero negative)
  else if 1024 < top then .error .tooLarge
  else
    match ofDyadic negative n exponent with
    | .infinity _ => .error .tooLarge
    | x => .ok x

/-- A number in front of some characters, and what follows. -/
def splitHexNumber (cs : List Char) : Except HexObstacle (Binary64 × List Char) := do
  let (negative, cs) := splitSign cs
  let (whole, rest) := splitHex (dropMark cs)
  let (part, rest) :=
    match rest with
    | '.' :: rest => splitHex rest
    | rest => ([], rest)
  if whole.isEmpty && part.isEmpty then throw .invalid
  let (exponent, rest) ← splitExponent rest
  let x ← ofHex negative (whole ++ part) (exponent - 4 * part.length)
  return (x, rest)

/-- Reads a value, with blanks around it. -/
def readHex (cs : List Char) : Except HexObstacle Binary64 := do
  let cs := cs.dropWhile isHexBlank
  let (x, rest) ←
    match splitSpecial cs with
    | some found => pure found
    | none => splitHexNumber cs
  if (rest.dropWhile isHexBlank).isEmpty then return x else throw .invalid

end Zpl.Binary64
