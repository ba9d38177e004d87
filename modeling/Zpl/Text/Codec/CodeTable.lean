import Std.Data.HashMap
import Zpl.Text.Basic

/-!
# Tables of encodings

A codec that is no matter of arithmetic lists what its bytes encode. Different bytes may encode one
character, and then it keeps the first of them. Some bytes encode two characters at once.

## Main definitions

* `CodeTable` — what bytes encode, and how characters are encoded.
* `CodeTable.ofEncodings` — the table of a list of encodings.

## Main statements

* `CodeTable.bytes?_ofEncodings_nil` — without encodings nothing is encoded.
-/

namespace Zpl

/-- An encoding and what it encodes. -/
abbrev Encoding := List UInt8 × Char

/-- A character that is encoded together with the one that follows. Of the number of that one only
sixteen bits count. -/
structure PairEncoding where
  base : Char
  mark : Nat
  bytes : List UInt8

/-- What bytes encode, and how characters are encoded. -/
structure CodeTable where
  /-- The characters by the numbers that their encodings are. -/
  characters : Std.HashMap Nat Char
  /-- The encodings of characters by their code points. -/
  encodings : Std.HashMap Nat (List UInt8)
  pairs : List PairEncoding := []

namespace CodeTable

/-- The number that some bytes are. -/
def number (bs : List UInt8) : Nat := bs.foldl (fun n b => 256 * n + b.toNat) 0

def byte (n : Nat) : UInt8 := UInt8.ofNat n

/-- Encodings with one more, which counts unless its bytes are taken. A character keeps the first of
its encodings. -/
def insert (known : Std.HashMap Nat Char × Std.HashMap Nat (List UInt8)) (entry : Encoding) :
    Std.HashMap Nat Char × Std.HashMap Nat (List UInt8) :=
  let (characters, encodings) := known
  let (bs, c) := entry
  if characters.contains (number bs) then (characters, encodings)
  else (characters.insert (number bs) c, encodings.insertIfNew c.toNat bs)

/-- The table of some encodings. Those that are preferred are only used to encode. -/
def ofEncodings (preferred entries : List Encoding) (pairs : List PairEncoding) : CodeTable :=
  let first := preferred.foldl (fun known (bs, c) => known.insertIfNew c.toNat bs) {}
  let (characters, encodings) := entries.foldl insert ({}, first)
  { characters := characters, encodings := encodings, pairs := pairs }

/-- The table in which some characters are read, but have no encoding. -/
def without (t : CodeTable) (cs : List Char) : CodeTable :=
  { t with encodings := cs.foldl (fun known c => known.erase c.toNat) t.encodings }

variable (t : CodeTable)

/-- The bytes of a character. -/
def bytes? (c : Char) : Option (List UInt8) := t.encodings[c.toNat]?

/-- The bytes of two code points that are encoded together. -/
def pairBytes? (c d : CodePoint) : Option (List UInt8) :=
  (t.pairs.find? fun p => p.base.toNat == c.code && p.mark == d.code % 0x10000).map (·.bytes)

/-- What some bytes encode. -/
def text? (bs : List UInt8) : Option Text :=
  match t.characters[number bs]? with
  | some c => some [.scalar c]
  | none =>
    (t.pairs.find? fun p => p.bytes == bs).map fun p => [.scalar p.base, CodePoint.ofCode p.mark]

/-- Without encodings nothing is encoded. -/
theorem bytes?_ofEncodings_nil (pairs : List PairEncoding) (c : Char) :
    (ofEncodings [] [] pairs).bytes? c = none := by
  simp [ofEncodings, bytes?]

end CodeTable

end Zpl
