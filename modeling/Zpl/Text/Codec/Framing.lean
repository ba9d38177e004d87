import Zpl.Text.Codec.CodeTable
import Zpl.Text.Codec.Grid

/-!
# From cells to bytes

The bytes of a character follow from the number of its cell in a table. Codecs differ in how long
the rows are that the first byte tells.

## Main definitions

* `Framing` — how cells become bytes.
* `Framing.ofTable` — the cells of a table as encodings.
-/

namespace Zpl

/-- The bytes of cells by their numbers. -/
abbrev Framing := Nat → List UInt8

namespace Framing

open CodeTable (byte)

/-- The cells of a table as encodings. -/
def ofTable (bytes : Framing) (table : List CellRun) : List Encoding :=
  (Grid.cells table).map fun (n, c) => (bytes n, c)

/-- Characters that follow each other with bytes that do. -/
def consecutive (count : Nat) (bytes : Framing) (first : Nat) : List Encoding :=
  (List.range count).map fun n => (bytes n, Char.ofNat (first + n))

/-- Pairs of characters in cells. -/
def ofPairs (bytes : Framing) (pairs : List (Nat × Char × Nat)) : List PairEncoding :=
  pairs.map fun (n, base, mark) => ⟨base, mark, bytes n⟩

/-- A cell in rows of ninety-four, in bytes of ASCII. -/
def low : Framing := fun n => [byte (0x21 + n / 94), byte (0x21 + n % 94)]

/-- A cell in rows of ninety-four, in bytes beyond ASCII. -/
def high : Framing := fun n => [byte (0xA1 + n / 94), byte (0xA1 + n % 94)]

/-- A cell in rows of ninety-four of a second plane. -/
def announced : Framing := fun n => 0x8F :: high n

/-- The second byte of a cell in a long row, which passes over a control character. -/
def second (n : Nat) : UInt8 := byte (if n < 63 then 0x40 + n else 0x41 + n)

/-- A cell where two rows of ninety-four are one, and the rows leave room for single bytes. -/
def folded : Framing := fun n =>
  [byte ((if n / 188 < 31 then 0x81 else 0xC1) + n / 188), second (n % 188)]

/-- The folded row that a row of a second plane becomes, behind those of the first one. -/
def secondRow (row : Nat) : Nat :=
  if 77 ≤ row then row + 26 else if 11 ≤ row ∨ row = 7 then row + 88 else row + 94

/-- A cell of a second plane where two rows are one. -/
def foldedSecond : Framing := fun n => folded (94 * secondRow (n / 94) + n % 94)

/-- A cell in rows of one hundred and ninety. -/
def long : Framing := fun n => [byte (0x81 + n / 190), second (n % 190)]

/-- A cell in rows of one hundred and fifty-seven, of which the first one has a byte. -/
def split (first : Nat) : Framing := fun n =>
  [byte (first + n / 157), byte (if n % 157 < 63 then 0x40 + n % 157 else 0x62 + n % 157)]

/-- A cell in rows of ninety-four where two rows are one, their cells start behind the digits, and
some rows are left out. -/
def gapped : Framing := fun n =>
  let row := n / 94 + (if n / 94 < 41 then 434 else 407)
  let place := n % 94 + (if row % 2 = 0 then 0 else 94)
  [byte (row / 2), byte (place + (if place < 78 then 0x31 else 0x43))]

end Framing

end Zpl
