import Zpl.Text.Codec.Framing
import Zpl.Text.Codec.Grid.BigFive
import Zpl.Text.Codec.Grid.Chinese
import Zpl.Text.Codec.MultiByte

/-!
# Chinese codecs

GBK surrounds the rows of GB 2312 by others, and GB 18030 has a number for everything else. The
codecs for traditional characters have the rows of Big5, and their own characters around them.

## Main definitions

* `MultiByte.gb2312`, `MultiByte.gbk`, `MultiByte.gb18030` — codecs for simplified characters.
* `MultiByte.bigFive`, `MultiByte.cp950`, `MultiByte.hongKong` — codecs for traditional ones.
-/

namespace Zpl.MultiByte

open Framing

/-- A codec of pairs of bytes. -/
def ofCells (codec : String) (preferred entries : List Encoding) (pairs : List PairEncoding) :
    MultiByte :=
  { CodeTable.ofEncodings preferred entries pairs with codec := codec, span := fun _ => 2 }

/-- The codec of GB 2312 in a framing. -/
def gb2312 (bytes : Framing) : MultiByte := ofCells "gb2312" [] (bytes.ofTable Grid.gb2312) []

/-- The encodings of GBK, which changes two characters of GB 2312, and others after them. -/
def gbkAnd (others : List Encoding) : List Encoding :=
  [([0xA1, 0xA4], '·'), ([0xA1, 0xAA], '—')] ++ ofTable high Grid.gb2312
    ++ ofTable long Grid.gbkMore ++ others

/-- Cells for private use: in each of some rows those from a second byte on. -/
def privateRows (rows : List Nat) (count start first : Nat) : List Encoding :=
  consecutive (rows.length * count)
    (fun n => long ((rows.getD (n / count) 0 - 0x81) * 190 + start + n % count)) first

/-- The cells of the areas that are for private use, and others before them. -/
def privateAreasAfter (others : List Encoding) : List Encoding :=
  others ++ privateRows [0xAA, 0xAB, 0xAC, 0xAD, 0xAE, 0xAF] 94 96 0xE000
    ++ privateRows [0xF8, 0xF9, 0xFA, 0xFB, 0xFC, 0xFD, 0xFE] 94 96 0xE234
    ++ privateRows [0xA1, 0xA2, 0xA3, 0xA4, 0xA5, 0xA6, 0xA7] 96 0 0xE4C6

/-- Each cell that some encodings leave free has a number for private use. -/
def privateRest (taken : List Encoding) : List Encoding :=
  let (characters, _) := taken.foldl CodeTable.insert ({}, {})
  let cells := (List.range (126 * 190)).map long
  let free := cells.filter fun bs => !characters.contains (CodeTable.number bs)
  free.zipIdx.map fun (bs, n) => (bs, Char.ofNat (0xE766 + n))

/-- The encodings of GB 18030 by two bytes. The cells that GBK leaves free have numbers for private
use, even if they have characters by now. -/
def gb18030Pairs (changed : List CellRun) : List Encoding :=
  gbkAnd (ofTable long changed) ++ privateAreasAfter []
    ++ privateRest (privateAreasAfter (gbkAnd []))

/-- The characters of the first plane that some encodings lack, in order, with four bytes. -/
def fourByteRest (taken : List Encoding) : List Encoding :=
  let (_, known) := taken.foldl CodeTable.insert ({}, {})
  let codes := List.range' 0x80 0xD780 ++ List.range' 0xE000 0x2000
  let others := (codes.map Char.ofNat).filter fun c => !known.contains c.toNat
  others.zipIdx.map fun (c, n) => (fourBytes n, c)

/-- Digits follow in second place where four bytes belong together. -/
def gb18030Span : List UInt8 → Nat
  | _ :: b :: _ => if 0x30 ≤ b ∧ b ≤ 0x39 then 4 else 2
  | _ => 2

/-- The codec of GB 18030 that has some pairs of bytes. -/
def gb18030 (pairs : List Encoding) : MultiByte :=
  { CodeTable.ofEncodings [] (pairs ++ fourByteRest pairs) [] with
    codec := "gb18030"
    span := gb18030Span
    isFull := true }

/-! ### Traditional characters -/

/-- The cells of Big5. -/
def bigFiveCells : Framing := split 0xA1

/-- Some characters stand in two cells of Big5. -/
def bigFivePreferred : List Encoding :=
  [([0xA2, 0x41], '／'), ([0xA2, 0x42], '＼'), ([0xA4, 0x51], '十'), ([0xA4, 0xCA], '卅')]

/-- Characters that Big5 has in the cells that code page 950 changes are still encoded by them. -/
def cp950Preferred : List Encoding :=
  [([0xA1, 0x45], '•'), ([0xA1, 0x4E], '､'), ([0xA1, 0xC2], '‾'), ([0xA1, 0xE3], '∼'),
    ([0xA1, 0xF2], '♁'), ([0xA1, 0xF3], '☉'), ([0xA2, 0x44], '¥'), ([0xA2, 0x46], '¢'),
    ([0xA2, 0x47], '£'), ([0xA4, 0x51], '十'), ([0xA4, 0xCA], '卅')]

/-- Frames that Big5 has, and Hong Kong has again. -/
def hongKongPreferred : List Encoding :=
  bigFivePreferred ++
    [([0xF9, 0xE9], '╞'), ([0xF9, 0xEA], '╪'), ([0xF9, 0xEB], '╡'), ([0xF9, 0xF9], '═'),
      ([0xF9, 0xFA], '╭'), ([0xF9, 0xFB], '╮'), ([0xF9, 0xFC], '╰'), ([0xF9, 0xFD], '╯')]

/-- Letters with two marks. -/
def hongKongPairs : List PairEncoding :=
  [⟨'Ê', 0x304, [0x88, 0x62]⟩, ⟨'Ê', 0x30C, [0x88, 0x64]⟩, ⟨'ê', 0x304, [0x88, 0xA3]⟩,
    ⟨'ê', 0x30C, [0x88, 0xA5]⟩]

/-- Whether a cell of Big5 is one of Hong Kong too. In some rows all cells are different. -/
def isKept (bs : List UInt8) : Bool :=
  let n := CodeTable.number bs
  n < 0xC6A1 || 0xC8FE < n

/-- The codec of Hong Kong, in which some characters are added. -/
def hongKong (added : List CellRun) : MultiByte :=
  ofCells "big5hkscs" hongKongPreferred
    (ofTable (split 0x87) added
      ++ (ofTable bigFiveCells Grid.bigFive).filter fun entry => isKept entry.1)
    hongKongPairs

end Zpl.MultiByte
