import Zpl.Text.Codec.Framing
import Zpl.Text.Codec.Grid.Japanese
import Zpl.Text.Codec.MultiByte

/-!
# Japanese codecs

The extended codecs have the rows of a plane in bytes beyond ASCII, and announce those of a second
plane. The shifted ones fold two rows to one, and leave room for syllables of a single byte. JIS X
0213 is there in the form of its first year and in that of 2004, which adds ten characters and
changes one.

## Main definitions

* `MultiByte.eucJp`, `MultiByte.eucJisX0213` — the extended codecs.
* `MultiByte.shiftJis`, `MultiByte.cp932`, `MultiByte.shiftJisX0213` — the shifted ones.
-/

namespace Zpl

namespace Framing

/-- Narrow syllables. -/
def narrow (bytes : Framing) : List Encoding := consecutive 63 bytes 0xFF61

/-- Narrow syllables of a single byte. -/
def narrowSingle : List Encoding := narrow fun n => [CodeTable.byte (0xA1 + n)]

/-- Two signs that stand in the places of ASCII ones in Japan. -/
def national : List Encoding := [([0x5C], '¥'), ([0x7E], '‾')]

end Framing

/-! ### JIS X 0213 -/

namespace JisX0213

open Framing

/-- The form of the standard. -/
inductive Form where
  | first
  | revised
  deriving DecidableEq, Repr

/-- The characters of the first plane that the revision adds. -/
def added : List Char := ['俱', '剝', '𠮟', '吞', '噓', '姸', '屛', '幷', '瘦', '繫']

/-- The characters that JIS X 0213 adds to the first plane. -/
def firstPlane (form : Form) (bytes : Framing) : List Encoding :=
  let all := bytes.ofTable Grid.jisX0213First
  match form with
  | .first => all.filter fun entry => !added.contains entry.2
  | .revised => all

/-- What the revision adds has no encoding in the first form. -/
def absent (form : Form) (bytes : Framing) : List (List UInt8) :=
  match form with
  | .first =>
    ((bytes.ofTable Grid.jisX0213First).filter fun entry => added.contains entry.2).map (·.1)
  | .revised => []

/-- The characters of the second plane, in which the revision changes one. -/
def secondPlane (form : Form) (bytes : Framing) : List Encoding :=
  let all := bytes.ofTable Grid.jisX0213Second
  match form with
  | .first => (bytes 8674, '鬝') :: all
  | .revised => all

/-- Pairs of characters in the cells of the first plane. -/
def pairs : List (Nat × Char × Nat) :=
  [(368, 'か', 0x309A), (369, 'き', 0x309A), (370, 'く', 0x309A), (371, 'け', 0x309A),
    (372, 'こ', 0x309A), (462, 'カ', 0x309A), (463, 'キ', 0x309A), (464, 'ク', 0x309A),
    (465, 'ケ', 0x309A), (466, 'コ', 0x309A), (467, 'セ', 0x309A), (468, 'ツ', 0x309A),
    (469, 'ト', 0x309A), (557, 'ㇷ', 0x309A), (975, 'æ', 0x300), (979, 'ɔ', 0x300),
    (980, 'ɔ', 0x301), (981, 'ʌ', 0x300), (982, 'ʌ', 0x301), (983, 'ə', 0x300), (984, 'ə', 0x301),
    (985, 'ɚ', 0x300), (986, 'ɚ', 0x301), (1008, '˩', 0x2E5), (1009, '˥', 0x2E9)]

/-- The first characters of the pairs with their own cells. With a control character that has the
number zero they are encoded as if they were alone. -/
def alone : List (Nat × Char × Nat) :=
  [(292, 'か', 0), (294, 'き', 0), (296, 'く', 0), (298, 'け', 0), (300, 'こ', 0), (386, 'カ', 0),
    (388, 'キ', 0), (390, 'ク', 0), (392, 'ケ', 0), (394, 'コ', 0), (402, 'セ', 0), (411, 'ツ', 0),
    (415, 'ト', 0), (554, 'ㇷ', 0), (811, 'æ', 0), (963, 'ɔ', 0), (962, 'ʌ', 0), (955, 'ə', 0),
    (974, 'ɚ', 0), (1007, '˩', 0), (1003, '˥', 0)]

/-- What is encoded together. -/
def together (bytes : Framing) : List PairEncoding := bytes.ofPairs (pairs ++ alone)

end JisX0213

namespace MultiByte

open Framing

/-! ### Extended codecs -/

/-- A byte announces the second plane. -/
def extendedSpan : List UInt8 → Nat
  | b :: _ => if b = 0x8F then 3 else 2
  | [] => 1

/-- Narrow syllables after a byte that announces them. -/
def narrowAnnounced : List Encoding := narrow fun n => [0x8E, CodeTable.byte (0xA1 + n)]

/-- JIS X 0212 has a tilde of its own, but that of ASCII is written. -/
def plainTilde : List Encoding := [([0x7E], '~')]

def eucJp (added : List CellRun) : MultiByte :=
  { CodeTable.ofEncodings (plainTilde ++ national)
      (narrowAnnounced ++ ofTable high Grid.jisX0208 ++ ofTable announced added) [] with
    codec := "euc_jp"
    span := extendedSpan }

/-- What a form of JIS X 0213 reads, but does not encode. -/
def unwritten : JisX0213.Form → List Char
  | .first => ['瘦', '繫', '鬜']
  | .revised => []

/-- Where a cell of the second plane is free, the one of JIS X 0212 counts. -/
def eucJisX0213 (codec : String) (form : JisX0213.Form) : MultiByte :=
  { (CodeTable.ofEncodings plainTilde
      (narrowAnnounced ++ [([0xA2, 0xB2], '～')] ++ ofTable high Grid.jisX0208
        ++ JisX0213.firstPlane form high ++ JisX0213.secondPlane form announced
        ++ ofTable announced Grid.jisX0212)
      (JisX0213.together high)).without (unwritten form) with
    codec := codec
    span := extendedSpan
    absent := JisX0213.absent form high }

/-! ### Shifted codecs -/

/-- Where the rows leave room for single bytes, a byte is the first of two if it stands for a row.
The last one that does is given. -/
def foldedSpan (last : UInt8) : List UInt8 → Nat
  | b :: _ => if (0x81 ≤ b && b < 0xA0) || (0xE0 ≤ b && b ≤ last) then 2 else 1
  | [] => 1

def shiftJis (table : List CellRun) : MultiByte :=
  { CodeTable.ofEncodings national (narrowSingle ++ ofTable folded table) [] with
    codec := "shift_jis"
    span := foldedSpan 0xEA }

/-- The single bytes that code page 932 has besides. -/
def cp932Singles : List Encoding :=
  [([0x80], '\x80'), ([0xA0], Char.ofNat 0xF8F0)]
    ++ consecutive 3 (fun n => [CodeTable.byte (0xFD + n)]) 0xF8F1

/-- The cells in which code page 932 has other characters. -/
def cp932Changed : List Encoding :=
  [([0x81, 0x60], '～'), ([0x81, 0x61], '∥'), ([0x81, 0x7C], '－'), ([0x81, 0x91], '￠'),
    ([0x81, 0x92], '￡'), ([0x81, 0xCA], '￢')]

/-- Characters that used to be in the changed cells are still encoded by them. -/
def cp932Preferred : List Encoding :=
  [([0x81, 0x60], '〜'), ([0x81, 0x61], '‖'), ([0x81, 0x7C], '−'), ([0x81, 0x91], '¢'),
    ([0x81, 0x92], '£'), ([0x81, 0xCA], '¬')]

/-- Code page 932 with what vendors added. -/
def cp932 (added : List CellRun) : MultiByte :=
  { CodeTable.ofEncodings cp932Preferred
      (cp932Singles ++ narrowSingle ++ cp932Changed ++ ofTable folded Grid.jisX0208
        ++ ofTable folded added ++ consecutive 1880 (fun n => folded (8836 + n)) 0xE000) [] with
    codec := "cp932"
    span := foldedSpan 0xFC }

/-- The national signs stand in the places of ASCII ones, and those have cells. -/
def shiftJisX0213 (codec : String) (form : JisX0213.Form) : MultiByte :=
  { CodeTable.ofEncodings []
      (national ++ narrowSingle ++ [([0x81, 0x5F], '\\'), ([0x81, 0xB0], '~')]
        ++ ofTable folded Grid.jisX0208 ++ JisX0213.firstPlane form folded
        ++ JisX0213.secondPlane form foldedSecond)
      (JisX0213.together folded) with
    codec := codec
    span := foldedSpan 0xFC
    absent := JisX0213.absent form folded }

end MultiByte

end Zpl
