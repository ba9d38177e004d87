import Zpl.Text.Codec.Framing
import Zpl.Text.Codec.Grid.Korean
import Zpl.Text.Codec.MultiByte

/-!
# Korean codecs

KS X 1001 has the commonest syllables in its cells. Of the others, one codec puts them together from
letters, another lists them around those cells, and a third has all of them by the numbers of their
letters.

## Main definitions

* `MultiByte.eucKr`, `MultiByte.cp949`, `MultiByte.johab` — the codecs.
-/

namespace Zpl.MultiByte

open Framing
open CodeTable (byte)

/-- Korean syllables by their numbers. -/
def syllable (n : Nat) : Char := Char.ofNat (0xAC00 + n)

/-- How many syllables there are. -/
def syllableCount : Nat := 11172

/-! ### Syllables from letters -/

/-- Second bytes of the letters that a syllable begins with. -/
def leadBytes : List UInt8 :=
  [0xA1, 0xA2, 0xA4, 0xA7, 0xA8, 0xA9, 0xB1, 0xB2, 0xB3, 0xB5, 0xB6, 0xB7, 0xB8, 0xB9, 0xBA, 0xBB,
    0xBC, 0xBD, 0xBE]

/-- Second bytes of the letters that a syllable ends with, after the one that stands for none. -/
def tailBytes : List UInt8 :=
  [0xD4, 0xA1, 0xA2, 0xA3, 0xA4, 0xA5, 0xA6, 0xA7, 0xA9, 0xAA, 0xAB, 0xAC, 0xAD, 0xAE, 0xAF, 0xB0,
    0xB1, 0xB2, 0xB4, 0xB5, 0xB6, 0xB7, 0xB8, 0xBA, 0xBB, 0xBC, 0xBD, 0xBE]

/-- The bytes of a syllable that is put together from letters. -/
def composed (n : Nat) : List UInt8 :=
  [0xA4, 0xD4, 0xA4, leadBytes.getD (n / 588) 0, 0xA4, byte (0xBF + n / 28 % 21), 0xA4,
    tailBytes.getD (n % 28) 0]

/-- A sign that stands for no letter announces a syllable that is put together from letters. -/
def eucKrSpan : List UInt8 → Nat
  | a :: b :: _ => if a = 0xA4 ∧ b = 0xD4 then 8 else 2
  | _ => 2

def eucKr (table : List CellRun) : MultiByte :=
  { CodeTable.ofEncodings []
      (ofTable high table ++ (List.range syllableCount).map fun n => (composed n, syllable n))
      [] with
    codec := "euc_kr"
    span := eucKrSpan }

/-! ### Syllables around the cells -/

/-- The second bytes that two letters or a letter and a bound allow, from the first letters on. -/
def unifiedSeconds (bound : Nat) : List Nat :=
  List.range' 0x41 26 ++ List.range' 0x61 26 ++ List.range' 0x81 (bound - 0x81)

/-- The cells of some rows around those of KS X 1001. -/
def unifiedCells (rows : Nat) : List (List UInt8) :=
  (List.range' 0x81 rows).flatMap fun first =>
    (unifiedSeconds (if first < 0xA1 then 0xFF else 0xA1)).map fun second =>
      [byte first, byte second]

/-- The syllables that some encodings lack. -/
def syllablesBeyond (taken : List Encoding) : List Char :=
  let (_, known) := taken.foldl CodeTable.insert ({}, {})
  ((List.range syllableCount).map syllable).filter fun c => !known.contains c.toNat

/-- The syllables that KS X 1001 lacks are in order around its cells. -/
def cp949 (table : List CellRun) : MultiByte :=
  let entries := ofTable high table
  { CodeTable.ofEncodings [] (entries ++ (unifiedCells 70).zip (syllablesBeyond entries)) [] with
    codec := "cp949"
    span := fun _ => 2 }

/-! ### Syllables by the numbers of their letters -/

/-- The numbers of the letters that a syllable ends with, after that of none. -/
def tailNumbers : List Nat := List.range' 1 17 ++ List.range' 19 11

/-- The numbers of the vowels. -/
def vowelNumbers : List Nat :=
  List.range' 3 5 ++ List.range' 10 6 ++ List.range' 18 6 ++ List.range' 26 4

/-- Two bytes with the numbers of three letters. -/
def threefold (lead vowel tail : Nat) : List UInt8 :=
  let n := 0x8000 + lead * 0x400 + vowel * 0x20 + tail
  [byte (n / 0x100), byte (n % 0x100)]

/-- The bytes of a syllable by the numbers of its letters. -/
def lettered : Framing := fun n =>
  threefold (n / 588 + 2) (vowelNumbers.getD (n / 28 % 21) 0) (tailNumbers.getD (n % 28) 0)

/-- The letters that syllables begin with, alone. -/
def leadsAlone : List Encoding :=
  "ㄱㄲㄴㄷㄸㄹㅁㅂㅃㅅㅆㅇㅈㅉㅊㅋㅌㅍㅎ".toList.zipIdx.map fun (c, n) =>
    (threefold (n + 2) 2 1, c)

/-- The letters that syllables end with, alone. -/
def tailsAlone : List Encoding :=
  "ㄱㄲㄳㄴㄵㄶㄷㄹㄺㄻㄼㄽㄾㄿㅀㅁㅂㅄㅅㅆㅇㅈㅊㅋㅌㅍㅎ".toList.zip (tailNumbers.drop 1)
    |>.map fun (c, n) => (threefold 1 2 n, c)

/-- The vowels, alone. -/
def vowelsAlone : List Encoding :=
  "ㅏㅐㅑㅒㅓㅔㅕㅖㅗㅘㅙㅚㅛㅜㅝㅞㅟㅠㅡㅢㅣ".toList.zip vowelNumbers
    |>.map fun (c, n) => (threefold 1 n 1, c)

/-- Whether a character is a letter or a syllable. -/
def isKorean (c : Char) : Bool :=
  (0x3131 ≤ c.toNat && c.toNat ≤ 0x3163) || (0xAC00 ≤ c.toNat && c.toNat ≤ 0xD7A3)

/-- The rows of KS X 1001 whose Chinese characters come after the syllables, and those before. -/
def hasRow (n : Nat) : Bool := n / 94 < 12 || 41 ≤ n / 94

/-- The signs of KS X 1001 have other bytes, and so do its Chinese characters. -/
def signs (table : List CellRun) : List Encoding :=
  (Grid.cells table).filterMap fun (n, c) =>
    if isKorean c || !hasRow n then none else some (gapped n, c)

def johab (table : List CellRun) : MultiByte :=
  ofSigns (signs table)
where
  ofSigns (entries : List Encoding) : MultiByte :=
    { CodeTable.ofEncodings []
        (entries ++ consecutive syllableCount lettered 0xAC00 ++ leadsAlone ++ tailsAlone
          ++ vowelsAlone ++ [(threefold 1 2 1, '\u3000')]) [] with
      codec := "johab"
      span := fun _ => 2 }

end Zpl.MultiByte
