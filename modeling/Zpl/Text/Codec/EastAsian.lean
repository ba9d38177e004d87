import Zpl.Text.Codec.EastAsian.Chinese
import Zpl.Text.Codec.EastAsian.Japanese
import Zpl.Text.Codec.EastAsian.Korean

/-!
# Codecs of East Asia

## Main definitions

* `EastAsian` — the codecs that leave ASCII and take several bytes for another character.
* `EastAsian.encodings` — what they encode.
-/

namespace Zpl

/-- The codecs. -/
inductive EastAsian where
  | gb2312
  | gbk
  | gb18030
  | bigFive
  | cp950
  | hongKong
  | eucJp
  | eucJisX0213
  | eucJis2004
  | shiftJis
  | cp932
  | shiftJisX0213
  | shiftJis2004
  | eucKr
  | cp949
  | johab
  deriving DecidableEq, Repr

/-- The encodings of a codec. -/
def EastAsian.encodings : EastAsian → MultiByte
  | .gb2312 => .gb2312 .high
  | .gbk => .ofCells "gbk" [] (MultiByte.gbkAnd []) []
  | .gb18030 => .gb18030 (MultiByte.gb18030Pairs Grid.gb18030More)
  | .bigFive =>
    .ofCells "big5" MultiByte.bigFivePreferred (MultiByte.bigFiveCells.ofTable Grid.bigFive) []
  | .cp950 =>
    .ofCells "cp950" MultiByte.cp950Preferred
      (MultiByte.bigFiveCells.ofTable Grid.cp950Changed
        ++ MultiByte.bigFiveCells.ofTable Grid.bigFive
        ++ MultiByte.bigFiveCells.ofTable Grid.cp950More) []
  | .hongKong => .hongKong Grid.hongKong
  | .eucJp => .eucJp Grid.jisX0212
  | .eucJisX0213 => .eucJisX0213 "euc_jisx0213" .first
  | .eucJis2004 => .eucJisX0213 "euc_jis_2004" .revised
  | .shiftJis => .shiftJis Grid.jisX0208
  | .cp932 => .cp932 Grid.japaneseVendor
  | .shiftJisX0213 => .shiftJisX0213 "shift_jisx0213" .first
  | .shiftJis2004 => .shiftJisX0213 "shift_jis_2004" .revised
  | .eucKr => .eucKr Grid.ksX1001
  | .cp949 => .cp949 Grid.ksX1001
  | .johab => .johab Grid.ksX1001

end Zpl
