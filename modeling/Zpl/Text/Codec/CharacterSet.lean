import Zpl.Text.Codec.EastAsian
import Zpl.Text.Codec.Page

/-!
# Character sets with marks

ISO 2022 lets a text use several character sets. The escape sequence that designates one of them
ends with a mark of the set, and tells whether its characters have one byte or two. All bytes are
those of ASCII.

## Main definitions

* `CharacterSet` — the sets.
* `CharacterSet.mark`, `CharacterSet.isWide` — how they are designated.
* `CharacterSet.table` — their characters.
-/

namespace Zpl

/-- The sets. -/
inductive CharacterSet where
  | ascii
  /-- The upper half of ISO 8859-1. -/
  | latin
  /-- The upper half of ISO 8859-7. -/
  | greek
  /-- ASCII with two signs of Japan. -/
  | roman
  /-- Narrow syllables. -/
  | katakana
  /-- The first form of JIS X 0208, by its own mark. -/
  | jisX0208Early
  | jisX0208
  | jisX0212
  /-- The two planes of the first form of JIS X 0213. -/
  | jisX0213EarlyFirst
  | jisX0213EarlySecond
  /-- The two planes of the revised form. -/
  | jisX0213First
  | jisX0213Second
  | gb2312
  | ksX1001
  deriving DecidableEq, Repr

namespace CharacterSet

open Framing

/-- Whether a character of a set has two bytes. -/
def isWide : CharacterSet → Bool
  | .ascii | .latin | .greek | .roman | .katakana => false
  | _ => true

/-- The mark of a set. A set of one byte and one of two may have the same. -/
def mark : CharacterSet → Char
  | .ascii => 'B'
  | .latin => 'A'
  | .greek => 'F'
  | .roman => 'J'
  | .katakana => 'I'
  | .jisX0208Early => '@'
  | .jisX0208 => 'B'
  | .jisX0212 => 'D'
  | .jisX0213EarlyFirst => 'O'
  | .jisX0213First => 'Q'
  | .jisX0213EarlySecond | .jisX0213Second => 'P'
  | .gb2312 => 'A'
  | .ksX1001 => 'C'

/-- How many bytes a character has. -/
def width (s : CharacterSet) : Nat := if s.isWide then 2 else 1

/-- A byte by its number. -/
def oneByte (n : Nat) : List UInt8 := [CodeTable.byte n]

/-- The first plane of a form of JIS X 0213. -/
def firstPlane (form : JisX0213.Form) : CodeTable :=
  .ofEncodings []
    (low.ofTable Grid.jisX0208 ++ [(low 111, '~')] ++ JisX0213.firstPlane form low)
    (JisX0213.together low)

/-- The characters of a set. Those of the halves of ISO 8859 are reached by other means. -/
def table : CharacterSet → CodeTable
  | .ascii => .ofEncodings [] (consecutive 0x80 oneByte 0) []
  | .latin => .ofEncodings [] [] []
  | .greek => .ofEncodings [] [] []
  | .roman => .ofEncodings [] (national ++ consecutive 0x80 oneByte 0) []
  | .katakana => .ofEncodings [] (narrow fun n => oneByte (0x21 + n)) []
  | .jisX0208Early => .ofEncodings [] (low.ofTable Grid.jisX0208) []
  | .jisX0208 => .ofEncodings [] (low.ofTable Grid.jisX0208) []
  | .jisX0212 => .ofEncodings [] (low.ofTable Grid.jisX0212) []
  | .jisX0213EarlyFirst => firstPlane .first
  | .jisX0213EarlySecond => .ofEncodings [] (JisX0213.secondPlane .first low) []
  | .jisX0213First => firstPlane .revised
  | .jisX0213Second => .ofEncodings [] (JisX0213.secondPlane .revised low) []
  | .gb2312 => .ofEncodings [] (low.ofTable Grid.gb2312) []
  | .ksX1001 => .ofEncodings [] (low.ofTable Grid.ksX1001) []

/-- The upper half of ISO 8859-7 before it got three further characters. -/
def greek? (b : UInt8) : Option Char :=
  match CodePage.isoPart7.character? (b ^^^ 0x80) with
  | some c => if ['€', '₯', '\u037A'].contains c then none else some c
  | none => none

/-- What sets answer for one byte after a sign for a single character. -/
inductive Single where
  | character (c : CodePoint)
  | none
  /-- Such a sign is not made for the set. -/
  | unsuited

/-- The character that a set has for one byte after a sign for a single character. -/
def single? (s : CharacterSet) (b : UInt8) : Single :=
  match s with
  | .ascii => if b < 0x80 then .character (CodePoint.ofCode b.toNat) else .none
  | .latin => if b < 0x80 then .character (CodePoint.ofCode (b.toNat + 0x80)) else .none
  | .greek =>
    match greek? b with
    | some c => .character (.scalar c)
    | Option.none => .none
  | _ => .unsuited

end CharacterSet

end Zpl
