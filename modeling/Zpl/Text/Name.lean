import Zpl.Text.Name.Asian
import Zpl.Text.Name.Form
import Zpl.Text.Name.Latin
import Zpl.Text.Name.Notation
import Zpl.Text.Name.Other
import Zpl.Text.Name.Picture
import Zpl.Text.Name.Regional
import Zpl.Text.Name.Shape
import Zpl.Text.Name.Symbol

/-!
# Names of characters

Unicode 14 names each character in capital letters. The names of ideographs and of Korean syllables
follow from their numbers, and the names of other characters are listed. A character may also be
found by other names.

## Main definitions

* `CodePoint.name?` — the name of a code point.
* `CodePoint.ofName?` — the code point of a name.
-/

namespace Zpl

namespace NameRow

/-- The names that are listed. -/
def tables : List (List NameRow) :=
  [latin, asian, syllabic, phonetic, symbol, shape, supplement, regional, form, ancient, indic,
    wordSign, notations, picture]

end NameRow

/-! ### Ideographs -/

namespace Ideograph

/-- The stretches of ideographs in common order. -/
def stretches : List (Nat × Nat) :=
  [(0x3400, 0x4DBF), (0x4E00, 0x9FFF), (0x20000, 0x2A6DF), (0x2A700, 0x2B738), (0x2B740, 0x2B81D),
    (0x2B820, 0x2CEA1), (0x2CEB0, 0x2EBE0), (0x30000, 0x3134A)]

def title : String := "CJK UNIFIED IDEOGRAPH-"

def contains (code : Nat) : Bool := stretches.any fun (a, b) => a ≤ code && code ≤ b

/-- The digits of the number of an ideograph. -/
def digits (code : Nat) : List Char := (Nat.toDigits 16 code).map Char.toUpper

/-- The name of an ideograph. -/
def name? (code : Nat) : Option String :=
  if contains code then some (title ++ String.ofList (digits code)) else none

/-- Other characters whose names end with their numbers. -/
def numbered : List (Nat × Nat × String) :=
  [(0xF900, 0xFA6D, "CJK COMPATIBILITY IDEOGRAPH-"),
    (0xFA70, 0xFAD9, "CJK COMPATIBILITY IDEOGRAPH-"),
    (0x2F800, 0x2FA1D, "CJK COMPATIBILITY IDEOGRAPH-"),
    (0x18B00, 0x18CD5, "KHITAN SMALL SCRIPT CHARACTER-"), (0x1B170, 0x1B2FB, "NUSHU CHARACTER-")]

/-- The name of such a character. -/
def numberedName? (code : Nat) : Option String :=
  (numbered.find? fun (first, last, _) => first ≤ code && code ≤ last).map fun (_, _, title) =>
    title ++ String.ofList (digits code)

/-- The number that hexadecimal digits in capitals spell. -/
def number (ds : List Char) : Nat :=
  ds.foldl
    (fun n c => 16 * n + (if c.isDigit then c.toNat - '0'.toNat else c.toNat - 'A'.toNat + 10)) 0

/-- The number that a name has four or five digits for after a title. -/
def codeAfter? (title name : String) : Option Nat :=
  let digits := name.toList.drop title.length
  let isNumber := digits.all fun c => c.isDigit || ('A' ≤ c && c ≤ 'F')
  if title.toList.isPrefixOf name.toList && isNumber
      && (digits.length == 4 || digits.length == 5) then
    some (number digits)
  else none

/-- The number of the ideograph of a name. -/
def code? (name : String) : Option Nat := (codeAfter? title name).filter contains

/-- The number of another character whose name ends with it. -/
def numberedCode? (name : String) : Option Nat :=
  numbered.findSome? fun (_, _, title) =>
    let code := number (name.toList.drop title.length)
    if numberedName? code == some name then some code else none

end Ideograph

/-! ### Other names -/

namespace OtherName

/-- The marks that select a form have numbers in their short names. -/
def selectors : List (Nat × String) :=
  (List.range 256).map fun n =>
    (if n < 16 then 0xFE00 + n else 0xE0100 + (n - 16), "VS" ++ toString (n + 1))

/-- All other names, in the order of the characters. -/
def all (rows : List NameRow) : List (Nat × String) :=
  (NameRow.severalNames rows ++ selectors).mergeSort fun a b => a.1 ≤ b.1

/-- The numbers of characters by some names. -/
def numbersOf (names : List (Nat × String)) : Std.HashMap String Nat :=
  names.foldl (fun known (n, name) => known.insert name n) {}

/-- The number of the character of another name. -/
def code? (name : String) : Option Nat := (numbersOf (all NameRow.others))[name]?

/-- The private number that goes with the first of the other names. -/
def first : Nat := 0xF0000

/-- The name that goes with a private number: one of the other names, or one of a sequence. -/
def name? (code : Nat) : Option String :=
  if code < first then none
  else
    (((all NameRow.others).toArray.map (·.2))[code - first]?).or
      ((NameRow.namesOf [NameRow.sequences])[code]?)

end OtherName

/-! ### Korean syllables -/

namespace Hangul

def title : String := "HANGUL SYLLABLE "

/-- The letters that a syllable begins with. -/
def leads : List String :=
  ["G", "GG", "N", "D", "DD", "R", "M", "B", "BB", "S", "SS", "", "J", "JJ", "C", "K", "T", "P",
    "H"]

/-- The vowels of syllables. -/
def vowels : List String :=
  ["A", "AE", "YA", "YAE", "EO", "E", "YEO", "YE", "O", "WA", "WAE", "OE", "YO", "U", "WEO", "WE",
    "WI", "YU", "EU", "YI", "I"]

/-- The letters that a syllable ends with. -/
def tails : List String :=
  ["", "G", "GG", "GS", "N", "NJ", "NH", "D", "L", "LG", "LM", "LB", "LS", "LT", "LP", "LH", "M",
    "B", "BS", "S", "SS", "NG", "J", "C", "K", "T", "P", "H"]

/-- The number of the first syllable. -/
def first : Nat := 0xAC00

/-- The name of a syllable. -/
def name? (code : Nat) : Option String :=
  if code < first then none
  else
    let place := code - first
    match leads[place / 588]? with
    | some lead =>
      some (title ++ lead ++ vowels.getD (place / 28 % 21) "" ++ tails.getD (place % 28) "")
    | none => none

/-- The number of the syllable of a name. -/
def code? (name : String) : Option Nat :=
  if title.toList.isPrefixOf name.toList then
    (List.range 11172).findSome? fun place =>
      if name? (first + place) == some name then some (first + place) else none
  else none

end Hangul

namespace CodePoint

/-- The name of a code point, if it has one, or one goes with its number. -/
def name? (c : CodePoint) : Option String :=
  ((NameRow.namesOf NameRow.tables)[c.code]?).or
    ((Ideograph.name? c.code).or ((Ideograph.numberedName? c.code).or
      ((Hangul.name? c.code).or (OtherName.name? c.code))))

/-- The number of a name in capitals that is listed, or counts as listed. -/
def listedCode? (name : String) : Option Nat :=
  ((NameRow.numbersOf NameRow.tables)[name]?).or
    ((OtherName.code? name).or (Ideograph.numberedCode? name))

/-- The code point of a name, if there is one. A name that is listed may be in small letters. -/
def ofName? (name : String) : Option CodePoint :=
  let capitals := String.ofList (name.toList.map Char.toUpper)
  ((listedCode? capitals).or ((Ideograph.code? name).or (Hangul.code? name))).map ofCode

end CodePoint

end Zpl
