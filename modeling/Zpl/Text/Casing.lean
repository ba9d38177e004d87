import Zpl.Text.Case

/-!
# Case beyond the two mappings

Capital letters, small letters, and the few title-case letters that stand for a pair of which the
first is a capital. A word is in title case when its first letter is the title form and the others
are small. Folding makes texts equal that differ in case only.

Most capitals are recognized by having a small form, and most small letters by having a capital
one; classes list the others. Folding a letter is taking the small forms of its capital form, except
for a few letters.

## Main definitions

* `CodePoint.isUpper`, `isLower`, `isTitle` — letters by case.
* `Text.titled`, `capitalized`, `swapped`, `folded` — changes of case.
-/

namespace Zpl

/-- Title-case letters. -/
def titleClass : CodeClass :=
  ⟨[
    0x1C5, 0x1C6, 0x1C8, 0x1C9, 0x1CB, 0x1CC, 0x1F2, 0x1F3, 0x1F88, 0x1F90, 0x1F98, 0x1FA0, 0x1FA8,
    0x1FB0, 0x1FBC, 0x1FBD, 0x1FCC, 0x1FCD, 0x1FFC, 0x1FFD
  ]⟩

/-- Capital letters without a small form. -/
def upperOnlyClass : CodeClass :=
  ⟨[
    0x3D2, 0x3D5, 0x2102, 0x2103, 0x2107, 0x2108, 0x210B, 0x210E, 0x2110, 0x2113, 0x2115, 0x2116,
    0x2119, 0x211E, 0x2124, 0x2125, 0x2128, 0x2129, 0x212C, 0x212E, 0x2130, 0x2132, 0x2133, 0x2134,
    0x213E, 0x2140, 0x2145, 0x2146, 0x1D400, 0x1D41A, 0x1D434, 0x1D44E, 0x1D468, 0x1D482, 0x1D49C,
    0x1D49D, 0x1D49E, 0x1D4A0, 0x1D4A2, 0x1D4A3, 0x1D4A5, 0x1D4A7, 0x1D4A9, 0x1D4AD, 0x1D4AE,
    0x1D4B6, 0x1D4D0, 0x1D4EA, 0x1D504, 0x1D506, 0x1D507, 0x1D50B, 0x1D50D, 0x1D515, 0x1D516,
    0x1D51D, 0x1D538, 0x1D53A, 0x1D53B, 0x1D53F, 0x1D540, 0x1D545, 0x1D546, 0x1D547, 0x1D54A,
    0x1D551, 0x1D56C, 0x1D586, 0x1D5A0, 0x1D5BA, 0x1D5D4, 0x1D5EE, 0x1D608, 0x1D622, 0x1D63C,
    0x1D656, 0x1D670, 0x1D68A, 0x1D6A8, 0x1D6C1, 0x1D6E2, 0x1D6FB, 0x1D71C, 0x1D735, 0x1D756,
    0x1D76F, 0x1D790, 0x1D7A9, 0x1D7CA, 0x1D7CB, 0x1F130, 0x1F14A, 0x1F150, 0x1F16A, 0x1F170,
    0x1F18A
  ]⟩

/-- Small letters without a capital form. -/
def lowerOnlyClass : CodeClass :=
  ⟨[
    0xAA, 0xAB, 0xBA, 0xBB, 0x138, 0x139, 0x18D, 0x18E, 0x19B, 0x19C, 0x1AA, 0x1AC, 0x1BA, 0x1BB,
    0x1BE, 0x1BF, 0x221, 0x222, 0x234, 0x23A, 0x255, 0x256, 0x258, 0x259, 0x25A, 0x25B, 0x25D,
    0x260, 0x262, 0x263, 0x264, 0x265, 0x267, 0x268, 0x26D, 0x26F, 0x270, 0x271, 0x273, 0x275,
    0x276, 0x27D, 0x27E, 0x280, 0x281, 0x282, 0x284, 0x287, 0x28D, 0x292, 0x293, 0x294, 0x295,
    0x29D, 0x29F, 0x2B9, 0x2C0, 0x2C2, 0x2E0, 0x2E5, 0x37A, 0x37B, 0x3FC, 0x3FD, 0x560, 0x561,
    0x588, 0x589, 0x1D00, 0x1D79, 0x1D7A, 0x1D7D, 0x1D7E, 0x1D8E, 0x1D8F, 0x1DC0, 0x1E9C, 0x1E9E,
    0x1E9F, 0x1EA0, 0x2071, 0x2072, 0x207F, 0x2080, 0x2090, 0x209D, 0x210A, 0x210B, 0x210E, 0x2110,
    0x2113, 0x2114, 0x212F, 0x2130, 0x2134, 0x2135, 0x2139, 0x213A, 0x213C, 0x213E, 0x2146, 0x214A,
    0x2C71, 0x2C72, 0x2C74, 0x2C75, 0x2C77, 0x2C7E, 0x2CE4, 0x2CE5, 0xA69C, 0xA69E, 0xA730, 0xA732,
    0xA770, 0xA779, 0xA78E, 0xA78F, 0xA795, 0xA796, 0xA7AF, 0xA7B0, 0xA7D3, 0xA7D4, 0xA7D5, 0xA7D6,
    0xA7F8, 0xA7FB, 0xAB30, 0xAB53, 0xAB54, 0xAB5B, 0xAB5C, 0xAB69, 0x10780, 0x10781, 0x10783,
    0x10786, 0x10787, 0x107B1, 0x107B2, 0x107BB, 0x1D41A, 0x1D434, 0x1D44E, 0x1D455, 0x1D456,
    0x1D468, 0x1D482, 0x1D49C, 0x1D4B6, 0x1D4BA, 0x1D4BB, 0x1D4BC, 0x1D4BD, 0x1D4C4, 0x1D4C5,
    0x1D4D0, 0x1D4EA, 0x1D504, 0x1D51E, 0x1D538, 0x1D552, 0x1D56C, 0x1D586, 0x1D5A0, 0x1D5BA,
    0x1D5D4, 0x1D5EE, 0x1D608, 0x1D622, 0x1D63C, 0x1D656, 0x1D670, 0x1D68A, 0x1D6A6, 0x1D6C2,
    0x1D6DB, 0x1D6DC, 0x1D6E2, 0x1D6FC, 0x1D715, 0x1D716, 0x1D71C, 0x1D736, 0x1D74F, 0x1D750,
    0x1D756, 0x1D770, 0x1D789, 0x1D78A, 0x1D790, 0x1D7AA, 0x1D7C3, 0x1D7C4, 0x1D7CA, 0x1D7CB,
    0x1D7CC, 0x1DF00, 0x1DF0A, 0x1DF0B, 0x1DF1F
  ]⟩

/-- Small letters of a script whose capitals are not used in titles. -/
def untitledClass : CodeClass := ⟨[0x10D0, 0x10FB, 0x10FD, 0x1100]⟩

/-- The letters whose title form is neither themselves nor their capital form. -/
def titleSequences : List (Nat × List Nat) :=
  [
    (0xDF, [0x53, 0x73]), (0x1C4, [0x1C5]), (0x1C6, [0x1C5]), (0x1C7, [0x1C8]), (0x1C9, [0x1C8]),
    (0x1CA, [0x1CB]), (0x1CC, [0x1CB]), (0x1F1, [0x1F2]), (0x1F3, [0x1F2]),
    (0x587, [0x535, 0x582]), (0x1F80, [0x1F88]), (0x1F81, [0x1F89]), (0x1F82, [0x1F8A]),
    (0x1F83, [0x1F8B]), (0x1F84, [0x1F8C]), (0x1F85, [0x1F8D]), (0x1F86, [0x1F8E]),
    (0x1F87, [0x1F8F]), (0x1F90, [0x1F98]), (0x1F91, [0x1F99]), (0x1F92, [0x1F9A]),
    (0x1F93, [0x1F9B]), (0x1F94, [0x1F9C]), (0x1F95, [0x1F9D]), (0x1F96, [0x1F9E]),
    (0x1F97, [0x1F9F]), (0x1FA0, [0x1FA8]), (0x1FA1, [0x1FA9]), (0x1FA2, [0x1FAA]),
    (0x1FA3, [0x1FAB]), (0x1FA4, [0x1FAC]), (0x1FA5, [0x1FAD]), (0x1FA6, [0x1FAE]),
    (0x1FA7, [0x1FAF]), (0x1FB2, [0x1FBA, 0x345]), (0x1FB3, [0x1FBC]), (0x1FB4, [0x386, 0x345]),
    (0x1FB7, [0x391, 0x342, 0x345]), (0x1FC2, [0x1FCA, 0x345]), (0x1FC3, [0x1FCC]),
    (0x1FC4, [0x389, 0x345]), (0x1FC7, [0x397, 0x342, 0x345]), (0x1FF2, [0x1FFA, 0x345]),
    (0x1FF3, [0x1FFC]), (0x1FF4, [0x38F, 0x345]), (0x1FF7, [0x3A9, 0x342, 0x345]),
    (0xFB00, [0x46, 0x66]), (0xFB01, [0x46, 0x69]), (0xFB02, [0x46, 0x6C]),
    (0xFB03, [0x46, 0x66, 0x69]), (0xFB04, [0x46, 0x66, 0x6C]), (0xFB05, [0x53, 0x74]),
    (0xFB06, [0x53, 0x74]), (0xFB13, [0x544, 0x576]), (0xFB14, [0x544, 0x565]),
    (0xFB15, [0x544, 0x56B]), (0xFB16, [0x54E, 0x576]), (0xFB17, [0x544, 0x56D])
  ]

namespace CodePoint

def isTitle (c : CodePoint) : Bool := titleClass.contains c

def isUpper (c : CodePoint) : Bool :=
  upperOnlyClass.contains c || (c.lower != [c] && !c.isTitle)

def isLower (c : CodePoint) : Bool :=
  lowerOnlyClass.contains c || (c.upper != [c] && !c.isTitle)

/-- Whether a code point is a letter with case. -/
def isCased (c : CodePoint) : Bool := c.isUpper || c.isLower || c.isTitle

/-- The form of a code point at the start of a word in title case. -/
def title (c : CodePoint) : Text :=
  if c.isTitle || untitledClass.contains c then [c]
  else
    match titleSequences.find? fun entry => entry.1 == c.code with
    | some (_, ns) => ns.map CodePoint.ofCode
    | none => c.upper

/-- Letters of a script that folds to capitals. -/
def foldsToUpper (c : CodePoint) : Bool := 0x13A0 ≤ c.code && c.code < 0x13F6

/-- The form of a code point that is the same for both cases. -/
def folded (c : CodePoint) : Text :=
  if c.code = 0x131 then [c]
  else if c.code = 0x1E9E then [CodePoint.ofCode 0x73, CodePoint.ofCode 0x73]
  else if c.upper.all foldsToUpper then c.upper
  else c.upper.flatMap CodePoint.lower

end CodePoint

namespace Text

/-- The title form of the text after `before`, the part already read, nearest first. -/
def titledAfter (before : Text) : Text → Text
  | [] => []
  | c :: rest =>
    let inWord :=
      match before with
      | [] => false
      | last :: _ => last.isCased
    (if inWord then lowerBetween before c rest else c.title) ++ titledAfter (c :: before) rest

/-- A text with each of its words in title case. -/
def titled (t : Text) : Text := titledAfter [] t

/-- A text with its first code point in title form and the others small. -/
def capitalized : Text → Text
  | [] => []
  | c :: rest => c.title ++ lowerAfter [c] rest

/-- The text after `before` with capitals and small letters exchanged. -/
def swappedAfter (before : Text) : Text → Text
  | [] => []
  | c :: rest =>
    let other :=
      if c.isUpper then lowerBetween before c rest else if c.isLower then c.upper else [c]
    other ++ swappedAfter (c :: before) rest

/-- A text with capitals and small letters exchanged. -/
def swapped (t : Text) : Text := swappedAfter [] t

/-- A text in the form that is the same for both cases. -/
def folded (t : Text) : Text := t.flatMap CodePoint.folded

/-- Whether a text has capitals, and neither small nor title-case letters. -/
def isUpper (t : Text) : Bool :=
  t.any CodePoint.isUpper && t.all fun c => !(c.isLower || c.isTitle)

/-- Whether a text has small letters, and no others with case. -/
def isLower (t : Text) : Bool :=
  t.any CodePoint.isLower && t.all fun c => !(c.isUpper || c.isTitle)

/-- Whether capitals start words only, and small letters do not; `inWord` says whether a letter with
case comes before. -/
def titlesFit (inWord : Bool) : Text → Bool
  | [] => true
  | c :: rest =>
    if c.isUpper || c.isTitle then !inWord && titlesFit true rest
    else if c.isLower then inWord && titlesFit true rest
    else titlesFit false rest

/-- Whether a text has words with case, each in title case. -/
def isTitle (t : Text) : Bool := t.any CodePoint.isCased && titlesFit false t

end Text

end Zpl
