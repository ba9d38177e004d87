import Zpl.Decimal
import Zpl.Text.Blank
import Zpl.Text.Numeric
import Zpl.Text.Quoted

/-!
# Reading numbers from text

Both readers allow blanks around a number, a sign, digits of any script, and single underscores
between digits. Integers are read in base ten, or in the base that a `0x`, `0o` or `0b` in front
announces; in the latter mode a decimal integer other than zero has no leading zero. A decimal
integer has at most 4300 digits.

## Main definitions

* `Numeral.readInt` — an integer in base ten.
* `Numeral.readLiteral` — an integer in an announced base.
* `Numeral.readNumber` — a binary64 value.
-/

namespace Zpl.Numeral

/-- The ASCII form of a code point within a number: digits of every script become ASCII digits and
blanks become spaces. Whatever else lies outside ASCII becomes a mark that no number contains. -/
def asciiForm (c : CodePoint) : Char :=
  if c.code < 0x7F then Char.ofNat c.code
  else if c.isBlank then ' '
  else
    match c.digit? with
    | some n => Char.ofNat (0x30 + n)
    | none => '?'

/-- The blanks that may stand around a number once it is in ASCII form. -/
def isSpace (c : Char) : Bool :=
  c == ' ' || (0x9 ≤ c.toNat && c.toNat ≤ 0xD)

/-- The ASCII form of a text without the blanks around it. -/
def trimmed (t : Text) : List Char :=
  (((t.map asciiForm).dropWhile isSpace).reverse.dropWhile isSpace).reverse

/-- The sign in front of a number, and what follows it. -/
def splitSign : List Char → Bool × List Char
  | '-' :: cs => (true, cs)
  | '+' :: cs => (false, cs)
  | cs => (false, cs)

/-! ### Integers -/

/-- The value of a digit in bases up to thirty-six. -/
def digitValue? (c : Char) : Option Nat :=
  if '0' ≤ c ∧ c ≤ '9' then some (c.toNat - '0'.toNat)
  else if 'a' ≤ c ∧ c ≤ 'z' then some (c.toNat - 'a'.toNat + 10)
  else if 'A' ≤ c ∧ c ≤ 'Z' then some (c.toNat - 'A'.toNat + 10)
  else none

def isDigitOf (base : Nat) (c : Char) : Bool :=
  match digitValue? c with
  | some n => n < base
  | none => false

/-- Whether underscores stand singly and between other characters only. -/
def underscoresSeparate : List Char → Bool
  | [] => true
  | ['_'] => false
  | '_' :: '_' :: _ => false
  | _ :: cs => underscoresSeparate cs

/-- The number that digits spell. -/
def digitsValue (base : Nat) (ds : List Char) : Nat :=
  ds.foldl (fun n c => n * base + (digitValue? c).getD 0) 0

/-- The base that the beginning of an integer announces, the digits after the announcement, and
whether they have to be zero. One underscore may follow an announcement. -/
def announcedBase : List Char → Nat × List Char × Bool
  | '0' :: c :: cs =>
    let afterMark := match cs with
      | '_' :: rest => rest
      | _ => cs
    if c = 'x' ∨ c = 'X' then (16, afterMark, false)
    else if c = 'o' ∨ c = 'O' then (8, afterMark, false)
    else if c = 'b' ∨ c = 'B' then (2, afterMark, false)
    else (10, '0' :: c :: cs, true)
  | ['0'] => (10, ['0'], true)
  | cs => (10, cs, false)

/-- Reads digits of a base, the whole of a trimmed text. The number of digits is checked before
what follows them. -/
def readDigits (base : Nat) (mustBeZero : Bool) (cs : List Char) (bad : Fault) :
    Except Fault Nat := do
  let run := cs.takeWhile fun c => isDigitOf base c || c == '_'
  let digits := run.filter (· != '_')
  if digits.isEmpty || run.head? == some '_' || !underscoresSeparate run then throw bad
  if base = 10 ∧ Decimal.maxDigits < digits.length then throw (.tooManyDigits digits.length)
  if run.length ≠ cs.length then throw bad
  let n := digitsValue base digits
  if mustBeZero && n != 0 then throw bad
  return n

/-- The longest form of an offending text that a diagnostic shows. -/
def maxShown : Nat := 200

/-- Reads an integer. `shown` is the text as a diagnostic would show it. -/
def readIntWith (announced : Bool) (shown : Text) (t : Text) : Except Fault Int := do
  let bad := Fault.badInteger (if announced then 0 else 10) (shown.take maxShown)
  let (negative, cs) := splitSign (trimmed t)
  let (base, ds, mustBeZero) := if announced then announcedBase cs else (10, cs, false)
  let n ← readDigits base mustBeZero ds bad
  return if negative then -n else n

/-- Reads a decimal integer. -/
def readInt (t : Text) : Except Fault Int := readIntWith false t.quoted t

/-- Reads an integer in the base that it announces. -/
def readLiteral (t : Text) : Except Fault Int := readIntWith true t.quoted t

/-! ### Binary64 values -/

/-- Removes underscores between digits; `none` if one stands elsewhere. -/
def withoutUnderscores (previous : Option Char) : List Char → Option (List Char)
  | [] => if previous = some '_' then none else some []
  | c :: cs =>
    if c = '_' then
      if (previous.any (isDigitOf 10)) then withoutUnderscores (some c) cs else none
    else if previous = some '_' ∧ !isDigitOf 10 c then none
    else (withoutUnderscores (some c) cs).map (c :: ·)

/-- How many digits of a number are looked at. The numbers halfway between two binary64 values have
fewer, so of the digits that follow only matters whether they are all zeros. -/
def maxSignificant : Nat := 800

/-- The value nearest to `digits · 10 ^ exponent`. Beyond the range of binary64 values the answer
is known without computing the power. -/
def ofDecimal (negative : Bool) (digits : List Char) (exponent : Int) : Binary64 :=
  let digits := digits.dropWhile (· == '0')
  let magnitude := exponent + digits.length
  let (kept, others) := (digits.take maxSignificant, digits.drop maxSignificant)
  let significant := if others.all (· == '0') then kept else kept ++ ['1']
  let decimal : Binary64.Decimal :=
    ⟨digitsValue 10 significant, magnitude - significant.length⟩
  if digits.isEmpty ∨ magnitude < -330 then Binary64.zero negative
  else if 310 < magnitude then .infinity negative
  else Binary64.ofRatio negative decimal.num decimal.den

/-- The exponent that digits spell. One of more than twenty digits counts as one of twenty, which
lies beyond the length of every text. -/
def exponentValue (digits : List Char) : Nat :=
  let digits := digits.dropWhile (· == '0')
  if 20 < digits.length then Nat.pow 10 20 else digitsValue 10 digits

/-- The exponent after the digits of a number, nothing else following it. -/
def readExponent : List Char → Option Int
  | [] => some 0
  | c :: cs =>
    if c = 'e' ∨ c = 'E' then
      let (negative, ds) := splitSign cs
      if ds.isEmpty || !ds.all (isDigitOf 10) then none
      else some (if negative then -(exponentValue ds : Int) else exponentValue ds)
    else none

/-- Reads digits with an optional point and exponent. -/
def readUnsigned (negative : Bool) (cs : List Char) : Option Binary64 :=
  let whole := cs.takeWhile (isDigitOf 10)
  let rest := cs.dropWhile (isDigitOf 10)
  let (part, rest) := match rest with
    | '.' :: more => (more.takeWhile (isDigitOf 10), more.dropWhile (isDigitOf 10))
    | _ => ([], rest)
  if whole.isEmpty && part.isEmpty then none
  else
    (readExponent rest).map fun e => ofDecimal negative (whole ++ part) (e - part.length)

/-- Reads the whole of a trimmed text. -/
def readFloat? (cs : List Char) : Option Binary64 := do
  let cs ← withoutUnderscores none cs
  let (negative, cs) := splitSign cs
  let word := cs.map Char.toLower
  if word = "inf".toList ∨ word = "infinity".toList then return .infinity negative
  else if word = "nan".toList then return .nan 0
  else readUnsigned negative cs

/-- Reads a binary64 value. `shown` is the text as a diagnostic would show it. -/
def readNumberWith (shown : Text) (t : Text) : Except Fault Binary64 :=
  match readFloat? (trimmed t) with
  | some x => .ok x
  | none => .error (.badNumber shown)

def readNumber (t : Text) : Except Fault Binary64 := readNumberWith t.quoted t

end Zpl.Numeral
