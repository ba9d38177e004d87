import Zpl.Store.Format
import Zpl.Store.Method.Coding
import Zpl.Store.Method.Sequence
import Zpl.Store.Method.Translation
import Zpl.Text.Casing
import Zpl.Text.Identifier
import Zpl.Text.Letter
import Zpl.Text.Numeric

/-!
# Methods of texts

Besides the methods of sequences, texts have some that change case, some that ask what kind of code
points there are, some that translate, some that fill in the fields of a pattern, and one that
encodes.

## Main definitions

* `Text.methods` — the methods of texts.
-/

namespace Zpl.Text

/-- Where lines of text end. -/
def lineEnds : Sequence.LineEnds CodePoint where
  ends c := [0xA, 0xB, 0xC, 0xD, 0x1C, 0x1D, 0x1E, 0x85, 0x2028, 0x2029].contains c.code
  isPair c d := c.code == 0xD && d.code == 0xA

/-- Texts as sequences of code points. -/
def sort : SequenceSort CodePoint where
  kind := "str"
  part := "str instance"
  wrap := .text
  unwrap?
    | .text t => some t
    | _ => none
  pattern
    | .text t => .ok t
    | v => .error (.unsuited (Text.ofString ("must be str, not " ++ v.kindName .empty)))
  absent := Incident.refusal "ValueError" "substring not found"
  isBlank := CodePoint.isBlank
  lineEnds := lineEnds
  ofChar := .scalar

/-- A method that changes a text. -/
def changing (name : String) (f : Text → Text) : Method Text :=
  SequenceSort.plain name fun t => .text (f t)

def caseMethods : List (Method Text) :=
  [changing "upper" upper, changing "lower" lower, changing "title" titled,
    changing "capitalize" capitalized, changing "swapcase" swapped, changing "casefold" folded]

/-- A method that asks something about a text. -/
def asking (name : String) (f : Text → Bool) : Method Text :=
  SequenceSort.plain name fun t => .bool (f t)

/-- A method that asks something about each code point, and is answered in the negative where there
is none. -/
def askingAll (name : String) (p : CodePoint → Bool) : Method Text :=
  asking name fun t => !t.isEmpty && t.all p

def classMethods : List (Method Text) :=
  [askingAll "isalpha" CodePoint.isLetter,
    askingAll "isalnum" fun c => c.isLetter || c.isNumeric,
    askingAll "isdecimal" CodePoint.isDecimal, askingAll "isdigit" CodePoint.isDigit,
    askingAll "isnumeric" CodePoint.isNumeric, askingAll "isspace" CodePoint.isBlank,
    asking "isascii" fun t => t.all fun c => c.code < 0x80,
    asking "isprintable" fun t => t.all CodePoint.isPrintable,
    asking "isupper" isUpper, asking "islower" isLower, asking "istitle" isTitle,
    asking "isidentifier" isIdentifier]

def patternMethods : List (Method Text) :=
  [{ name := "format"
     signature := { gathers := true, gathersNamed := true }
     run := fun t vs => do
      match vs with
      | [.list values, named] =>
        return .text (← FormatSupply.fill { inRow := some values, named := named } t)
      | _ => throw .wrongType },
    .asking "format_map" (.row 1) fun t named =>
      return .text (← FormatSupply.fill { inRow := none, named := named } t)]

/-- The methods of texts. -/
def methods : List (Method Text) :=
  sort.methods ++ caseMethods ++ classMethods ++ patternMethods ++ Translation.methods
    ++ [SequenceSort.computing "encode" Coding.signature fun t vs =>
      match vs with
      | [name, policy] => Coding.encoded t name policy
      | _ => .error .wrongType]

end Zpl.Text
