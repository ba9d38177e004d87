import Zpl.Value.Convert

/-!
# Tokens

The choices that an attribute offers are written into instructions as short tokens, and a caller
names a choice by its token, in either case and with blanks around it.

## Main definitions

* `Tokened` — a type of choices with their tokens.
* `choice?` — the choice that a token names.
* `Color`, `Slant`, `Orientation`, `BarcodeMode`, `Alignment` — the choices.
* `TextPlacement` — where a barcode shows its text; it goes by number.
-/

namespace Zpl

/-- A type of choices, each with a token of its own. -/
class Tokened (α : Type) where
  all : List α
  token : α → Text

export Tokened (token)

/-- The choice that a token names. -/
def choice? {α : Type} [Tokened α] (t : Text) : Option α :=
  Tokened.all.find? fun a => token a == t

/-- Line colour. -/
inductive Color where
  | black
  | white
  deriving DecidableEq, Repr

instance : Tokened Color where
  all := [.black, .white]
  token
    | .black => "B"
    | .white => "W"

/-- The way a diagonal line leans. -/
inductive Slant where
  | right
  | left
  deriving DecidableEq, Repr

instance : Tokened Slant where
  all := [.right, .left]
  token
    | .right => "R"
    | .left => "L"

/-- Field orientation, in quarter turns clockwise. -/
inductive Orientation where
  | normal
  | rotated
  | inverted
  | bottomUp
  deriving DecidableEq, Repr

instance : Tokened Orientation where
  all := [.normal, .rotated, .inverted, .bottomUp]
  token
    | .normal => "N"
    | .rotated => "R"
    | .inverted => "I"
    | .bottomUp => "B"

/-- How a barcode encodes its data. -/
inductive BarcodeMode where
  | plain
  /-- Nineteen digits with a function character. -/
  | uccCase
  /-- The printer picks the subsets. -/
  | automatic
  /-- Chained application identifiers. -/
  | new
  deriving DecidableEq, Repr

instance : Tokened BarcodeMode where
  all := [.plain, .uccCase, .automatic, .new]
  token
    | .plain => "N"
    | .uccCase => "U"
    | .automatic => "A"
    | .new => "D"

/-- The positions that a component can be aligned to. -/
inductive Alignment where
  | left
  | right
  | center
  | justified
  | bottom
  deriving DecidableEq, Repr

instance : Tokened Alignment where
  all := [.left, .right, .center, .justified, .bottom]
  token
    | .left => "L"
    | .right => "R"
    | .center => "C"
    | .justified => "J"
    | .bottom => "B"

/-- Where the text of a barcode is printed. -/
inductive TextPlacement where
  | hidden
  | above
  /-- Outside the bars, so that the barcode takes more room downwards. -/
  | below
  deriving DecidableEq, Repr

namespace TextPlacement

def number : TextPlacement → Int
  | .hidden => 0
  | .above => 1
  | .below => 2

def all : List TextPlacement := [.hidden, .above, .below]

/-- The placement whose number a value equals. -/
def ofValue? (v : Value) : Option TextPlacement := all.find? fun p => v.same (.int p.number)

/-- The two flags of the instruction: whether the text is printed, and whether above. -/
def flags : TextPlacement → Text
  | .hidden => "N,N"
  | .above => "Y,Y"
  | .below => "Y,N"

end TextPlacement

/-- A choice is what its token names. -/
theorem choice?_token_color (c : Color) : choice? (token c) = some c := by
  cases c <;> decide

theorem choice?_token_slant (s : Slant) : choice? (token s) = some s := by
  cases s <;> decide

theorem choice?_token_orientation (o : Orientation) : choice? (token o) = some o := by
  cases o <;> decide

theorem choice?_token_mode (m : BarcodeMode) : choice? (token m) = some m := by
  cases m <;> decide

theorem choice?_token_alignment (a : Alignment) : choice? (token a) = some a := by
  cases a <;> decide

/-- A choice that a token names has that token. -/
theorem token_of_choice? {α : Type} [Tokened α] {t : Text} {a : α} (h : choice? t = some a) :
    token a = t := by
  have := List.find?_some h
  simpa using this

end Zpl
