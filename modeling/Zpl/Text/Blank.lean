import Zpl.Text.CodeClass

/-!
# Blank code points and stripping

The blank code points are the separators and the control characters that end or indent a line,
over all of Unicode. Stripping drops them from both ends of a text.

## Main definitions

* `CodePoint.isBlank` — the blank code points.
* `Text.strip` — a text without the blanks at its ends.
-/

namespace Zpl

/-- White space: tabs, line ends, the information separators, and every kind of space. -/
def blankClass : CodeClass :=
  ⟨[0x9, 0xE, 0x1C, 0x21, 0x85, 0x86, 0xA0, 0xA1, 0x1680, 0x1681, 0x2000, 0x200B, 0x2028, 0x202A,
    0x202F, 0x2030, 0x205F, 0x2060, 0x3000, 0x3001]⟩

def CodePoint.isBlank (c : CodePoint) : Bool := blankClass.contains c

namespace Text

/-- A text without the leading part whose code points all satisfy `p`, and without the trailing
one. -/
def stripWhile (p : CodePoint → Bool) (t : Text) : Text :=
  (((t.dropWhile p).reverse).dropWhile p).reverse

/-- A text without the blanks at its two ends. -/
def strip (t : Text) : Text := stripWhile CodePoint.isBlank t

@[simp] theorem stripWhile_nil (p : CodePoint → Bool) : stripWhile p [] = [] := rfl

@[simp] theorem strip_nil : strip [] = [] := rfl

end Text

end Zpl
