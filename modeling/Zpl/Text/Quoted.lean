import Zpl.Text.Printable

/-!
# Quoted text

Diagnostics show a text between quotes, on one line and without anything unprintable. The quotes
are single ones unless the text holds a single quote and no double one. A backslash stands before
the quote in use and before itself; line breaks and tabs have short escapes; whatever else is
unprintable is written by its number, with two, four or eight hexadecimal digits.

Byte strings are quoted by the same rules after a `b`, and only ASCII is shown as itself.

## Main definitions

* `Text.quoted` — a text between quotes.
* `Text.quotedBytes` — a byte string between quotes.
* `Text.escapedByCode` — a code point written by its number.
-/

namespace Zpl

namespace Text

/-- A code point written by its number, as short as its size allows. -/
def escapedByCode (n : Nat) : Text :=
  if n < 0x100 then "\\x" ++ ofHex 2 n
  else if n < 0x10000 then "\\u" ++ ofHex 4 n
  else "\\U" ++ ofHex 8 n

/-- The quote around a text: a single one, unless the text holds single quotes only. -/
def quoteFor (hasSingle hasDouble : Bool) : Char :=
  if hasSingle && !hasDouble then '"' else '\''

/-- The escape shared by texts and byte strings: quotes, backslashes and line layout. -/
def shortEscape? (quote : Char) (n : Nat) : Option Text :=
  if n = quote.toNat ∨ n = 0x5C then some [.scalar '\\', CodePoint.ofCode n]
  else if n = 0x9 then some "\\t"
  else if n = 0xA then some "\\n"
  else if n = 0xD then some "\\r"
  else none

def quotedCodePoint (quote : Char) (c : CodePoint) : Text :=
  match shortEscape? quote c.code with
  | some t => t
  | none => if c.isPrintable then [c] else escapedByCode c.code

/-- A text between quotes, with escapes for what would not show. -/
def quoted (t : Text) : Text :=
  let quote := quoteFor (t.contains (.scalar '\'')) (t.contains (.scalar '"'))
  .scalar quote :: t.flatMap (quotedCodePoint quote) ++ [.scalar quote]

def quotedByte (quote : Char) (b : UInt8) : Text :=
  match shortEscape? quote b.toNat with
  | some t => t
  | none =>
    if 0x20 ≤ b.toNat && b.toNat < 0x7F then [CodePoint.ofCode b.toNat]
    else "\\x" ++ ofHex 2 b.toNat

/-- A byte string between quotes, marked by a `b`. -/
def quotedBytes (bs : List UInt8) : Text :=
  let quote := quoteFor (bs.contains 0x27) (bs.contains 0x22)
  .scalar 'b' :: .scalar quote :: bs.flatMap (quotedByte quote) ++ [.scalar quote]

end Text

end Zpl
