/-!
# Text as sequences of code points

A document may hold a code point that no encoding form can carry: half of a surrogate pair that
stands alone. `Char` rules those out, so text here is a list of `CodePoint`s, and a `String`
literal is read as the text of its characters.

## Main definitions

* `CodePoint` — a Unicode scalar value, or a lone surrogate.
* `Text` — a list of code points; its length is the length of the text.
* `Text.join`, `Text.repeated` — building text from parts.
-/

namespace Zpl

/-- A code point: a scalar value, or one of the 2048 surrogates standing alone. -/
inductive CodePoint where
  | scalar (c : Char)
  | surrogate (n : Fin 0x800)
  deriving DecidableEq, Repr

namespace CodePoint

/-- The number of a code point. -/
def code : CodePoint → Nat
  | .scalar c => c.toNat
  | .surrogate n => 0xD800 + n.val

/-- The code point with a given number; numbers past the last plane have none. -/
def ofCode? (n : Nat) : Option CodePoint :=
  if h : n.isValidChar then
    some (.scalar (Char.ofNatAux n h))
  else if h : 0xD800 ≤ n ∧ n < 0xE000 then
    some (.surrogate ⟨n - 0xD800, by omega⟩)
  else
    none

/-- The code point with a given number, and the replacement character where there is none. -/
def ofCode (n : Nat) : CodePoint := (ofCode? n).getD (.scalar '\uFFFD')

def isSurrogate : CodePoint → Bool
  | .scalar _ => false
  | .surrogate _ => true

end CodePoint

/-- A text: its code points in order. -/
abbrev Text := List CodePoint

namespace Text

/-- The text of a list of characters. -/
def ofChars (cs : List Char) : Text := cs.map .scalar

/-- The text that a string spells. -/
def ofString (s : String) : Text := ofChars s.toList

instance : Coe String Text := ⟨ofString⟩

/-- The string that spells a text; a lone surrogate, which no string can hold, is replaced. -/
def toString (t : Text) : String :=
  .ofList (t.map fun
    | .scalar c => c
    | .surrogate _ => '\uFFFD')

/-- The parts in order with `sep` between neighbours. -/
def join (sep : Text) (parts : List Text) : Text := List.intercalate sep parts

/-- `n` copies of a text in a row. -/
def repeated (n : Nat) (t : Text) : Text := (List.replicate n t).flatten

/-- The decimal text of a natural number. -/
def ofNat (n : Nat) : Text := ofChars (Nat.toDigits 10 n)

/-- The decimal text of an integer: a minus sign in front when it is negative. -/
def ofInt (n : Int) : Text :=
  if n < 0 then .scalar '-' :: ofNat n.natAbs else ofNat n.natAbs

/-- The lower-case digits of a natural number in base sixteen, padded with zeros to `width`. -/
def ofHex (width n : Nat) : Text :=
  let digits := Nat.toDigits 16 n
  ofChars (List.replicate (width - digits.length) '0' ++ digits)

@[simp] theorem join_singleton (sep t : Text) : join sep [t] = t := List.intercalate_singleton

@[simp] theorem join_cons_cons (sep t u : Text) (ts : List Text) :
    join sep (t :: u :: ts) = t ++ sep ++ join sep (u :: ts) := List.intercalate_cons_cons

@[simp] theorem ofString_empty : ofString "" = [] := by simp [ofString, ofChars]

@[simp] theorem length_ofChars (cs : List Char) : (ofChars cs).length = cs.length := by
  simp [ofChars]

@[simp] theorem ofChars_append (a b : List Char) : ofChars (a ++ b) = ofChars a ++ ofChars b := by
  simp [ofChars]

@[simp] theorem length_repeated (n : Nat) (t : Text) : (repeated n t).length = n * t.length := by
  simp [repeated]

theorem ofChars_injective {a b : List Char} (h : ofChars a = ofChars b) : a = b :=
  (List.map_inj_right fun _ _ e => CodePoint.scalar.inj e).1 h

end Text

end Zpl
