import Std.Data.HashMap
import Zpl.Text.Normal.Class
import Zpl.Text.Normal.Composition

/-!
# Normal forms

Texts that look alike may differ in their code points: a letter with a mark is one or two, marks
come in different orders, and characters have special forms. In its normal form a text is taken
apart first, forms are replaced by what they are forms of, the marks of a letter are put in order,
and then everything is composed again that can be.

## Main definitions

* `CodePoint.decomposed` — what a code point consists of.
* `MarkRules.ordered` — a text with its marks in order.
* `MarkRules.composed` — a text with everything composed.
* `Text.normal` — the normal form of a text.

## Main statements

* `MarkRules.ordered_perm` — ordering marks loses nothing.
* `MarkRules.length_absorb_le` — composing never makes a text longer.
-/

namespace Zpl

/-! ### Tables -/

namespace Composition

/-- Characters two by two. -/
def pairs : List Char → List (Char × Char)
  | a :: b :: rest => (a, b) :: pairs rest
  | _ => []

/-- The numbers of letters, marks and composed characters. -/
def triples (rows : List CompositionRow) : List (Nat × Nat × Nat) :=
  rows.flatMap fun row =>
    (pairs row.characters.toList).map fun (base, made) => (base.toNat, row.mark, made.toNat)

/-- A number for a letter and a mark. -/
def key (base mark : Nat) : Nat := base * 0x110000 + mark

/-- What letters and marks make. -/
def made (all : List (Nat × Nat × Nat)) : Std.HashMap Nat Nat :=
  all.foldl (fun known (base, mark, n) => known.insert (key base mark) n) {}

/-- The letter and the mark of each composed character. -/
def parts (all : List (Nat × Nat × Nat)) : Std.HashMap Nat (Nat × Nat) :=
  all.foldl (fun known (base, mark, n) => known.insert n (base, mark)) {}

/-- The letters that make something with a mark, each with such a mark. -/
def bases (all : List (Nat × Nat × Nat)) : Std.HashMap Nat Nat :=
  all.foldl (fun known (base, mark, _) => known.insert base mark) {}

end Composition

namespace Decomposition

/-- Some forms, each with the number of the character that consists of it. -/
def numbered (first : Nat) (forms : List String) : List (Nat × List Nat) :=
  forms.zipIdx.map fun (form, n) => (first + n, form.toList.map Char.toNat)

/-- What characters consist of that are no letters with marks. -/
def forms (singles several : List FormRow) : Std.HashMap Nat (List Nat) :=
  let ones := singles.flatMap fun row =>
    numbered row.first (row.forms.toList.map String.singleton)
  let others := several.flatMap fun row => numbered row.first (row.forms.splitOn "|")
  (ones ++ others).foldl (fun known (n, form) => known.insert n form) {}

end Decomposition

/-! ### Korean syllables -/

namespace Syllable

def first : Nat := 0xAC00

def leads : Nat := 0x1100

def vowels : Nat := 0x1161

/-- The number before that of the first letter that a syllable ends with. -/
def tails : Nat := 0x11A7

/-- The letters of a syllable. -/
def letters? (n : Nat) : Option (List Nat) :=
  if first ≤ n ∧ n < first + 11172 then
    let n := n - first
    some ([leads + n / 588, vowels + n / 28 % 21] ++ if n % 28 = 0 then [] else [tails + n % 28])
  else none

/-- The syllable that a text begins with in letters, and how many they are. -/
def front? : Text → Option (CodePoint × Nat)
  | c :: d :: rest =>
    if leads ≤ c.code ∧ c.code < leads + 19 ∧ vowels ≤ d.code ∧ d.code < vowels + 21 then
      let n := first + ((c.code - leads) * 21 + (d.code - vowels)) * 28
      match rest with
      | e :: _ =>
        if tails < e.code ∧ e.code < tails + 28 then
          some (CodePoint.ofCode (n + (e.code - tails)), 3)
        else some (CodePoint.ofCode n, 2)
      | [] => some (CodePoint.ofCode n, 2)
    else none
  | _ => none

end Syllable

/-! ### Taking apart -/

namespace CodePoint

/-- What a code consists of; `depth` bounds how many marks are taken off one after the other. -/
def partsOf : (depth : Nat) → Nat → List Nat
  | 0, n => [n]
  | depth + 1, n =>
    let forms := Decomposition.forms Decomposition.singles Decomposition.several
    match Syllable.letters? n, forms[n]? with
    | some letters, _ => letters
    | none, some form => form
    | none, none =>
      match (Composition.parts (Composition.triples Composition.rows))[n]? with
      | some (base, mark) => partsOf depth base ++ [mark]
      | none => [n]

/-- No letter has more marks. -/
def mostMarks : Nat := 4

/-- What a code point consists of. -/
def decomposed (c : CodePoint) : Text :=
  if c.code < 0x80 then [c] else (partsOf mostMarks c.code).map ofCode

/-- Whether a code point makes something with any other. -/
def isBase (c : CodePoint) : Bool :=
  (Composition.bases
    (Composition.triples Composition.rows ++ Composition.lateRows)).contains c.code

/-- What two code points make. -/
def madeWith? (c d : CodePoint) : Option CodePoint :=
  ((Composition.made (Composition.triples Composition.rows ++ Composition.lateRows))[
    Composition.key c.code d.code]?).map ofCode

end CodePoint

/-! ### Ordering and composing -/

/-- What is known of marks. -/
structure MarkRules where
  /-- The class of a mark; zero if a code point is none. -/
  classOf : CodePoint → Nat
  /-- Whether a letter makes something with any mark. -/
  isBase : CodePoint → Bool
  /-- What a letter and a mark make. -/
  made? : CodePoint → CodePoint → Option CodePoint

namespace MarkRules

variable (m : MarkRules)

/-- Puts a mark behind the marks in front that have smaller classes. -/
def insert (mark : CodePoint) : Text → Text
  | [] => [mark]
  | c :: rest =>
    if m.classOf c ≠ 0 ∧ m.classOf c < m.classOf mark then c :: insert mark rest
    else mark :: c :: rest

theorem insert_perm (mark : CodePoint) (t : Text) : (m.insert mark t).Perm (mark :: t) := by
  induction t with
  | nil => exact .refl _
  | cons c rest ih =>
    unfold insert
    split
    · exact (ih.cons c).trans (.swap mark c rest)
    · exact .refl _

/-- A text with the marks of each letter in the order of their classes. -/
def ordered : Text → Text
  | [] => []
  | c :: rest => if m.classOf c = 0 then c :: ordered rest else m.insert c (ordered rest)

/-- Ordering marks loses nothing. -/
theorem ordered_perm (t : Text) : (m.ordered t).Perm t := by
  induction t with
  | nil => exact .nil
  | cons c rest ih =>
    unfold ordered
    split
    · exact ih.cons c
    · exact (m.insert_perm c _).trans (ih.cons c)

/-- What is composed and what is left, with a code point left in front. -/
def leaving (c : CodePoint) (found : CodePoint × Text) : CodePoint × Text :=
  (found.1, c :: found.2)

/-- A letter with the marks after it that it takes up, and what is left. Between the letter and a
mark there may only be marks of smaller classes; `last` is the class of the last one of them. -/
def absorb (base : CodePoint) (last : Nat) : Text → CodePoint × Text
  | [] => (base, [])
  | c :: rest =>
    if last ≠ 0 ∧ m.classOf c = 0 then (base, c :: rest)
    else if last ≠ 0 ∧ m.classOf c ≤ last then leaving c (absorb base last rest)
    else
      match m.made? base c with
      | some made => absorb made last rest
      | none =>
        if m.classOf c = 0 then (base, c :: rest)
        else leaving c (absorb base (m.classOf c) rest)

/-- Composing never makes a text longer. -/
theorem length_absorb_le (base : CodePoint) (last : Nat) (t : Text) :
    (m.absorb base last t).2.length ≤ t.length := by
  induction t generalizing base last with
  | nil => exact Nat.le_refl _
  | cons c rest ih =>
    unfold absorb
    split
    · exact Nat.le_refl _
    split
    · exact Nat.succ_le_succ (ih base last)
    split
    · exact Nat.le_succ_of_le (ih _ last)
    split
    · exact Nat.le_refl _
    · exact Nat.succ_le_succ (ih base _)

/-- A text with everything composed that can be. -/
def composed : Text → Text
  | [] => []
  | c :: rest =>
    match Syllable.front? (c :: rest) with
    | some (syllable, length) => syllable :: composed (rest.drop (length - 1))
    | none =>
      if m.isBase c then (m.absorb c 0 rest).1 :: composed (m.absorb c 0 rest).2
      else c :: composed rest
termination_by t => t.length
decreasing_by
  · simp only [List.length_drop, List.length_cons]
    omega
  · exact Nat.lt_succ_of_le (m.length_absorb_le c 0 rest)
  · exact Nat.lt_succ_self _

end MarkRules

/-- The rules of the standard. -/
def standardMarks : MarkRules where
  classOf := CodePoint.markClass
  isBase := CodePoint.isBase
  made? := CodePoint.madeWith?

/-- The normal form of a text. -/
def Text.normal (t : Text) : Text :=
  standardMarks.composed (standardMarks.ordered (t.flatMap CodePoint.decomposed))

end Zpl
