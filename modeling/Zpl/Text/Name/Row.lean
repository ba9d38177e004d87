import Std.Data.HashMap
import Zpl.Text.Basic

/-!
# Rows of names

Neighbours often have names that begin with the same words. In a row of names each one tells by a
digit how many words it shares with the one before, and then what comes after them. A word ends with
a blank or with a hyphen.

## Main definitions

* `NameRow` — the names of characters that follow each other.
* `NameRow.spelled` — the names that some rows tell.

## Main statements

* `NameRow.flatten_words` — words make up what they are words of.
-/

namespace Zpl

/-- The names of characters that follow each other, with bars between them. -/
structure NameRow where
  /-- The number of the first character. -/
  first : Nat
  names : List String

namespace NameRow

/-- Puts a character before some words. -/
def grow (c : Char) : List (List Char) → List (List Char)
  | [] => [[c]]
  | word :: words => (c :: word) :: words

/-- The words of a name, each with the blank or the hyphen after it. -/
def words : List Char → List (List Char)
  | [] => []
  | c :: rest => if c = ' ' ∨ c = '-' then [c] :: words rest else grow c (words rest)

theorem flatten_grow (c : Char) (ws : List (List Char)) :
    (grow c ws).flatten = c :: ws.flatten := by
  cases ws <;> rfl

/-- Words make up what they are words of. -/
theorem flatten_words (cs : List Char) : (words cs).flatten = cs := by
  induction cs with
  | nil => rfl
  | cons c rest ih =>
    unfold words
    split
    · simp [ih]
    · rw [flatten_grow, ih]

/-- The words of a name, given those of the name before it. -/
def entryWords (before : List (List Char)) : List Char → List (List Char)
  | [] => []
  | digit :: rest => before.take (digit.toNat - '0'.toNat) ++ words rest

/-- What stands between bars. -/
def entries (row : NameRow) : List String := row.names.flatMap fun part => part.splitOn "|"

/-- Names with those of a row, and the words of the last one. -/
def spell (row : NameRow) (known : List (Nat × String) × List (List Char)) :
    List (Nat × String) × List (List Char) :=
  row.entries.zipIdx.foldl
    (fun (known, before) (entry, n) =>
      let words := entryWords before entry.toList
      ((row.first + n, String.ofList words.flatten) :: known, words))
    known

/-- The numbers and names of the characters of some rows. -/
def spelled (rows : List NameRow) : List (Nat × String) :=
  (rows.foldl (fun known row => row.spell known) ([], [])).1

/-- The names of some rows, by the numbers of the characters. -/
def namesOf (tables : List (List NameRow)) : Std.HashMap Nat String :=
  (tables.flatMap spelled).foldl (fun known (n, name) => known.insert n name) {}

/-- The numbers of the characters of some rows, by the names. -/
def numbersOf (tables : List (List NameRow)) : Std.HashMap String Nat :=
  (tables.flatMap spelled).foldl (fun known (n, name) => known.insert name n) {}

/-- The numbers and names of the characters of some rows, each of which has several. -/
def severalNames (rows : List NameRow) : List (Nat × String) :=
  rows.flatMap fun row =>
    row.names.zipIdx.flatMap fun (names, n) =>
      (names.splitOn "|").map fun name => (row.first + n, name)

end NameRow

end Zpl
