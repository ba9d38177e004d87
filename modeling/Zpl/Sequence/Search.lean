/-!
# Searching sequences

A pattern occurs in a sequence where the sequence goes on with it. Occurrences are looked for from
the front or from the back, and those that are counted or replaced do not overlap. The empty pattern
occurs in front of every item and at the end.

## Main definitions

* `Sequence.cut?`, `cutLast?` — what lies before and after an occurrence.
* `Sequence.count`, `replace` — all occurrences.
* `Sequence.Stretch` — the part of a sequence that is looked at.

## Main statements

* `Sequence.cut?_eq_some` — an occurrence lies between what is before and what is after it.
-/

namespace Zpl.Sequence

variable {α : Type} [DecidableEq α]

/-- What lies before and after the first occurrence of a pattern. -/
def cut? (pattern : List α) : List α → Option (List α × List α)
  | [] => if pattern = [] then some ([], []) else none
  | a :: rest =>
    if pattern.isPrefixOf (a :: rest) then some ([], (a :: rest).drop pattern.length)
    else (cut? pattern rest).map fun (before, after) => (a :: before, after)

/-- What lies before and after the last occurrence of a pattern. -/
def cutLast? (pattern s : List α) : Option (List α × List α) :=
  (cut? pattern.reverse s.reverse).map fun (after, before) => (before.reverse, after.reverse)

/-- The parts of a sequence between occurrences of a pattern, at most `limit` of which are looked
for. -/
def splitAt (pattern : List α) : (limit : Nat) → List α → List (List α)
  | 0, s => [s]
  | limit + 1, s =>
    match cut? pattern s with
    | none => [s]
    | some (before, after) => before :: splitAt pattern limit after

/-- The parts of a sequence between occurrences of a pattern, looked for from the back. -/
def splitAtLast (pattern : List α) (limit : Nat) (s : List α) : List (List α) :=
  ((splitAt pattern.reverse limit s.reverse).map List.reverse).reverse

/-- How often a pattern occurs. -/
def count (pattern s : List α) : Nat :=
  if pattern = [] then s.length + 1 else (splitAt pattern s.length s).length - 1

/-- A sequence with another one put in front of its first items, and at the end if that is within
the limit. -/
def interleave (new : List α) : (limit : Nat) → List α → List α
  | 0, s => s
  | _ + 1, [] => new
  | limit + 1, a :: rest => new ++ a :: interleave new limit rest

/-- A sequence with the first occurrences of a pattern replaced. -/
def replace (pattern new : List α) (limit : Nat) (s : List α) : List α :=
  if pattern = [] then interleave new limit s
  else List.intercalate new (splitAt pattern limit s)

/-! ### Stretches -/

/-- The part of a sequence between two places. Places are counted from the end when they are
negative; the start may lie beyond the end, and then there is no such part. -/
structure Stretch where
  start : Option Int := none
  stop : Option Int := none

namespace Stretch

/-- A place counted from the end if it is negative, but not before the front. -/
def fromFront (length : Nat) (n : Int) : Nat := (if n < 0 then n + length else n).toNat

/-- The place where a stretch starts, and what it spans, if there is such a part. -/
def of? (e : Stretch) (s : List α) : Option (Nat × List α) :=
  let start := fromFront s.length (e.start.getD 0)
  let stop := min (fromFront s.length (e.stop.getD s.length)) s.length
  if start ≤ stop then some (start, (s.take stop).drop start) else none

end Stretch

/-- The place of the first occurrence of a pattern within a stretch. -/
def find? (pattern : List α) (e : Stretch) (s : List α) : Option Nat := do
  let (start, part) ← e.of? s
  let (before, _) ← cut? pattern part
  return start + before.length

/-- The place of the last occurrence of a pattern within a stretch. -/
def findLast? (pattern : List α) (e : Stretch) (s : List α) : Option Nat := do
  let (start, part) ← e.of? s
  let (before, _) ← cutLast? pattern part
  return start + before.length

/-- How often a pattern occurs within a stretch. -/
def countWithin (pattern : List α) (e : Stretch) (s : List α) : Nat :=
  match e.of? s with
  | some (_, part) => count pattern part
  | none => 0

/-- Whether a stretch begins with a pattern. -/
def startsWith (pattern : List α) (e : Stretch) (s : List α) : Bool :=
  match e.of? s with
  | some (_, part) => pattern.isPrefixOf part
  | none => false

/-- Whether a stretch ends with a pattern. -/
def endsWith (pattern : List α) (e : Stretch) (s : List α) : Bool :=
  match e.of? s with
  | some (_, part) => pattern.isSuffixOf part
  | none => false

/-- An occurrence lies between what is before it and what is after it. -/
theorem cut?_eq_some {pattern s before after : List α} (h : cut? pattern s = some (before, after)) :
    s = before ++ pattern ++ after := by
  induction s generalizing before with
  | nil =>
    by_cases hp : pattern = []
    · simp [cut?, hp] at h
      simp [h, hp]
    · simp [cut?, hp] at h
  | cons a rest ih =>
    by_cases hp : pattern.isPrefixOf (a :: rest)
    · simp only [cut?, hp, if_true, Option.some.injEq, Prod.mk.injEq] at h
      obtain ⟨rfl, rfl⟩ := h
      exact (List.prefix_iff_eq_append.1 (List.isPrefixOf_iff_prefix.1 hp)).symm
    · simp only [cut?, hp, Bool.false_eq_true, if_false, Option.map_eq_some_iff] at h
      obtain ⟨⟨first, _⟩, found, e⟩ := h
      simp only [Prod.mk.injEq] at e
      obtain ⟨rfl, rfl⟩ := e
      rw [ih found]
      simp

end Zpl.Sequence
