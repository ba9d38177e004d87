import Zpl.Sequence.Sort
import Zpl.Store.Listing

/-!
# Sorting lists

Numbers are ordered by size, texts by the numbers of their code points, byte strings by their bytes,
and rows and lists by the first of their parts in which they differ. A set precedes those that have
more members besides its own. Nothing else is ordered.

Items of which neither precedes the other keep their order. When two items cannot be compared,
sorting ends there, and the list keeps the order that it has reached. While a list is being sorted
it is empty to everyone else.

## Main definitions

* `Store.precedes` — the order of values.
* `Listing.sortBy` — sorts a list.
-/

namespace Zpl

namespace Store

/-- Whether a row of parts precedes another one: by the first two parts that do not agree. -/
def rowPrecedes (agree precedes : Value → Value → Except Fault Bool) :
    List Value → List Value → Except Fault Bool
  | v :: vs, w :: ws => do
    if ← partsAgree agree v w then rowPrecedes agree precedes vs ws else precedes v w
  | [], _ :: _ => .ok true
  | _, [] => .ok false

/-- Whether a value precedes another one. `fuel` bounds values within values. -/
def precedesWithin (s : Store) : (fuel : Nat) → Value → Value → Except Fault Bool
  | 0, _, _ => .error .endlessComparison
  | fuel + 1, v, w =>
    match v.number?, w.number? with
    | some a, some b => .ok (a.lessThan b)
    | _, _ =>
      match v.opened s.directory, w.opened s.directory with
      | .text a, .text b => .ok (a.map CodePoint.code < b.map CodePoint.code)
      | .bytes a, .bytes b => .ok (a < b)
      | .tuple vs, .tuple ws => rowPrecedes s.agree (s.precedesWithin fuel) vs ws
      | .list vs, .list ws => rowPrecedes s.agree (s.precedesWithin fuel) vs ws
      | .object r, .object q =>
        match s.members? r, s.members? q with
        | some vs, some ws =>
          if vs.length < ws.length then vs.allM (s.has q) else .ok false
        | _, _ => .error .wrongType
      | _, _ => .error .wrongType

/-- Whether a value precedes another one. -/
def precedes (s : Store) (v w : Value) : Except Fault Bool := s.precedesWithin s.depth v w

end Store

namespace Listing

/-- The keys of some items. Whoever computes a key finds the list empty; if that fails, the list
gets its items back. -/
def keysOf (key : Value → Action Value) (r : Ref) (vs : List Value) : Action (List Value) := do
  replace r []
  try vs.mapM key
  catch fault =>
    replace r vs
    throw fault

/-- The fault that a list was changed while it was being sorted. -/
def changedMeanwhile : Fault := Incident.refusal "ValueError" "list modified during sort"

/-- Sorts a list by keys, each of which is computed from an item. What was put into the list
meanwhile is lost. -/
def sortBy (key : Value → Action Value) (r : Ref) (reversed : Bool) : Action Unit := do
  let vs ← items r
  let keys ← keysOf key r vs
  let added ← items r
  let s ← get
  let precedes (a b : Value × Value) := s.precedes a.1 b.1
  let (entries, obstacle) := Sequence.sorted precedes reversed (keys.zip vs)
  replace r (entries.map (·.2))
  match obstacle with
  | some fault => throw fault
  | none => if !added.isEmpty then throw changedMeanwhile

end Listing

end Zpl
