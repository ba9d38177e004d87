import Zpl.Format.Pattern
import Zpl.Format.Real
import Zpl.Store.Element
import Zpl.Store.Spelling

/-!
# Formatting values

Texts and numbers are written by format specifications of their own; any other value is printed
plainly, and takes no specification. The fields of a pattern are filled in from front to back, and
what a field reaches may have been changed by the one before.

## Main definitions

* `Action.formatted` — a value written by a specification.
* `FormatSupply` — the values that the fields of a pattern name.
* `FormatSupply.fill` — a pattern with its fields filled in.
-/

namespace Zpl

namespace Action

/-- A text in ASCII, with other code points written by their numbers. -/
def asciiForm (t : Text) : Text :=
  t.flatMap fun c => if c.code < 0x80 then [c] else Text.escapedByCode c.code

/-- The fault that there is no such conversion. Only ASCII shows as it is. -/
def unknownConversion (c : CodePoint) : Fault :=
  let shown := if 32 < c.code ∧ c.code < 127 then [c] else "\\x" ++ Text.ofHex 0 c.code
  .badFormat ("Unknown conversion specifier " ++ shown)

/-- A value as a text, by the mark of a conversion. -/
def converted (v : Value) (conversion : CodePoint) : Action Text :=
  match conversion with
  | .scalar 's' => shown v
  | .scalar 'r' => quoted v
  | .scalar 'a' => return asciiForm (← quoted v)
  | c => throw (unknownConversion c)

/-- A value written by a specification. -/
def formatted (v : Value) (spec : Text) : Action Text := do
  if spec.isEmpty then shown v
  else
    let capacity ← capacity
    match v with
    | .text t => t.formatted capacity spec
    | .int n => Integer.formatted capacity "int" n spec
    | .bool b => Integer.formatted capacity "bool" (if b then 1 else 0) spec
    | .float x => x.formatted capacity spec
    | v =>
      throw (.unsuited (Text.ofString ("unsupported format string passed to "
        ++ v.kindName (← directory) ++ ".__format__")))

end Action

/-! ### Fields -/

/-- How the fields of a pattern tell which values of a row they mean: in order or by number, but not
in both ways. -/
inductive FieldNumbering where
  | undecided
  | inOrder (next : Nat)
  | byNumber
  deriving Repr

namespace FieldNumbering

/-- The number of a field without a name. -/
def next : FieldNumbering → Except Fault (Nat × FieldNumbering)
  | .undecided => .ok (0, .inOrder 1)
  | .inOrder n => .ok (n, .inOrder (n + 1))
  | .byNumber =>
    .error (.badFormat
      "cannot switch from manual field specification to automatic field numbering")

/-- The numbering after a field that tells a number. -/
def told : FieldNumbering → Except Fault FieldNumbering
  | .inOrder _ =>
    .error (.badFormat
      "cannot switch from automatic field numbering to manual field specification")
  | _ => .ok .byNumber

/-- The number of a field, if it has one. -/
def number? (numbering : FieldNumbering) (first : Text) :
    Except Fault (Option Nat × FieldNumbering) := do
  match ← FieldPath.number? first with
  | some n => return (some n, ← numbering.told)
  | none =>
    if first.isEmpty then
      let (n, numbering) ← numbering.next
      return (some n, numbering)
    else return (none, numbering)

end FieldNumbering

/-- The values that the fields of a pattern name. -/
structure FormatSupply where
  /-- The values in a row, if there can be any. -/
  inRow : Option (List Value)
  /-- What names are looked up in. -/
  named : Value

namespace FormatSupply

open Zpl.Action

/-- The value that a field starts from. -/
def start (supply : FormatSupply) (first : Text) (number : Option Nat) : Action Value :=
  match number, supply.inRow with
  | none, _ => element supply.named (.text first)
  | some _, none => throw (.badFormat "Format string contains positional fields")
  | some n, some values =>
    match values[n]? with
    | some v => pure v
    | none =>
      throw (Incident.refusal "IndexError" ("Replacement index " ++ toString n
        ++ " out of range for positional args tuple"))

/-- A step from a value to a part of it. -/
def step (v : Value) : FieldStep → Action Value
  | .attribute name => fetch v name.toString
  | .item index => do made (← element v index)

/-- The value that a field names, and the numbering after it. -/
def valueOf (supply : FormatSupply) (numbering : FieldNumbering) (name : Text) :
    Action (Value × FieldNumbering) := do
  let path := FieldPath.read name
  let (number, numbering) ← numbering.number? path.first
  let v ← supply.start path.first number
  let v ← path.steps.foldlM step v
  match path.fault with
  | some fault => throw fault
  | none => return (v, numbering)

/-- The text of a field. `expand` fills in the fields within its specification. -/
def fieldText (supply : FormatSupply)
    (expand : FieldNumbering → Text → Action (Text × FieldNumbering))
    (numbering : FieldNumbering) (f : FormatField) : Action (Text × FieldNumbering) := do
  let (v, numbering) ← supply.valueOf numbering f.name
  let v ←
    match f.conversion with
    | none => pure v
    | some c => do pure (.text (← converted v c))
  let (spec, numbering) ←
    if f.expands then expand numbering f.spec else pure (f.spec, numbering)
  return (← formatted v spec, numbering)

/-- The text of the pieces of a pattern. -/
def piecesText (field : FieldNumbering → FormatField → Action (Text × FieldNumbering)) :
    FieldNumbering → List FormatPiece → Action (Text × FieldNumbering)
  | numbering, [] => return ([], numbering)
  | numbering, .plain t :: pieces => do
    let (others, numbering) ← piecesText field numbering pieces
    return (t ++ others, numbering)
  | numbering, .field f :: pieces => do
    let (t, numbering) ← field numbering f
    let (others, numbering) ← piecesText field numbering pieces
    return (t ++ others, numbering)

/-- A pattern with its fields filled in. Specifications may hold fields to a certain depth. -/
def fillWithin (supply : FormatSupply) :
    (depth : Nat) → FieldNumbering → Text → Action (Text × FieldNumbering)
  | 0, _, _ => throw (.badFormat "Max string recursion exceeded")
  | depth + 1, numbering, t => do
    let pattern := FormatPattern.read t
    let (written, numbering) ←
      piecesText (supply.fieldText (supply.fillWithin depth)) numbering pattern.pieces
    match pattern.fault with
    | some fault => throw fault
    | none => return (written, numbering)

/-- A pattern with its fields filled in. -/
def fill (supply : FormatSupply) (t : Text) : Action Text := do
  let (written, _) ← supply.fillWithin 2 .undecided t
  return written

end FormatSupply

end Zpl
