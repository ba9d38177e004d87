import Zpl.Format.Spec

/-!
# Patterns with fields

A pattern is a text with fields in braces; a brace that is meant as such is written twice. A field
names the value that is to be written in its place, and may tell a conversion and a format
specification. The name of a field starts with the name or the number of a value, and goes on with
attributes and items of it.

A pattern is taken apart from front to back, and may turn out wrong only after some of its fields.
So the pieces that were found are kept beside the fault that ends them.

## Main definitions

* `FieldPath` — how a field names its value.
* `FormatPiece` — a piece of a pattern.
* `FormatPattern.read`, `FieldPath.read` — take patterns and names apart.
-/

namespace Zpl

/-- A field of a pattern. -/
structure FormatField where
  name : Text
  conversion : Option CodePoint := none
  /-- The format specification. -/
  spec : Text := []
  /-- Whether there are fields within the specification. -/
  expands : Bool := false
  deriving Repr

/-- A piece of a pattern. -/
inductive FormatPiece where
  | plain (t : Text)
  | field (f : FormatField)
  deriving Repr

/-- The pieces of a pattern, and the fault of what follows them, if it is wrong. -/
structure FormatPattern where
  pieces : List FormatPiece := []
  fault : Option Fault := none
  deriving Repr

namespace FormatField

/-- The name of a field, what ends it, and what follows. Within brackets nothing ends it. -/
def splitName (inBrackets : Bool) : Text → Except Fault (Text × CodePoint × Text)
  | [] => .error (.badFormat "expected '\x7d' before end of string")
  | c :: rest =>
    let goOn (inBrackets : Bool) : Except Fault (Text × CodePoint × Text) := do
      let (name, stop, rest) ← splitName inBrackets rest
      return (c :: name, stop, rest)
    if inBrackets then goOn (c ≠ .scalar ']')
    else if c = .scalar '\x7b' then .error (.badFormat "unexpected '\x7b' in field name")
    else if c = .scalar '\x7d' ∨ c = .scalar ':' ∨ c = .scalar '!' then .ok ([], c, rest)
    else goOn (c = .scalar '[')

/-- A specification up to the brace that ends its field, whether there are braces in it, and what
follows. `depth` tells how many braces are open within it. -/
def splitSpec : (depth : Nat) → Text → Except Fault (Text × Bool × Text)
  | _, [] => .error (.badFormat "unmatched '\x7b' in format spec")
  | depth, c :: rest => do
    if c = .scalar '\x7b' then
      let (spec, _, rest) ← splitSpec (depth + 1) rest
      return (c :: spec, true, rest)
    else if c = .scalar '\x7d' then
      match depth with
      | 0 => return ([], false, rest)
      | depth + 1 =>
        let (spec, nested, rest) ← splitSpec depth rest
        return (c :: spec, nested, rest)
    else
      let (spec, nested, rest) ← splitSpec depth rest
      return (c :: spec, nested, rest)

/-- A field with a specification, and what follows. -/
def readSpec (name : Text) (conversion : Option CodePoint) (t : Text) :
    Except Fault (FormatField × Text) := do
  let (spec, expands, rest) ← splitSpec 0 t
  return ({ name := name, conversion := conversion, spec := spec, expands := expands }, rest)

/-- Reads a field after its opening brace. -/
def read (t : Text) : Except Fault (FormatField × Text) := do
  let (name, stop, rest) ← splitName false t
  if stop = .scalar ':' then readSpec name none rest
  else if stop = .scalar '!' then
    match rest with
    | [] => throw (.badFormat "end of string while looking for conversion specifier")
    | [c] => readSpec name (some c) []
    | c :: d :: rest =>
      if d = .scalar '\x7d' then return ({ name := name, conversion := some c }, rest)
      else if d = .scalar ':' then readSpec name (some c) rest
      else throw (.badFormat "expected ':' after conversion specifier")
  else return ({ name := name }, rest)

end FormatField

namespace FormatPattern

def isBrace (c : CodePoint) : Bool := c = .scalar '\x7b' || c = .scalar '\x7d'

/-- The fault that a brace stands alone. -/
def loneBrace (c : CodePoint) : Fault :=
  .badFormat ("Single '" ++ [c] ++ "' encountered in format string")

/-- What follows some plain text: a brace that is meant as such, or a field. -/
def readBrace (before : Text) : Text → Except Fault (List FormatPiece × Text)
  | [] => .ok ([.plain before], [])
  | [c] => .error (loneBrace c)
  | c :: d :: rest =>
    if d = c then .ok ([.plain (before ++ [c])], rest)
    else if c = .scalar '\x7d' then .error (loneBrace c)
    else do
      let (field, rest) ← FormatField.read (d :: rest)
      return ([.plain before, .field field], rest)

/-- The pieces of a pattern; `fuel` bounds how many there are. -/
def readWithin : (fuel : Nat) → Text → FormatPattern
  | 0, _ => {}
  | fuel + 1, t =>
    if t.isEmpty then {}
    else
      match readBrace (t.takeWhile (!isBrace ·)) (t.dropWhile (!isBrace ·)) with
      | .error fault => { fault := some fault }
      | .ok (pieces, rest) =>
        let others := readWithin fuel rest
        { others with pieces := pieces ++ others.pieces }

/-- The pieces of a pattern. -/
def read (t : Text) : FormatPattern := readWithin (t.length + 1) t

end FormatPattern

/-! ### Names of fields -/

/-- A step from a value to a part of it. -/
inductive FieldStep where
  | attribute (name : Text)
  /-- What stands at a place, or under a name. -/
  | item (index : Value)
  deriving Repr

/-- How a field names its value. -/
structure FieldPath where
  /-- The name or the number of a value. Where it is empty, values are taken in a row. -/
  first : Text
  steps : List FieldStep := []
  /-- The fault of what follows the steps, if it is wrong. -/
  fault : Option Fault := none
  deriving Repr

namespace FieldPath

/-- The number that a name is, if it is one. -/
def number? (name : Text) : Except Fault (Option Nat) := do
  let (n, rest) ← FormatSpec.splitNumber name
  return if rest.isEmpty then n else none

/-- Whether a code point goes on with a name that is not in brackets. -/
def goesOn (c : CodePoint) : Bool := c ≠ .scalar '.' && c ≠ .scalar '['

/-- The fault that a step has no name. -/
def nameless : Fault := .badFormat "Empty attribute in format string"

/-- A step in brackets, after the opening one, and what follows. -/
def readItem (t : Text) : Except Fault (FieldStep × Text) := do
  let name := t.takeWhile (· ≠ .scalar ']')
  match t.drop name.length with
  | [] => throw (.badFormat "Missing ']' in format string")
  | _ :: rest =>
    match ← number? name with
    | some n => return (.item (.int n), rest)
    | none => if name.isEmpty then throw nameless else return (.item (.text name), rest)

/-- A step, and what follows. -/
def readStep (c : CodePoint) (t : Text) : Except Fault (FieldStep × Text) :=
  if c = .scalar '[' then readItem t
  else if c = .scalar '.' then
    match t.takeWhile goesOn with
    | [] => .error nameless
    | name => .ok (.attribute name, t.drop name.length)
  else .error (.badFormat "Only '.' or '[' may follow ']' in format field specifier")

/-- The steps that follow a name, as far as they are right; `fuel` bounds how many there are. -/
def readSteps (first : Text) : (fuel : Nat) → Text → FieldPath
  | 0, _ => { first := first }
  | _ + 1, [] => { first := first }
  | fuel + 1, c :: rest =>
    match readStep c rest with
    | .error fault => { first := first, fault := some fault }
    | .ok (step, rest) =>
      let path := readSteps first fuel rest
      { path with steps := step :: path.steps }

/-- Reads the name of a field. -/
def read (name : Text) : FieldPath :=
  let first := name.takeWhile goesOn
  readSteps first (name.length + 1) (name.drop first.length)

end FieldPath

end Zpl
