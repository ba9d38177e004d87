import Zpl.Decimal
import Zpl.Text.Quoted

/-!
# Values as text

A value is printed into an instruction as plain text, and into a diagnostic in quoted form. The
two agree except on texts, which print as themselves and are quoted between quotes. What an object
prints as is its own business, and printing one may change others: the text of a label is what its
components say once they are generated anew. So printing takes a `Scribe`, who knows how objects
are printed, and runs in the scribe's monad.

## Main definitions

* `ObjectFacts`, `Directory` — what is known about objects without printing them.
* `Scribe` — how objects are printed.
* `Value.shown` — a value printed into an instruction.
* `Value.quoted` — a value in a diagnostic.
-/

namespace Zpl

/-! ### Objects -/

/-- What is known about an object without printing it. -/
structure ObjectFacts where
  /-- The name of its kind in diagnostics. -/
  kind : String := "object"
  /-- What it hands out one by one, if it does. -/
  parts : Option (List Value) := none
  /-- The row, list or record that it is, if it is one. -/
  content : Option Value := none

/-- The facts about each object of a store. -/
abbrev Directory := Ref → ObjectFacts

/-- The directory of a store without objects. -/
def Directory.empty : Directory := fun _ => {}

/-- How objects are printed, plainly and in diagnostics. -/
structure Scribe (m : Type → Type) where
  facts : Directory
  shown : Ref → m Text
  quoted : Ref → m Text

/-- A scribe for values in which no object occurs. -/
def Scribe.plain : Scribe (Except Fault) where
  facts := .empty
  shown _ := .error .missingAttribute
  quoted _ := .error .missingAttribute

namespace Value

/-- The name of the kind of a value in diagnostics. -/
def kindName (d : Directory) : Value → String
  | .none => "NoneType"
  | .bool _ => "bool"
  | .int _ => "int"
  | .float _ => "float"
  | .text _ => "str"
  | .bytes _ => "bytes"
  | .tuple _ => "tuple"
  | .list _ => "list"
  | .record .. => "dict"
  | .object r => (d r).kind

/-! ### Printing -/

/-- Items as a row in round brackets. A row of one item has a comma of its own. -/
def rowText : List Text → Text
  | [item] => "(" ++ item ++ ",)"
  | items => "(" ++ Text.join ", " items ++ ")"

/-- Items as a list in square brackets. -/
def listText (items : List Text) : Text := "[" ++ Text.join ", " items ++ "]"

/-- Entries as a record in braces. -/
def recordText (entries : List Text) : Text := "\x7b" ++ Text.join ", " entries ++ "\x7d"

variable {m : Type → Type} [Monad m] [MonadLiftT (Except Fault) m]

mutual

/-- A value as a diagnostic shows it. -/
def quoted (s : Scribe m) : Value → m Text
  | .none => pure "None"
  | .bool true => pure "True"
  | .bool false => pure "False"
  | .int n => monadLift (Decimal.write n)
  | .float x => pure x.text
  | .text t => pure t.quoted
  | .bytes bs => pure (Text.quotedBytes bs)
  | .tuple vs => do
    let items ← quotedItems s vs
    return rowText items
  | .list vs => do
    let items ← quotedItems s vs
    return listText items
  | .record keys values => do
    let keys ← quotedItems s keys
    let values ← quotedItems s values
    return recordText (List.zipWith (fun key value => key ++ ": " ++ value) keys values)
  | .object r => s.quoted r

def quotedItems (s : Scribe m) : List Value → m (List Text)
  | [] => pure []
  | v :: vs => do
    let item ← quoted s v
    let items ← quotedItems s vs
    return item :: items

end

/-- A value printed into an instruction or a message. -/
def shown (s : Scribe m) : Value → m Text
  | .text t => pure t
  | .object r => s.shown r
  | v => v.quoted s

@[simp] theorem shown_text (s : Scribe m) (t : Text) : shown s (.text t) = pure t := rfl

@[simp] theorem shown_object (s : Scribe m) (r : Ref) : shown s (.object r) = s.shown r := rfl

theorem shown_int (s : Scribe m) (n : Int) :
    shown s (.int n) = monadLift (Decimal.write n) := by
  simp [shown, quoted]

theorem shown_float (s : Scribe m) (x : Binary64) : shown s (.float x) = pure x.text := by
  simp [shown, quoted]

end Value

end Zpl
