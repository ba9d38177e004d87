import Zpl.Value.Convert

/-!
# Print jobs

A print job is a document as many times over as there are copies, each with a line break after
it, encoded as UTF-8.

## Main definitions

* `Job.ofDocument` — the bytes of a job.
-/

namespace Zpl.Job

/-- A fault of a job, before it is known which printer it is for. -/
def refused (message : Text) : Fault := .print { stage := .job, message := .text message }

/-- Whether a number of copies is less than one. -/
def tooFew (copies : Value) : Except Fault Bool := do
  let n ← copies.toNumber
  return n.compareInt? 1 == some .lt

/-- The text of a job: each copy with a line break after it. -/
def text (document : Text) (copies : Nat) : Text :=
  Text.join "\n" (List.replicate copies document) ++ "\n"

/-- The bytes of a text. -/
def encoded (t : Text) : Except Fault (List UInt8) :=
  match Utf8.encode t with
  | .ok bytes => .ok bytes
  | .error fault => .error (.encoding fault)

/-- How many copies a value asks for; binary64 values count none. There is memory for no more than
`capacity` of them. -/
def copyCount (capacity : Nat) (copies : Value) : Except Fault Nat :=
  match copies.integer? with
  | some n => Value.repetitionCount capacity .outOfMemory n 1
  | none => .error .wrongType

/-- The bytes of a job. Without a document, or with less than one copy, there is none. -/
def ofDocument (capacity : Nat) (d : Directory) (document copies : Value) :
    Except Fault (List UInt8) := do
  if !document.truth d then throw (refused "nothing to print")
  if ← tooFew copies then
    let shown ← copies.shown .plain
    throw (refused ("copies must be >= 1, got " ++ shown))
  let count ← copyCount capacity copies
  match document with
  | .text t => encoded (text t count)
  | v =>
    throw (.unsuited
      (Text.ofString ("sequence item 0: expected str instance, " ++ v.kindName d ++ " found")))

end Zpl.Job
