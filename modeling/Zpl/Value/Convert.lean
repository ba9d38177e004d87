import Zpl.Numeral
import Zpl.Text.Case
import Zpl.Value.Show

/-!
# Conversions and operations on values

Every operation is total: on values that it is not defined for it answers the fault `wrongType`.

## Main definitions

* `Value.truth` — whether a value counts as true: nothing empty and no zero does.
* `Value.elements` — what a value hands out one by one.
* `Value.toInt`, `Value.toFloat` — conversion to a number, reading text and cutting off fractions.
* `Value.add`, `sub`, `mul` — arithmetic, and joining and repeating of sequences.
* `Value.token` — a value as a token: its text in capitals, without the blanks around it.
-/

namespace Zpl

/-- The text that bytes spell in ASCII; other bytes become the replacement character. -/
def Text.ofBytes (bs : List UInt8) : Text :=
  bs.map fun b => CodePoint.ofCode (if b < 0x80 then b.toNat else 0xFFFD)

namespace Value

/-- A value as it stands now, if it is a row, a list or a record kept in a store. -/
def opened (d : Directory) : Value → Value
  | .object r => (d r).content.getD (.object r)
  | v => v

/-- Whether a value counts as true. Empty sequences and zeros do not, and an object does not when
it hands out its parts and has none. -/
def truth (d : Directory) : Value → Bool
  | .none => false
  | .bool b => b
  | .int n => n != 0
  | .float x => !x.isZero
  | .text t => !t.isEmpty
  | .bytes bs => !bs.isEmpty
  | .tuple vs => !vs.isEmpty
  | .list vs => !vs.isEmpty
  | .record keys _ => !keys.isEmpty
  | .object r =>
    match (d r).parts with
    | some vs => !vs.isEmpty
    | Option.none => true

/-- A value, or another one where it does not count as true. -/
def orElse (d : Directory) (v alternative : Value) : Value :=
  if v.truth d then v else alternative

/-- The fault that a value of a kind hands out nothing one by one. -/
def inseparable (kind : String) : Fault :=
  .unsuited (Text.ofString ("'" ++ kind ++ "' object is not iterable"))

/-- The elements that a value hands out one by one. -/
def elements (d : Directory) (v : Value) : Except Fault (List Value) :=
  match v with
  | .text t => .ok (t.map fun c => .text [c])
  | .bytes bs => .ok (bs.map fun b => .int b.toNat)
  | .tuple vs => .ok vs
  | .list vs => .ok vs
  | .record keys _ => .ok keys
  | .object r =>
    match (d r).parts with
    | some vs => .ok vs
    | Option.none => .error (inseparable (v.kindName d))
  | _ => .error (inseparable (v.kindName d))

/-- The length of a sequence or a collection. -/
def length (d : Directory) (v : Value) : Except Fault Nat := do
  let vs ← v.elements d
  return vs.length

/-- Conversion to an integer. A fraction is cut off and a text is read in base ten. -/
def toInt : Value → Except Fault Int
  | .bool b => .ok (if b then 1 else 0)
  | .int n => .ok n
  | .float x => liftArithmetic (Number.float x).truncate
  | .text t => Numeral.readInt t
  | .bytes bs => Numeral.readIntWith false (Text.quotedBytes bs) (Text.ofBytes bs)
  | _ => .error .wrongType

/-- Conversion to a binary64 value. -/
def toFloat : Value → Except Fault Binary64
  | .bool b => .ok (Binary64.ofInt (if b then 1 else 0))
  | .int n => liftArithmetic (Number.int n).toBinary64
  | .float x => .ok x
  | .text t => Numeral.readNumber t
  | .bytes bs => Numeral.readNumberWith (Text.quotedBytes bs) (Text.ofBytes bs)
  | _ => .error .wrongType

/-- The number that arithmetic takes a value for. -/
def toNumber (v : Value) : Except Fault Number :=
  match v.number? with
  | some a => .ok a
  | Option.none => .error .wrongType

/-- An arithmetic operation on values that count as numbers. -/
def arithmetic (op : Number → Number → Except ArithmeticFault Number) (v w : Value) :
    Except Fault Value := do
  let a ← v.toNumber
  let b ← w.toNumber
  let c ← liftArithmetic (op a b)
  return ofNumber c

/-- Addition of numbers, or joining of two sequences of one kind. -/
def add (d : Directory) (v w : Value) : Except Fault Value :=
  match v.opened d, w.opened d with
  | .text s, .text t => .ok (.text (s ++ t))
  | .bytes a, .bytes b => .ok (.bytes (a ++ b))
  | .tuple vs, .tuple ws => .ok (.tuple (vs ++ ws))
  | .list vs, .list ws => .ok (.list (vs ++ ws))
  | v, w => arithmetic Number.add v w

def sub (v w : Value) : Except Fault Value := arithmetic Number.sub v w

/-- The bound on the numbers that count and tell places. -/
def countBound : Int := 0x8000000000000000

/-- Whether a number can count, or tell a place. -/
def isCount (n : Int) : Bool := -countBound ≤ n && n < countBound

/-- How often to repeat a sequence of a given length: a negative number counts as zero, and an empty
sequence is as good as repeated already. `excess` is the fault of a length that cannot be counted,
and `capacity` the greatest length that there is memory for. -/
def repetitionCount (capacity : Nat) (excess : Fault) (n : Int) (length : Nat) :
    Except Fault Nat :=
  if !isCount n then .error .countTooLarge
  else if length = 0 then .ok 0
  else if countBound ≤ n.toNat * length then .error excess
  else if capacity < n.toNat * length then .error .outOfMemory
  else .ok n.toNat

/-- A sequence several times over. -/
def repeated (capacity : Nat) (v : Value) (n : Int) : Except Fault Value :=
  match v with
  | .text t => do
    let count ← repetitionCount capacity .textTooLong n t.length
    return .text (Text.repeated count t)
  | .bytes bs => do
    let count ← repetitionCount capacity .bytesTooLong n bs.length
    return .bytes (List.replicate count bs).flatten
  | .tuple vs => do
    let count ← repetitionCount capacity .outOfMemory n vs.length
    return .tuple (List.replicate count vs).flatten
  | .list vs => do
    let count ← repetitionCount capacity .outOfMemory n vs.length
    return .list (List.replicate count vs).flatten
  | _ => .error .wrongType

/-- Multiplication of numbers, or repetition of a sequence. -/
def mul (capacity : Nat) (d : Directory) (v w : Value) : Except Fault Value :=
  match v.number?, w.number? with
  | some _, some _ => arithmetic Number.mul v w
  | Option.none, some _ =>
    match w.integer? with
    | some n => (v.opened d).repeated capacity n
    | Option.none => .error .wrongType
  | some _, Option.none =>
    match v.integer? with
    | some n => (w.opened d).repeated capacity n
    | Option.none => .error .wrongType
  | Option.none, Option.none => .error .wrongType

/-- A value as a token: its text in capitals, without the blanks around it. Nothing is the empty
token. -/
def token {m : Type → Type} [Monad m] [MonadLiftT (Except Fault) m] (s : Scribe m) :
    Value → m Text
  | .none => pure []
  | v => do
    let t ← v.shown s
    return t.strip.upper

@[simp] theorem toInt_int (n : Int) : toInt (.int n) = .ok n := rfl

@[simp] theorem toNumber_int (n : Int) : toNumber (.int n) = .ok (.int n) := rfl

@[simp] theorem toNumber_ofNumber (a : Number) : toNumber (ofNumber a) = .ok a := by
  cases a <;> rfl

@[simp] theorem add_int (d : Directory) (a b : Int) :
    add d (.int a) (.int b) = .ok (.int (a + b)) := rfl

@[simp] theorem sub_int (a b : Int) : sub (.int a) (.int b) = .ok (.int (a - b)) := rfl

@[simp] theorem mul_int (capacity : Nat) (d : Directory) (a b : Int) :
    mul capacity d (.int a) (.int b) = .ok (.int (a * b)) := rfl

@[simp] theorem token_text (t : Text) : token .plain (.text t) = .ok t.strip.upper := rfl

end Value

end Zpl
