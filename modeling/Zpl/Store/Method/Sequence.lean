import Zpl.Fault.Incident
import Zpl.Sequence.Parts
import Zpl.Store.Layout
import Zpl.Store.Listing
import Zpl.Store.Method.Basic

/-!
# Methods of texts and byte strings

Texts and byte strings are sequences of which the items are code points or bytes. Most of their
methods are the same: searching, cutting apart, joining and padding. They differ in what counts as
blank, in how lines end, and in what can be looked for.

## Main definitions

* `SequenceSort` — what the methods need to know about a sort of sequences.
* `SequenceSort.methods` — the methods that both sorts have.
-/

namespace Zpl

/-- What the methods of a sort of sequences need to know about it. -/
structure SequenceSort (α : Type) where
  /-- The name of the sort. -/
  kind : String
  /-- What is said to be joined. -/
  part : String
  wrap : List α → Value
  /-- The sequence that a value is. -/
  unwrap? : Value → Option (List α)
  /-- The sequence that a value is looked for as. -/
  pattern : Value → Except Fault (List α)
  /-- The fault that there is nothing of what is looked for. -/
  absent : Fault
  isBlank : α → Bool
  lineEnds : Sequence.LineEnds α
  ofChar : Char → α

namespace SequenceSort

variable {α : Type} (sort : SequenceSort α)

/-! ### Values of parameters -/

/-- The sequence that a value is; `told` says what is wrong with a value of another kind. -/
def unwrapOr (told : String → String) (v : Value) : Except Fault (List α) :=
  match sort.unwrap? v with
  | some s => .ok s
  | none => .error (.unsuited (Text.ofString (told (v.kindName .empty))))

/-- The sequence that a value is. -/
def unwrap (v : Value) : Except Fault (List α) :=
  sort.unwrapOr (fun kind => "must be " ++ sort.kind ++ ", not " ++ kind) v

/-- A place that may be left out. -/
def end? : Value → Except Fault (Option Int)
  | .none => .ok none
  | v =>
    match v.integer? with
    | some n => .ok (some n)
    | none => .error .wrongType

def stretch (start stop : Value) : Except Fault Sequence.Stretch := do
  let start ← end? start
  let stop ← end? stop
  return { start := start, stop := stop }

/-- How many times something is done at most: without end if the number is negative. -/
def limit (v : Value) (all : Nat) : Except Fault Nat := do
  let n ← Listing.placeOf v
  return if n < 0 then all else n.toNat

/-- The room that a sequence is given, if there is memory for as much. -/
def room (n : Int) : Action Nat := do
  let capacity ← Action.capacity
  if (capacity : Int) < n then throw .outOfMemory else return n.toNat

/-- A single item. -/
def single (v : Value) : Except Fault α :=
  match sort.unwrap? v with
  | some [a] => .ok a
  | _ => .error .wrongType

/-- What separates parts, which is not empty. -/
def separator (told : String → String) (v : Value) : Except Fault (List α) := do
  match ← sort.unwrapOr told v with
  | [] => throw (Incident.refusal "ValueError" "empty separator")
  | s => return s

def list (parts : List (List α)) : Value := .list (parts.map sort.wrap)

def row (parts : List (List α)) : Value := .tuple (parts.map sort.wrap)

/-! ### Kinds of methods -/

/-- A method that computes its result from the sequence and from its values. -/
def computing (name : String) (signature : Signature)
    (f : List α → List Value → Except Fault Value) : Method (List α) where
  name := name
  signature := signature
  run s vs := f s vs

/-- A method that takes no values. -/
def plain (name : String) (f : List α → Value) : Method (List α) :=
  computing name {} fun s _ => .ok (f s)

/-- A method that looks for something within a stretch. -/
def searching (name : String)
    (f : List α → Sequence.Stretch → List α → Except Fault Value) : Method (List α) :=
  computing name (.row 1 [.none, .none]) fun s vs =>
    match vs with
    | [wanted, start, stop] => do
      let e ← stretch start stop
      let wanted ← sort.pattern wanted
      f wanted e s
    | _ => .error .wrongType

/-- A method that answers with a place, or with minus one if there is none. -/
def finding (name : String) (f : List α → Sequence.Stretch → List α → Option Nat) :
    Method (List α) :=
  sort.searching name fun wanted e s =>
    match f wanted e s with
    | some n => .ok (.int n)
    | none => .ok (.int (-1))

/-- A method that answers with a place, and fails if there is none. -/
def placing (name : String) (f : List α → Sequence.Stretch → List α → Option Nat) :
    Method (List α) :=
  sort.searching name fun wanted e s =>
    match f wanted e s with
    | some n => .ok (.int n)
    | none => .error sort.absent

/-- Whether one of some values is a pattern that fits; each has to be a sequence. -/
def anyFits (fits : List α → Bool) : List Value → Except Fault Bool
  | [] => .ok false
  | v :: vs => do if fits (← sort.unwrap v) then return true else anyFits fits vs

/-- What is said of an end to test for that is neither a sequence nor a row of them. -/
def unfitEnd (name kind : String) : String :=
  name ++ " first arg must be " ++ sort.kind ++ " or a tuple of " ++ sort.kind ++ ", not " ++ kind

/-- A method that tests an end of a stretch for a pattern, or for several in a row. -/
def testing (name : String) (f : List α → Sequence.Stretch → List α → Bool) : Method (List α) where
  name := name
  signature := .row 1 [.none, .none]
  run s vs := do
    match vs with
    | [wanted, start, stop] =>
      let e ← (stretch start stop : Except Fault _)
      match wanted.opened (← Action.directory) with
      | .tuple ws => return .bool (← sort.anyFits (f · e s) ws)
      | _ => return .bool (f (← sort.unwrapOr (sort.unfitEnd name) wanted) e s)
    | _ => throw .wrongType

/-- A method that takes items away from the ends: the blanks, or those that are told. -/
def stripping (name : String) (f : (α → Bool) → List α → List α) [DecidableEq α] :
    Method (List α) :=
  computing name (.row 0 [.none]) fun s vs =>
    match vs with
    | [.none] => .ok (sort.wrap (f sort.isBlank s))
    | [v] => do
      let dropped ← sort.unwrapOr (fun _ => name ++ " arg must be None or " ++ sort.kind) v
      return sort.wrap (f dropped.contains s)
    | _ => .error .wrongType

/-- A method that cuts at an occurrence of a separator. -/
def cutting [DecidableEq α] (name : String)
    (cut? : List α → List α → Option (List α × List α)) (whole : List α → List (List α)) :
    Method (List α) :=
  computing name (.row 1) fun s vs =>
    match vs with
    | [v] => do
      let between ← sort.separator (fun kind => "must be " ++ sort.kind ++ ", not " ++ kind) v
      match cut? between s with
      | some (before, after) => return sort.row [before, between, after]
      | none => return sort.row (whole s)
    | _ => .error .wrongType

def splitSignature : Signature :=
  { parameters := [{ name := "sep", default? := some .none },
      { name := "maxsplit", default? := some (.int (-1)) }] }

/-- A method that cuts apart at blanks, or at a separator that is told. -/
def splitting (name : String)
    (atBlanks : (α → Bool) → Nat → List α → List (List α))
    (atPattern : List α → Nat → List α → List (List α)) : Method (List α) :=
  computing name splitSignature fun s vs =>
    match vs with
    | [between, times] => do
      let times ← limit times s.length
      match between with
      | .none => return sort.list (atBlanks sort.isBlank times s)
      | v =>
        let told kind := "must be " ++ sort.kind ++ " or None, not " ++ kind
        let between ← sort.separator told v
        return sort.list (atPattern between times s)
    | _ => .error .wrongType

/-- A method that puts a sequence into a room of which the rest is filled up. -/
def filling (name : String) (f : α → Nat → List α → List α) : Method (List α) :=
  { name := name
    signature := .row 1 [sort.wrap [sort.ofChar ' ']]
    run := fun s vs =>
      match vs with
      | [width, fill] => do
        let width ← (Listing.placeOf width : Except Fault Int)
        let fill ← sort.single fill
        return sort.wrap (f fill (← room width) s)
      | _ => throw .wrongType }

/-- A sequence in a room that is filled up with zeros, behind its sign if it begins with one. -/
def zeroFilled [DecidableEq α] (width : Nat) (s : List α) : List α :=
  let zero := sort.ofChar '0'
  match s with
  | a :: rest =>
    if a = sort.ofChar '+' ∨ a = sort.ofChar '-' then
      a :: Sequence.aligned .right zero (width - 1) rest
    else Sequence.aligned .right zero width s
  | [] => Sequence.aligned .right zero width []

/-- The sequences that some values are, counted from a place on. -/
def joinable (place : Nat) : List Value → Except Fault (List (List α))
  | [] => .ok []
  | v :: vs => do
    let told kind :=
      "sequence item " ++ toString place ++ ": expected " ++ sort.part ++ ", " ++ kind ++ " found"
    let part ← sort.unwrapOr told v
    let parts ← joinable (place + 1) vs
    return part :: parts

/-- A method that takes a sequence and changes another one by it. -/
def trimming (name : String) (f : List α → List α → List α) : Method (List α) :=
  computing name (.row 1) fun s vs =>
    match vs with
    | [v] => do
      let told kind := name ++ "() argument must be " ++ sort.kind ++ ", not " ++ kind
      return sort.wrap (f (← sort.unwrapOr told v) s)
    | _ => .error .wrongType

/-- A sequence without another one in front of it. -/
def withoutFront [BEq α] (front s : List α) : List α :=
  if front.isPrefixOf s then s.drop front.length else s

/-- A sequence without another one at its end. -/
def withoutBack [BEq α] (back s : List α) : List α :=
  if back.isSuffixOf s then s.take (s.length - back.length) else s

/-! ### The methods -/

variable [DecidableEq α]

def searchMethods : List (Method (List α)) :=
  [sort.finding "find" Sequence.find?, sort.finding "rfind" Sequence.findLast?,
    sort.placing "index" Sequence.find?, sort.placing "rindex" Sequence.findLast?,
    sort.searching "count" fun wanted e s => .ok (.int (Sequence.countWithin wanted e s)),
    sort.testing "startswith" Sequence.startsWith, sort.testing "endswith" Sequence.endsWith]

def cutMethods : List (Method (List α)) :=
  [sort.stripping "strip" Sequence.strip, sort.stripping "lstrip" Sequence.stripLeft,
    sort.stripping "rstrip" Sequence.stripRight,
    sort.cutting "partition" Sequence.cut? fun s => [s, [], []],
    sort.cutting "rpartition" Sequence.cutLast? fun s => [[], [], s],
    sort.splitting "split" Sequence.words fun between times s => Sequence.splitAt between times s,
    sort.splitting "rsplit" Sequence.wordsLast fun between times s =>
      Sequence.splitAtLast between times s,
    computing "splitlines"
      { parameters := [{ name := "keepends", default? := some (.bool false) }] }
      fun s vs =>
        match vs with
        | [keep] => do
          let keep ← Listing.flag keep
          return sort.list (Sequence.lines sort.lineEnds keep s)
        | _ => .error .wrongType,
    sort.trimming "removeprefix" withoutFront, sort.trimming "removesuffix" withoutBack]

def buildMethods : List (Method (List α)) :=
  [.asking "join" (.row 1) fun s v => do
      let parts ← sort.joinable 0 (← Action.elements v)
      return sort.wrap (List.intercalate s parts),
    computing "replace" (.row 2 [.int (-1)]) fun s vs =>
      match vs with
      | [old, new, times] => do
        let old ← sort.unwrap old
        let new ← sort.unwrap new
        let times ← limit times (s.length + 1)
        return sort.wrap (Sequence.replace old new times s)
      | _ => .error .wrongType,
    sort.filling "center" Sequence.centered,
    sort.filling "ljust" (Sequence.aligned .left), sort.filling "rjust" (Sequence.aligned .right),
    .asking "zfill" (.row 1) fun s width => do
      let width ← (Listing.placeOf width : Except Fault Int)
      return sort.wrap (sort.zeroFilled (← room width) s),
    computing "expandtabs" { parameters := [{ name := "tabsize", default? := some (.int 8) }] }
      fun s vs =>
        match vs with
        | [size] => do
          let size := (← Listing.small size).toNat
          let isTab (a : α) : Bool := a = sort.ofChar '\t'
          let endsLine (a : α) : Bool := a = sort.ofChar '\n' ∨ a = sort.ofChar '\r'
          return sort.wrap (Sequence.expandTabs isTab endsLine (sort.ofChar ' ') size 0 s)
        | _ => .error .wrongType]

/-- The methods that texts and byte strings have in common. -/
def methods : List (Method (List α)) :=
  sort.searchMethods ++ sort.cutMethods ++ sort.buildMethods

end SequenceSort

end Zpl
