import Zpl.Component.Basic

/-!
# Validated attributes

Whether an attribute accepts a value depends on the value alone, never on the component. A value
is accepted in a canonical form, or ignored in silence, or rejected with a warning.

## Main definitions

* `Verdict` — what an attribute makes of a value.
* `Attribute` — the attributes that are checked when they are set.
* `Kind.assign?` — a kind with an attribute set, if it has that attribute.
-/

namespace Zpl

/-- What an attribute makes of a value. -/
inductive Verdict (α : Type) where
  | accepted (a : α)
  | ignored
  /-- The value is not stored and the component warns. -/
  | rejected (message : Text)
  deriving Repr

namespace Verdict

def map {α β : Type} (f : α → β) : Verdict α → Verdict β
  | .accepted a => .accepted (f a)
  | .ignored => .ignored
  | .rejected message => .rejected message

@[simp] theorem map_accepted {α β : Type} (f : α → β) (a : α) :
    map f (.accepted a) = .accepted (f a) := rfl

@[simp] theorem map_ignored {α β : Type} (f : α → β) : map f (.ignored : Verdict α) = .ignored :=
  rfl

@[simp] theorem map_rejected {α β : Type} (f : α → β) (message : Text) :
    map f (.rejected message : Verdict α) = .rejected message := rfl

end Verdict

/-! ### Acceptance

Each rule may fail on the way, where a value has no text or no integer part. A rule that prints a
value does so by means of a scribe, in the scribe's monad. -/

namespace Judgement

variable {m : Type → Type} [Monad m] [MonadLiftT (Except Fault) m]

/-- Rejection with a message in which the value is quoted between two parts. -/
def reject {α : Type} (s : Scribe m) (before : Text) (v : Value) (after : Text) :
    m (Verdict α) := do
  let quoted ← v.quoted s
  return .rejected (before ++ quoted ++ after)

/-- Acceptance of a number as its integer part. -/
def acceptWhole (a : Number) : m (Verdict Int) := do
  let n ← liftArithmetic a.truncate
  return .accepted n

/-- A size in dots. Negative numbers are ignored. -/
def dots (s : Scribe m) (name : Text) (v : Value) : m (Verdict Int) :=
  match v.dots? with
  | none => reject s (name ++ " must be a number of dots, got ") v []
  | some a => if a.atLeast 0 then acceptWhole a else pure .ignored

/-- The thickness of a line. Zero stands for the thinnest line, and negative numbers are
ignored. -/
def thickness (s : Scribe m) (v : Value) : m (Verdict Int) :=
  match v.dots? with
  | none => reject s "thickness must be a number of dots, got " v []
  | some a =>
    if a.isPositive then acceptWhole a
    else if a.isZero then pure (.accepted 1)
    else pure .ignored

/-- The greatest corner radius. -/
def maxCornerRadius : Int := 8

/-- The rounding of a rectangle's corners. -/
def cornerRadius (s : Scribe m) (v : Value) : m (Verdict Int) :=
  match v.dots? with
  | some a =>
    if a.atLeast 0 && a.atMost maxCornerRadius then acceptWhole a
    else reject s "corner radius " v " out of range [0, 8]"
  | none => reject s "corner radius " v " out of range [0, 8]"

/-- A size in dots that has to be at least one. -/
def positiveDots (s : Scribe m) (name : Text) (v : Value) : m (Verdict Int) :=
  match v.dots? with
  | some a => if a.atLeast 1 then acceptWhole a else reject s (name ++ " must be >= 1, got ") v []
  | none => reject s (name ++ " must be >= 1, got ") v []

def color (s : Scribe m) (v : Value) : m (Verdict Color) := do
  match choice? (← v.token s) with
  | some c => return .accepted c
  | none => reject s "invalid color " v "; use Color.BLACK or Color.WHITE"

/-- The way a diagonal line leans; what is no such way is ignored. -/
def slant (s : Scribe m) (v : Value) : m (Verdict Slant) := do
  match choice? (← v.token s) with
  | some way => return .accepted way
  | none => return .ignored

def mode (s : Scribe m) (v : Value) : m (Verdict BarcodeMode) := do
  match choice? (← v.token s) with
  | some mode => return .accepted mode
  | none => reject s "unknown barcode mode " v []

def orientation (s : Scribe m) (v : Value) : m (Verdict Orientation) := do
  match choice? (← v.token s) with
  | some o => return .accepted o
  | none => reject s "unknown orientation " v []

def placement (s : Scribe m) (v : Value) : m (Verdict TextPlacement) :=
  match TextPlacement.ofValue? v with
  | some p => pure (.accepted p)
  | none => reject s "unknown text placement " v []

/-- The content of a line of text; what does not count as true is ignored. -/
def content (s : Scribe m) (v : Value) : m (Verdict Text) :=
  if v.truth s.facts then do
    let t ← v.shown s
    return .accepted t
  else pure .ignored

/-- The size of a ready-made instruction, which is not below zero. -/
def rawSize (v : Value) : m (Verdict Int) := do
  let n ← v.toInt
  return .accepted (max 0 n)

end Judgement

/-! ### Attributes -/

/-- The attributes that are checked when they are set. -/
inductive Attribute where
  | size
  | content
  | fontSize
  | moduleWidth
  | barHeight
  | placement
  | mode
  | orientation
  | width
  | height
  | thickness
  | color
  | cornerRadius
  | slant
  deriving DecidableEq, Repr

section

variable {m : Type → Type} [Monad m] [MonadLiftT (Except Fault) m]

/-- What is made of a value for a part of something, as a verdict on the whole. -/
def settling {α β : Type} (f : α → β) (judgement : m (Verdict α)) : Option (m (Verdict β)) :=
  some (Verdict.map f <$> judgement)

def TextLine.assign? (s : Scribe m) (line : TextLine) (v : Value) :
    Attribute → Option (m (Verdict TextLine))
  | .content => settling (fun t => { line with content := t }) (Judgement.content s v)
  | .fontSize => settling (fun n => { line with fontSize := n }) (Judgement.dots s "font size" v)
  | _ => none

def Barcode.assign? (s : Scribe m) (b : Barcode) (v : Value) :
    Attribute → Option (m (Verdict Barcode))
  | .moduleWidth =>
    settling (fun n => { b with moduleWidth := n }) (Judgement.positiveDots s "module width" v)
  | .barHeight =>
    settling (fun n => { b with barHeight := n }) (Judgement.positiveDots s "bar height" v)
  | .placement =>
    settling (fun p => { b with placement := p, placementGiven := v }) (Judgement.placement s v)
  | .mode => settling (fun mode => { b with mode := mode }) (Judgement.mode s v)
  | .orientation => settling (fun o => { b with orientation := o }) (Judgement.orientation s v)
  | _ => none

def Shape.assign? (s : Scribe m) (shape : Shape) (v : Value) :
    Attribute → Option (m (Verdict Shape))
  | .width => settling (fun n => { shape with width := .int n }) (Judgement.dots s "width" v)
  | .height => settling (fun n => { shape with height := .int n }) (Judgement.dots s "height" v)
  | .thickness => settling (fun n => { shape with thickness := n }) (Judgement.thickness s v)
  | .color => settling (fun c => { shape with color := c }) (Judgement.color s v)
  | .cornerRadius =>
    match shape.figure with
    | .rectangle _ =>
      settling (fun n => { shape with figure := .rectangle n }) (Judgement.cornerRadius s v)
    | _ => none
  | .slant =>
    match shape.figure with
    | .diagonal _ =>
      settling (fun way => { shape with figure := .diagonal way }) (Judgement.slant s v)
    | _ => none
  | _ => none

/-- A kind with an attribute set to what the attribute makes of a value; `none` if the kind has no
such attribute. -/
def Kind.assign? (s : Scribe m) (k : Kind) (a : Attribute) (v : Value) :
    Option (m (Verdict Kind)) :=
  match k with
  | .raw _ =>
    match a with
    | .size => settling .raw (Judgement.rawSize v)
    | _ => none
  | .text line => (line.assign? s v a).bind (settling .text)
  | .barcode b => (b.assign? s v a).bind (settling .barcode)
  | .shape form => (form.assign? s v a).bind (settling .shape)

end

end Zpl
