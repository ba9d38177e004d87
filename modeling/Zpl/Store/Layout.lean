import Zpl.Store.Equality
import Zpl.Store.Making

/-!
# Laying out labels

A label takes whatever has a canvas, in order, and prints it in that order. Components that were
laid out without a canvas take over that of the label.

## Main definitions

* `Action.addComponent`, `findComponent`, `removeComponent` — the components of a label.
* `Action.document` — a label as a complete document.
-/

namespace Zpl.Action

/-! ### The components of a label -/

/-- The canvas of an object. Where the width is not zero the height is not asked for. -/
def lacksCanvas (v : Value) : Action Bool := do
  let width ← read v "label_width"
  if width.same 0 then
    let height ← read v "label_height"
    return height.same 0
  else return false

/-- Adds an object at the end of a label; nothing is passed over. -/
def addComponent (label : Ref) : Value → Action Unit
  | .none => pure ()
  | v => do
    let l ← Action.label label
    if ← lacksCanvas v then
      dispatchUnitOn Store.component? v "set_label_size" [l.labelWidth, l.labelHeight]
        fun r => Edit.setLabelSize r l.labelWidth l.labelHeight
    match v with
    | .object r => modifyLabel label fun l => { l with components := l.components ++ [r] }
    | _ => pure ()

def addComponents (label : Ref) (vs : List Value) : Action Unit :=
  vs.forM fun v => dispatchUnit label "add_component" [v] (addComponent label v)

/-- What a value hands out one by one. -/
def elements (v : Value) : Action (List Value) := do v.elements (← directory)

/-- The first of some objects with a given identifier, or nothing. -/
def firstNamed (id : Value) : List Ref → Action Value
  | [] => pure .none
  | r :: rest => do
    let own ← read (.object r) "id"
    let agrees ← (← get).agree own id
    if agrees then return .object r else firstNamed id rest

/-- The first component of a label with a given identifier, or nothing. -/
def findComponent (label : Ref) (id : Value) : Action Value := do
  firstNamed id (← Action.label label).components

/-- Removes the first occurrence of an object from a label; the result says whether there was
one. -/
def removeComponent (label : Ref) (v : Value) : Action Bool := do
  let l ← Action.label label
  match v with
  | .object r =>
    if l.components.contains r then
      modifyLabel label fun l => { l with components := l.components.erase r }
      return true
    else return false
  | _ => return false

def clear (label : Ref) : Action Unit := modifyLabel label fun l => { l with components := [] }

/-! ### Output -/

/-- A document: its frame, the size of its canvas, and its instructions if there are any. -/
def framed (width height body : Text) : Text :=
  Text.join "\n"
    ([Command.startFormat.render, (Command.printWidth width).render,
        (Command.labelLength height).render]
      ++ (if body.isEmpty then [] else [body]) ++ [Command.endFormat.render])

/-- A label as a complete document. -/
def document (label : Ref) : Action Text := do
  let body ← dispatch label "get_label_code" [] do return .text (← code label)
  let l ← Action.label label
  let width ← shown l.labelWidth
  let height ← shown l.labelHeight
  let body ← Writing.textOf (body.orElse (← directory) (.text []))
  return framed width height body

end Zpl.Action
