import Mathlib.Algebra.BigOperators.Group.List.Basic
import Mathlib.Data.List.Perm.Basic
import Zpl.Proofs.Calling

/-!
# Margins

A component has margins on four sides, and callers set them one by one, four at a time, or all at
once, as often as they like. All of that comes to four numbers: whatever the calls are and in
whatever order, the component ends up as if it had got the sum of the margins in one go. The far
margins narrow the canvas of a text and of a ready-made instruction, and rectangles and lines
themselves. Ellipses and barcodes have a size of their own that is not for margins to change, so
these move instead.

## Main definitions

* `Margins` — how far something lies within something else on each side; margins add up.
* `Extent`, `Component.withExtent` — the position and the sizes that margins work on.
* `MarginCall` — a call that sets margins, and the margins that it asks for.

## Main results

* `Extent.within_add` — margins within margins are their sum.
* `Edit.alters_setMargins` and others — one step.
* `Action.attemptAll_margins` — a run of calls.
* `Action.margins_normalForm` — the run, its reorderings, and one margin for all sides.
-/

namespace Zpl

/-! ### Margins -/

/-- How far something lies within something else on each side. -/
@[ext]
structure Margins where
  left : Int := 0
  top : Int := 0
  right : Int := 0
  bottom : Int := 0
  deriving DecidableEq, Repr

namespace Margins

instance : Zero Margins := ⟨{}⟩

instance : Add Margins where
  add m n := {
    left := m.left + n.left, top := m.top + n.top, right := m.right + n.right,
    bottom := m.bottom + n.bottom }

@[simp] theorem left_zero : (0 : Margins).left = 0 := rfl

@[simp] theorem top_zero : (0 : Margins).top = 0 := rfl

@[simp] theorem right_zero : (0 : Margins).right = 0 := rfl

@[simp] theorem bottom_zero : (0 : Margins).bottom = 0 := rfl

variable (m n : Margins)

@[simp] theorem left_add : (m + n).left = m.left + n.left := rfl

@[simp] theorem top_add : (m + n).top = m.top + n.top := rfl

@[simp] theorem right_add : (m + n).right = m.right + n.right := rfl

@[simp] theorem bottom_add : (m + n).bottom = m.bottom + n.bottom := rfl

/-- Margins add up side by side, so their order does not matter. -/
instance : AddCommMonoid Margins where
  add_assoc _ _ _ := by ext <;> simp [Int.add_assoc]
  zero_add _ := by ext <;> simp
  add_zero _ := by ext <;> simp
  add_comm _ _ := by ext <;> simp [Int.add_comm]
  nsmul := nsmulRec

end Margins

/-! ### Extents -/

/-- Where a component stands, and the sizes that its far margins take away from. -/
@[ext]
structure Extent where
  x : Int
  y : Int
  width : Int
  height : Int
  deriving DecidableEq, Repr

/-- What is left of an extent within margins. What moves keeps its sizes, and its far margins push
it back. -/
def Extent.within (moves : Bool) (e : Extent) (m : Margins) : Extent :=
  if moves then { e with x := e.x + m.left - m.right, y := e.y + m.top - m.bottom }
  else {
    x := e.x + m.left, y := e.y + m.top, width := e.width - m.right,
    height := e.height - m.bottom }

namespace Extent

variable (moves : Bool) (e : Extent)

@[simp] theorem within_zero : e.within moves 0 = e := by
  cases moves <;> simp [within]

/-- Margins within margins are their sum. -/
theorem within_add (m n : Margins) :
    e.within moves (m + n) = (e.within moves m).within moves n := by
  cases moves <;> ext <;> simp [within] <;> omega

theorem within_left (n : Int) : e.within moves { left := n } = { e with x := e.x + n } := by
  cases moves <;> simp [within]

theorem within_top (n : Int) : e.within moves { top := n } = { e with y := e.y + n } := by
  cases moves <;> simp [within]

theorem within_right (n : Int) : e.within moves { right := n } =
    if moves then { e with x := e.x - n } else { e with width := e.width - n } := by
  cases moves <;> simp [within]

theorem within_bottom (n : Int) : e.within moves { bottom := n } =
    if moves then { e with y := e.y - n } else { e with height := e.height - n } := by
  cases moves <;> simp [within]

end Extent

/-- Whether far margins move a component. They make other components smaller. -/
def Kind.moves : Kind → Bool
  | .shape { figure := .ellipse, .. } => true
  | .barcode _ => true
  | _ => false

namespace Component

/-- A component with another position, and with other sizes if margins change these: those of the
canvas for a text and for a ready-made instruction, and its own for a rectangle and for a line. -/
def withExtent (c : Component) (e : Extent) : Component :=
  match c.kind with
  | .barcode _ => { c with x := .int e.x, y := .int e.y }
  | .shape { figure := .ellipse, .. } => { c with x := .int e.x, y := .int e.y }
  | .shape form =>
    { c with
      x := .int e.x
      y := .int e.y
      kind := .shape { form with width := .int e.width, height := .int e.height } }
  | _ =>
    { c with
      x := .int e.x
      y := .int e.y
      labelWidth := .int e.width
      labelHeight := .int e.height }

/-- What margins work on are whole numbers, and these are the ones. -/
def HasExtent (c : Component) (e : Extent) : Prop := c.withExtent e = c

variable (c : Component) (e : Extent)

/-- Every property of a component with an extent is one of six, by its kind and its figure. -/
@[simp] theorem x_withExtent : (c.withExtent e).x = .int e.x := by
  unfold withExtent
  split <;> rfl

@[simp] theorem y_withExtent : (c.withExtent e).y = .int e.y := by
  unfold withExtent
  split <;> rfl

theorem withExtent_x (x : Int) :
    c.withExtent { e with x := x } = { c.withExtent e with x := .int x } := by
  unfold withExtent
  split <;> rfl

theorem withExtent_y (y : Int) :
    c.withExtent { e with y := y } = { c.withExtent e with y := .int y } := by
  unfold withExtent
  split <;> rfl

end Component

/-! ### One step -/

namespace Edit

open Zpl.Action

variable {around : Surroundings} {s : Store} {r : Ref}

section

variable (hr : r < s.things.length) (c : Component) (e : Extent) (n : Int)

include hr

theorem alters_setMarginLeft :
    (setMarginLeft r (.int n)).Alters around s r (c.withExtent e)
      (c.withExtent (e.within c.kind.moves { left := n })) := by
  rw [Extent.within_left, c.withExtent_x e (e.x + n)]
  refine .component_bind hr (.value_bind ?_ (.modifyComponent hr _))
  rw [Component.x_withExtent, addInto_int]

theorem alters_setMarginTop :
    (setMarginTop r (.int n)).Alters around s r (c.withExtent e)
      (c.withExtent (e.within c.kind.moves { top := n })) := by
  rw [Extent.within_top, c.withExtent_y e (e.y + n)]
  refine .component_bind hr (.value_bind ?_ (.modifyComponent hr _))
  rw [Component.y_withExtent, addInto_int]

/-- The right margin, kind by kind. -/
theorem alters_setMarginRight :
    (setMarginRight r (.int n)).Alters around s r (c.withExtent e)
      (c.withExtent (e.within c.kind.moves { right := n })) := by
  rw [Extent.within_right]
  obtain ⟨id, x, y, labelWidth, labelHeight, alignment, instruction, listener, kind⟩ := c
  cases kind with
  | raw size =>
    exact .component_bind hr (.component_bind hr (.value_bind rfl (.modifyComponent hr _)))
  | text line =>
    exact .component_bind hr (.component_bind hr (.value_bind rfl (.modifyComponent hr _)))
  | barcode b =>
    exact .component_bind hr (.component_bind hr (.value_bind rfl (.modifyComponent hr _)))
  | shape form =>
    obtain ⟨figure, width, height, thickness, color⟩ := form
    cases figure with
    | ellipse =>
      exact .component_bind hr (.component_bind hr (.value_bind rfl (.modifyComponent hr _)))
    | rectangle radius => exact .component_bind hr (.value_bind rfl (.modifyComponent hr _))
    | diagonal slant => exact .component_bind hr (.value_bind rfl (.modifyComponent hr _))

/-- The bottom margin, kind by kind. -/
theorem alters_setMarginBottom :
    (setMarginBottom r (.int n)).Alters around s r (c.withExtent e)
      (c.withExtent (e.within c.kind.moves { bottom := n })) := by
  rw [Extent.within_bottom]
  obtain ⟨id, x, y, labelWidth, labelHeight, alignment, instruction, listener, kind⟩ := c
  cases kind with
  | raw size =>
    exact .component_bind hr (.component_bind hr (.value_bind rfl (.modifyComponent hr _)))
  | text line =>
    exact .component_bind hr (.component_bind hr (.value_bind rfl (.modifyComponent hr _)))
  | barcode b =>
    exact .component_bind hr (.component_bind hr (.value_bind rfl (.modifyComponent hr _)))
  | shape form =>
    obtain ⟨figure, width, height, thickness, color⟩ := form
    cases figure with
    | ellipse =>
      exact .component_bind hr (.component_bind hr (.value_bind rfl (.modifyComponent hr _)))
    | rectangle radius => exact .component_bind hr (.value_bind rfl (.modifyComponent hr _))
    | diagonal slant => exact .component_bind hr (.value_bind rfl (.modifyComponent hr _))

end

/-! ### Margins in their places -/

section

variable (hs : s.IsGenuine) (hr : r < s.things.length) (c : Component) (e : Extent) (n : Int)

include hs hr

theorem alters_applyLeft :
    (applyLeft r (.int n)).Alters around s r (c.withExtent e)
      (c.withExtent (e.within c.kind.moves { left := n })) :=
  .dispatchUnit hs (by decide) _ (alters_setMarginLeft hr c e n)

theorem alters_applyTop :
    (applyTop r (.int n)).Alters around s r (c.withExtent e)
      (c.withExtent (e.within c.kind.moves { top := n })) :=
  .dispatchUnit hs (by decide) _ (alters_setMarginTop hr c e n)

theorem alters_applyRight :
    (applyRight r (.int n)).Alters around s r (c.withExtent e)
      (c.withExtent (e.within c.kind.moves { right := n })) :=
  .dispatchUnit hs (by decide) _ (alters_setMarginRight hr c e n)

theorem alters_applyBottom :
    (applyBottom r (.int n)).Alters around s r (c.withExtent e)
      (c.withExtent (e.within c.kind.moves { bottom := n })) :=
  .dispatchUnit hs (by decide) _ (alters_setMarginBottom hr c e n)

/-- The four margins are set one by one, from the far sides to the near ones. -/
theorem alters_setFourMargins (left top right bottom : Int) :
    (setFourMargins r (.int left) (.int top) (.int right) (.int bottom)).Alters around s r
      (c.withExtent e)
      (c.withExtent (e.within c.kind.moves
        { left := left, top := top, right := right + left, bottom := bottom + top })) := by
  have sum : ({ left := left, top := top, right := right + left, bottom := bottom + top } : Margins)
      = { bottom := bottom + top } + { right := right + left } + { left := left }
        + { top := top } := by
    ext <;> simp
  rw [sum, Extent.within_add, Extent.within_add, Extent.within_add]
  exact .value_bind (add_int bottom top _ _) (.bind (alters_applyBottom hs hr c _ _)
    (.value_bind (add_int right left _ _) (.bind (alters_applyRight hs hr c _ _)
      (.bind (alters_applyLeft hs hr c _ _) (alters_applyTop hs hr c _ _)))))

/-- One margin for all sides counts twice at the far ones. An ellipse gets it as four margins, and
every other component gets it side by side, from the near sides to the far ones. -/
theorem alters_setSingleMargin :
    (setSingleMargin r (.int n)).Alters around s r (c.withExtent e)
      (c.withExtent (e.within c.kind.moves
        { left := n, top := n, right := 2 * n, bottom := 2 * n })) := by
  have four : (setFourMargins r (.int n) (.int n) (.int n) (.int n)).Alters around s r
      (c.withExtent e) (c.withExtent (e.within c.kind.moves
        { left := n, top := n, right := 2 * n, bottom := 2 * n })) := by
    rw [Int.two_mul]
    exact alters_setFourMargins hs hr c e n n n n
  have sum : ({ left := n, top := n, right := 2 * n, bottom := 2 * n } : Margins)
      = { left := n } + { top := n } + { right := n * 2 } + { bottom := n * 2 } := by
    ext <;> simp [Int.mul_comm]
  have each : (do
      applyLeft r (.int n)
      applyTop r (.int n)
      applyRight r (← twice (.int n))
      applyBottom r (← twice (.int n)) : Action Unit).Alters around s r (c.withExtent e)
      (c.withExtent (e.within c.kind.moves
        { left := n, top := n, right := 2 * n, bottom := 2 * n })) := by
    rw [sum, Extent.within_add, Extent.within_add, Extent.within_add]
    exact .bind (alters_applyLeft hs hr c _ _) (.bind (alters_applyTop hs hr c _ _)
      (.value_bind (twice_int n _ _) (.bind (alters_applyRight hs hr c _ _)
        (.value_bind (twice_int n _ _) (alters_applyBottom hs hr c _ _)))))
  obtain ⟨id, x, y, labelWidth, labelHeight, alignment, instruction, listener, kind⟩ := c
  refine .component_bind hr ?_
  cases kind with
  | raw size => exact each
  | text line => exact each
  | barcode b => exact each
  | shape form =>
    obtain ⟨figure, width, height, thickness, color⟩ := form
    cases figure with
    | ellipse => exact .dispatchUnit hs (by decide) _ four
    | rectangle radius => exact each
    | diagonal slant => exact each

end

end Edit

/-! ### Calls that set margins -/

/-- A call that sets margins to whole numbers. -/
inductive MarginCall where
  | left (n : Int)
  | top (n : Int)
  | right (n : Int)
  | bottom (n : Int)
  /-- One margin for all sides. -/
  | all (n : Int)
  /-- A margin for each side. -/
  | each (l t r b : Int)
  deriving DecidableEq, Repr

namespace MarginCall

/-- The name of the method that is called. -/
def name : MarginCall → String
  | left _ => "set_margin_left"
  | top _ => "set_margin_top"
  | right _ => "set_margin_right"
  | bottom _ => "set_margin_bottom"
  | all _ => "set_margins"
  | each .. => "set_margins"

def signature : MarginCall → Signature
  | left _ => .required ["margin_left"]
  | top _ => .required ["margin_top"]
  | right _ => .required ["margin_right"]
  | bottom _ => .required ["margin_bottom"]
  | all _ => Component.marginsSignature
  | each .. => Component.marginsSignature

/-- The values for the parameters of the method. -/
def values : MarginCall → List Value
  | left n => [.int n]
  | top n => [.int n]
  | right n => [.int n]
  | bottom n => [.int n]
  | all n => [.int n, .none, .none, .none]
  | each l t r b => [.int l, .int t, .int r, .int b]

/-- The method is called by its name, and the values of the call are the ones for its parameters,
whether they are given in a row or by name. -/
def IsMadeBy (m : MarginCall) (call : String × Call) : Prop :=
  call.1 = m.name ∧ m.signature.bind call.2 = .ok m.values

/-- What the method does. -/
def edit (q : Ref) : MarginCall → Action Unit
  | left n => Edit.setMarginLeft q (.int n)
  | top n => Edit.setMarginTop q (.int n)
  | right n => Edit.setMarginRight q (.int n)
  | bottom n => Edit.setMarginBottom q (.int n)
  | all n => Edit.setMargins q (.int n) .none .none .none
  | each l t r b => Edit.setMargins q (.int l) (.int t) (.int r) (.int b)

/-- The margins that a call asks for. Where several are set at a time, those at the far sides also
make up for those at the near ones. -/
def margins : MarginCall → Margins
  | left n => { left := n }
  | top n => { top := n }
  | right n => { right := n }
  | bottom n => { bottom := n }
  | all n => { left := n, top := n, right := 2 * n, bottom := 2 * n }
  | each l t r b => { left := l, top := t, right := r + l, bottom := b + t }

/-- The margins that calls ask for together. -/
def total (ms : List MarginCall) : Margins := (ms.map margins).sum

@[simp] theorem total_nil : total [] = 0 := rfl

@[simp] theorem total_cons (m : MarginCall) (ms : List MarginCall) :
    total (m :: ms) = m.margins + total ms := List.sum_cons

/-- The order of calls does not matter to what they ask for together. -/
theorem total_perm {ms ns : List MarginCall} (h : ms.Perm ns) : total ms = total ns :=
  (h.map margins).sum_eq

/-- One margin for all sides is the same one for each side. -/
theorem margins_all (n : Int) : (all n).margins = (each n n n n).margins := by
  simp only [margins, Int.two_mul]

/-- Every component has the method. -/
theorem exists_method (m : MarginCall) (comp : Component) (r : Ref) : ∃ method : Method Ref,
    comp.methods.find? (·.name == m.name) = some method ∧ method.signature = m.signature ∧
      method.run r m.values = (do m.edit r; return .none) := by
  cases m <;> exact ⟨_, rfl, rfl, rfl⟩

theorem name_mem (m : MarginCall) : m.name ∈ Store.calledNames := by
  cases m <;> simp only [name] <;> decide

/-- A call changes the extent of a component by the margins that it asks for. -/
theorem alters_edit {around : Surroundings} {s : Store} {r : Ref} (hs : s.IsGenuine)
    (hr : r < s.things.length) (m : MarginCall) (comp : Component) (e : Extent) :
    (m.edit r).Alters around s r (comp.withExtent e)
      (comp.withExtent (e.within comp.kind.moves m.margins)) := by
  cases m with
  | left n => exact Edit.alters_setMarginLeft hr comp e n
  | top n => exact Edit.alters_setMarginTop hr comp e n
  | right n => exact Edit.alters_setMarginRight hr comp e n
  | bottom n => exact Edit.alters_setMarginBottom hr comp e n
  | all n => exact Edit.alters_setSingleMargin hs hr comp e n
  | each l t r b => exact Edit.alters_setFourMargins hs hr comp e l t r b

end MarginCall

/-! ### Runs of calls -/

namespace Action

variable {s : Store} {r : Ref} {comp : Component} {e : Extent}

theorem attempt_marginCall (hs : s.IsGenuine) (hc : s.component? r = some (comp.withExtent e))
    {m : MarginCall} {name : String} {given : Call} (hm : m.IsMadeBy (name, given))
    (c : Circumstances) :
    (call (.object r) name given).attempt c s =
      (.ok .none, s.put r (.component
        (comp.withExtent (e.within comp.kind.moves m.margins)))) := by
  obtain ⟨rfl, hbind⟩ := hm
  obtain ⟨method, offered, signature, run⟩ := m.exists_method (comp.withExtent e) r
  have here := Store.lt_length_of_component? hc
  exact attempt_altering hc (hs r m.name m.name_mem) offered (signature ▸ hbind) c run
    (m.alters_edit hs here comp e)

/-- A run of calls that set margins: none of them fails, and they add up. -/
theorem attemptAll_margins (hs : s.IsGenuine) (hc : s.component? r = some (comp.withExtent e))
    {ms : List MarginCall} {calls : List (String × Call)}
    (h : List.Forall₂ MarginCall.IsMadeBy ms calls) (c : Circumstances) :
    attemptAll c r calls s =
      (List.replicate calls.length (.ok .none), s.put r (.component
        (comp.withExtent (e.within comp.kind.moves (MarginCall.total ms))))) := by
  induction h generalizing s e with
  | nil =>
    rw [MarginCall.total_nil, Extent.within_zero, Store.put_component_self hc]
    rfl
  | @cons m call ms calls hm _ ih =>
    obtain ⟨name, given⟩ := call
    have here := Store.lt_length_of_component? hc
    have rest := ih (hs.put r _) (Store.component?_put_self here
      (comp.withExtent (e.within comp.kind.moves m.margins)))
    rw [attemptAll_cons (attempt_marginCall hs hc hm c), rest, Store.put_put,
      MarginCall.total_cons, Extent.within_add]
    rfl

/-- Calls that set margins to whole numbers have a normal form, whatever kind of component they are
made on: none of them fails, and the component ends up within the sum of the margins that they ask
for. The position and the sizes that margins work on change by that sum, and nothing else in the
store changes.

So the order of the calls does not matter, and one margin for all sides does the same as giving it
to each side. -/
theorem margins_normalForm (hs : s.IsGenuine) (hc : s.component? r = some comp)
    (he : comp.HasExtent e) {ms : List MarginCall} {calls : List (String × Call)}
    (h : List.Forall₂ MarginCall.IsMadeBy ms calls) (c : Circumstances) :
    attemptAll c r calls s =
      (List.replicate calls.length (.ok .none), s.put r (.component
        (comp.withExtent (e.within comp.kind.moves (MarginCall.total ms))))) ∧
    (∀ calls' : List (String × Call), calls'.Perm calls →
      attemptAll c r calls' s = attemptAll c r calls s) ∧
    ∀ (n : Int) (one four : Call),
      Component.marginsSignature.bind one = .ok [.int n, .none, .none, .none] →
      Component.marginsSignature.bind four = .ok [.int n, .int n, .int n, .int n] →
      (call (.object r) "set_margins" one).attempt c s =
        (call (.object r) "set_margins" four).attempt c s := by
  have there : s.component? r = some (comp.withExtent e) := by rw [hc, he]
  have run := attemptAll_margins hs there h c
  refine ⟨run, fun calls' perm => ?_, fun n one four hone hfour => ?_⟩
  · obtain ⟨ms', hperm, h'⟩ : ∃ ms' : List MarginCall, ms'.Perm ms ∧
        List.Forall₂ MarginCall.IsMadeBy ms' calls' := by
      obtain ⟨ms', h', hperm⟩ := List.perm_comp_forall₂ perm h.flip
      exact ⟨ms', hperm, h'.flip⟩
    rw [run, attemptAll_margins hs there h' c, MarginCall.total_perm hperm, perm.length_eq]
  · rw [attempt_marginCall hs there (m := .all n) ⟨rfl, hone⟩,
      attempt_marginCall hs there (m := .each n n n n) ⟨rfl, hfour⟩, MarginCall.margins_all]

/-- An ellipse gets one margin for all sides, and then another one on the right. -/
theorem margins_normalForm_ellipse :
    let disc : Component := { x := 3, y := 4, kind := .shape { figure := .ellipse } }
    let calls : List (String × Call) := [("set_margins", { inRow := [5] }),
      ("set_margin_right", { named := [("margin_right", 2)] })]
    attemptAll {} 0 calls { things := [.component disc] } =
      ([.ok .none, .ok .none],
        { things := [.component { disc with x := .int (-4), y := .int (-1) }] }) := by
  intro disc calls
  have extent : disc.HasExtent { x := 3, y := 4, width := 0, height := 0 } := rfl
  have made : List.Forall₂ MarginCall.IsMadeBy [.all 5, .right 2] calls :=
    .cons ⟨rfl, rfl⟩ (.cons ⟨rfl, rfl⟩ .nil)
  exact (margins_normalForm (fun _ _ _ => rfl) rfl extent made {}).1

end Action

end Zpl
