import Zpl.Proofs.Component.Alignment

/-!
# Placing a new component

A component that was just made is edited until it stands where it should. As long as its position
and its sizes are whole numbers, each edit has one exact effect: it turns the newest component of
the store into another one, and does nothing else. So a sequence of edits is followed on the
component alone.

## Main definitions

* `Store.plus` — a store with one more component.
* `Action.Turns` — an action that turns the newest component into another one.

## Main results

* `Edit.turns_setMarginTop` and others — what each edit turns a component into.
* `Action.create_eq_ok` — a component is made by the edits that its recipe lists.
-/

namespace Zpl

namespace Store

variable {s : Store} {c d : Component} {q : Ref}

/-- The number that the next object gets. -/
def next (s : Store) : Ref := s.things.length

/-- A store with one more component. -/
def plus (s : Store) (c : Component) : Store := { s with things := s.things ++ [.component c] }

@[simp] theorem next_plus (s : Store) (c : Component) : (s.plus c).next = s.next + 1 := by
  simp [next, plus]

@[simp] theorem component?_plus (s : Store) (c : Component) :
    (s.plus c).component? s.next = some c := by
  simp [component?, thing?, plus, next]

theorem thing?_plus_of_lt (h : q < s.next) (c : Component) :
    (s.plus c).thing? q = s.thing? q := List.getElem?_append_left h

/-- What was there before is still there. -/
theorem component?_plus_of_some (h : s.component? q = some d) (c : Component) :
    (s.plus c).component? q = some d := by
  rw [component?, thing?_plus_of_lt (lt_length_of_component? h)]
  exact h

@[simp] theorem put_plus (s : Store) (c d : Component) :
    (s.plus c).put s.next (.component d) = s.plus d := by
  simp [put, plus, next]

/-- What is put in the place of something older does not touch the newest component. -/
theorem put_plus_of_lt (h : q < s.next) (c : Component) (x : Thing) :
    (s.plus c).put q x = (s.put q x).plus c := by
  simp only [put, plus, List.set_append_left _ _ h]

@[simp] theorem put_plus_plus (s : Store) (c d e : Component) :
    ((s.plus c).plus d).put s.next (.component e) = (s.plus e).plus d := by
  simp [put, plus, next]

theorem isGenuine_plus : (s.plus c).IsGenuine ↔ s.IsGenuine := Iff.rfl

theorem IsGenuine.plus (h : s.IsGenuine) (c : Component) : (s.plus c).IsGenuine :=
  isGenuine_plus.2 h

/-- A store with more components. -/
def append (s : Store) (cs : List Component) : Store :=
  { s with things := s.things ++ cs.map .component }

theorem plus_eq_append (s : Store) (c : Component) : s.plus c = s.append [c] := rfl

@[simp] theorem append_append (s : Store) (cs ds : List Component) :
    (s.append cs).append ds = s.append (cs ++ ds) := by
  simp [append]

@[simp] theorem next_append (s : Store) (cs : List Component) :
    (s.append cs).next = s.next + cs.length := by
  simp [append, next]

theorem thing?_append_of_lt (h : q < s.next) (cs : List Component) :
    (s.append cs).thing? q = s.thing? q := List.getElem?_append_left h

theorem component?_append (s : Store) (cs : List Component) (n : Nat) :
    (s.append cs).component? (s.next + n) = cs[n]? := by
  have thing : (s.append cs).thing? (s.next + n) = (cs[n]?).map .component := by
    rw [thing?, append, next, List.getElem?_append_right (by omega), Nat.add_sub_cancel_left,
      List.getElem?_map]
  rw [component?, thing]
  cases cs[n]? <;> rfl

end Store

namespace Action

variable {α β : Type} {around : Surroundings} {s t : Store} {c c' c'' : Component}

/-- The newest component of a store turns into another one, and nothing else happens. -/
def Turns (x : Action Unit) (around : Surroundings) (s : Store) (c c' : Component) : Prop :=
  x around (s.plus c) = .ok () (s.plus c')

namespace Turns

/-- What alters a component wherever it stands alters the newest one. -/
theorem of_alters {x : Action Unit} (h : x.Alters around (s.plus c) s.next c c') :
    x.Turns around s c c' := by
  rwa [Alters, Store.put_plus, Store.put_plus] at h

theorem bind {x : Action Unit} {f : Unit → Action Unit} (hx : x.Turns around s c c')
    (hf : (f ()).Turns around s c' c'') : (x >>= f).Turns around s c c'' := bind_eq hx hf

theorem pure : (Pure.pure () : Action Unit).Turns around s c c := rfl

theorem modifyComponent (f : Component → Component) :
    (modifyComponent s.next f).Turns around s c (f c) := by
  rw [Turns, modifyComponent_eq_ok (Store.component?_plus s c), Store.put_plus]

/-- What depends on the component may look at it first. -/
theorem component_bind {f : Component → Action Unit} (h : (f c).Turns around s c c') :
    (component s.next >>= f).Turns around s c c' :=
  bind_eq (component_eq_ok (Store.component?_plus s c) around) h

/-- A value is found without a change, and then the component is changed by it. -/
theorem value_bind {x : Action α} {f : α → Action Unit} {a : α}
    (hx : x around (s.plus c) = .ok a (s.plus c)) (hf : (f a).Turns around s c c') :
    (x >>= f).Turns around s c c' := bind_eq hx hf

/-- Where nothing was put in its place, a method is carried out. -/
theorem dispatchUnit {own : Action Unit} {name : String} (hs : s.IsGenuine)
    (hname : name ∈ Store.calledNames) (values : List Value) (h : own.Turns around s c c') :
    (dispatchUnit s.next name values own).Turns around s c c' := by
  have unattached := hs.plus c s.next name hname
  refine bind_eq (a := .none) ?_ rfl
  rw [dispatch_of_unattached unattached]
  exact bind_eq h rfl

end Turns

/-! ### Methods -/

section

variable {sort? : Store → Ref → Option α} {r : Ref} {a : α} {name : String}

/-- Where nothing was put in its place, a method is carried out on what has it. -/
theorem dispatchOn_eq (hs : s.IsGenuine) (hname : name ∈ Store.calledNames)
    (ha : sort? s r = some a) (values : List Value) (own : Ref → α → Action Value) :
    dispatchOn sort? (.object r) name values own around s = own r a around s := by
  refine (dispatch_of_unattached (hs r name hname) _ _ _).trans (bind_eq rfl ?_)
  rw [ha]

theorem dispatchUnitOn_eq_ok (hs : s.IsGenuine) (hname : name ∈ Store.calledNames)
    (ha : sort? s r = some a) {values : List Value} {own : Ref → Action Unit}
    (h : own r around s = .ok () t) :
    dispatchUnitOn sort? (.object r) name values own around s = .ok () t := by
  refine bind_eq (a := .none) ?_ rfl
  rw [dispatchOn_eq hs hname ha]
  exact bind_eq h rfl

end

/-! ### Reading -/

/-- An attribute of an object that is there can be read. -/
theorem read_eq_ok {q : Ref} {x : Thing} (hx : s.thing? q = some x) {name : String} {v : Value}
    (hv : (x.fields s.directory).lookup name = some (.ok v)) :
    read (.object q) name around s = .ok v s := by
  have found : s.attribute? q name = some (.ok v) := by simp only [Store.attribute?, hx, hv]
  refine bind_eq rfl ?_
  rw [found]
  rfl

theorem read_component {q : Ref} {d : Component} (hq : s.component? q = some d) {name : String}
    {v : Value} (hv : d.fields.lookup name = some (.ok v)) :
    read (.object q) name around s = .ok v s := by
  refine read_eq_ok (Store.component?_eq_some_iff.1 hq) ?_
  rw [Thing.fields, List.lookup_append, hv]
  rfl

end Action

/-! ### Whole numbers are accepted -/

namespace Judgement

variable {sc : Scribe Action} {n : Int}

theorem acceptWhole_int (n : Int) :
    (acceptWhole (.int n) : Action (Verdict Int)) = pure (.accepted n) := rfl

theorem dots_int (name : Text) (h : 0 ≤ n) : dots sc name (.int n) = pure (.accepted n) := by
  have enough : Number.atLeast (.int n) 0 = true := by simpa using h
  simp only [dots, Value.dots?, enough, if_true, acceptWhole_int]

theorem positiveDots_int (name : Text) (h : 1 ≤ n) :
    positiveDots sc name (.int n) = pure (.accepted n) := by
  have enough : Number.atLeast (.int n) 1 = true := by simpa using h
  simp only [positiveDots, Value.dots?, enough, if_true, acceptWhole_int]

theorem cornerRadius_int (h : 0 ≤ n) (hmax : n ≤ maxCornerRadius) :
    cornerRadius sc (.int n) = pure (.accepted n) := by
  have inRange : (Number.atLeast (.int n) 0 && Number.atMost (.int n) maxCornerRadius) = true := by
    simp [h, hmax]
  simp only [cornerRadius, Value.dots?, inRange, if_true, acceptWhole_int]

theorem color_token (color : Color) :
    Judgement.color sc (.text (token color)) = pure (.accepted color) := by
  cases color <;> rfl

end Judgement

/-! ### Edits -/

namespace Edit

open Zpl.Action

variable {around : Surroundings} {s : Store} {c : Component} {x y : Int}

theorem turns_setLabelSize (width height : Int) :
    (setLabelSize s.next (.int width) (.int height)).Turns around s c
      { c with labelWidth := .int width, labelHeight := .int height } :=
  .value_bind rfl (.bind (.modifyComponent _) (.value_bind rfl (.modifyComponent _)))

theorem turns_setMarginLeft (hx : c.x = .int x) (margin : Int) :
    (setMarginLeft s.next (.int margin)).Turns around s c { c with x := .int (x + margin) } :=
  .component_bind (.value_bind (by rw [hx]; rfl) (.modifyComponent _))

theorem turns_setMarginTop (hy : c.y = .int y) (margin : Int) :
    (setMarginTop s.next (.int margin)).Turns around s c { c with y := .int (y + margin) } :=
  .component_bind (.value_bind (by rw [hy]; rfl) (.modifyComponent _))

theorem turns_moveUp (hy : c.y = .int y) (margin : Int) :
    (moveUp s.next (.int margin)).Turns around s c { c with y := .int (y - margin) } :=
  .component_bind (.value_bind (by rw [hy]; rfl) (.modifyComponent _))

/-- What an attribute accepts is stored. -/
theorem turns_assign {a : Attribute} {v : Value} {k : Kind}
    (h : ∀ sc : Scribe Action, c.kind.assign? sc a v = some (pure (.accepted k))) :
    (assign s.next a v).Turns around s c { c with kind := k } :=
  .of_alters (alters_assign (Store.lt_length_of_component? (Store.component?_plus s c)) h)

theorem turns_assign_fontSize {line : TextLine} (hk : c.kind = .text line) {n : Int} (h : 0 ≤ n) :
    (assign s.next .fontSize (.int n)).Turns around s c
      { c with kind := .text { line with fontSize := n } } :=
  turns_assign fun sc => by
    rw [hk, Kind.assign?, TextLine.assign?, Judgement.dots_int _ h]
    rfl

theorem turns_assign_moduleWidth {b : Barcode} (hk : c.kind = .barcode b) {n : Int} (h : 1 ≤ n) :
    (assign s.next .moduleWidth (.int n)).Turns around s c
      { c with kind := .barcode { b with moduleWidth := n } } :=
  turns_assign fun sc => by
    rw [hk, Kind.assign?, Barcode.assign?, Judgement.positiveDots_int _ h]
    rfl

section

variable {form : Shape} (hk : c.kind = .shape form)

include hk

theorem turns_assign_width {n : Int} (h : 0 ≤ n) :
    (assign s.next .width (.int n)).Turns around s c
      { c with kind := .shape { form with width := .int n } } :=
  turns_assign fun sc => by
    rw [hk, Kind.assign?, Shape.assign?, Judgement.dots_int _ h]
    rfl

theorem turns_assign_height {n : Int} (h : 0 ≤ n) :
    (assign s.next .height (.int n)).Turns around s c
      { c with kind := .shape { form with height := .int n } } :=
  turns_assign fun sc => by
    rw [hk, Kind.assign?, Shape.assign?, Judgement.dots_int _ h]
    rfl

theorem turns_assign_thickness {n : Int} (h : 0 < n) :
    (assign s.next .thickness (.int n)).Turns around s c
      { c with kind := .shape { form with thickness := n } } :=
  turns_assign fun sc => by
    rw [hk, Kind.assign?, Shape.assign?, Judgement.thickness_int (by omega),
      Int.max_eq_right (by omega)]
    rfl

theorem turns_assign_shade {v : Value} {color : Color}
    (h : ∀ sc : Scribe Action, Judgement.color sc v = pure (.accepted color)) :
    (assign s.next .color v).Turns around s c
      { c with kind := .shape { form with color := color } } :=
  turns_assign fun sc => by
    rw [hk, Kind.assign?, Shape.assign?, h]
    rfl

theorem turns_assign_color (color : Color) :
    (assign s.next .color (.text (token color))).Turns around s c
      { c with kind := .shape { form with color := color } } :=
  turns_assign_shade hk fun _ => Judgement.color_token color

theorem turns_assign_cornerRadius {radius n : Int} (hfigure : form.figure = .rectangle radius)
    (h : 0 ≤ n) (hmax : n ≤ Judgement.maxCornerRadius) :
    (assign s.next .cornerRadius (.int n)).Turns around s c
      { c with kind := .shape { form with figure := .rectangle n } } :=
  turns_assign fun sc => by
    simp only [hk, Kind.assign?, Shape.assign?, hfigure, Judgement.cornerRadius_int h hmax]
    rfl

end

/-! ### Margins -/

/-- Margins on all four sides of a rectangle. -/
theorem turns_setMargins (hs : s.IsGenuine) {form : Shape} (hk : c.kind = .shape form)
    {radius width height : Int} (hfigure : form.figure = .rectangle radius)
    (hwidth : form.width = .int width) (hheight : form.height = .int height)
    (hx : c.x = .int x) (hy : c.y = .int y) (left top right bottom : Int) :
    (setMargins s.next (.int left) (.int top) (.int right) (.int bottom)).Turns around s c
      { c with
        x := .int (x + left)
        y := .int (y + top)
        kind := .shape { form with
          width := .int (width - (right + left))
          height := .int (height - (bottom + top)) } } := by
  have here := Store.lt_length_of_component? (Store.component?_plus s c)
  have altered : Alters _ around _ _ _ _ := alters_setFourMargins (hs.plus c) here c
    { x := x, y := y, width := width, height := height } left top right bottom
  refine .of_alters ?_
  obtain ⟨figure, w, h, thickness, color⟩ := form
  cases c
  cases hk
  cases hfigure
  cases hwidth
  cases hheight
  cases hx
  cases hy
  exact altered

theorem turns_setMarginBottom_barcode {b : Barcode} (hk : c.kind = .barcode b)
    (hy : c.y = .int y) (margin : Int) :
    (setMarginBottom s.next (.int margin)).Turns around s c
      { c with y := .int (y - margin) } := by
  cases c
  cases hk
  exact .component_bind (turns_moveUp hy margin)

/-! ### Alignment -/

/-- A text is centered by the printer. -/
theorem turns_setAlignment_text {line : TextLine} (hk : c.kind = .text line) :
    (setAlignment s.next (.text (token Alignment.center))).Turns around s c
      { c with alignment := .text (token Alignment.center) } := by
  cases c
  cases hk
  exact .component_bind (.value_bind (alignmentOf_token .center around _) (.modifyComponent _))

section

variable (hs : s.IsGenuine) {m : Measures} (hm : c.HasMeasures m)

include hs hm

theorem turns_setAlignment_center (ha : c.kind.isMovedBy .center = true) :
    (setAlignment s.next (.text (token Alignment.center))).Turns around s c
      { c with
        x := .int ((m.outerWidth - m.width).tdiv 2)
        alignment := .text (token Alignment.center) } :=
  .of_alters (alters_setAlignment (hs.plus c)
    (Store.lt_length_of_component? (Store.component?_plus s c)) hm ha around)

/-- What is at the bottom stands on the lower edge of its canvas. -/
theorem turns_setAlignment_bottom (ha : c.kind.isMovedBy .bottom = true) :
    (setAlignment s.next (.text (token Alignment.bottom))).Turns around s c
      { c with
        y := .int (m.outerHeight - m.height)
        alignment := .text (token Alignment.bottom) } :=
  .of_alters (alters_setAlignment (hs.plus c)
    (Store.lt_length_of_component? (Store.component?_plus s c)) hm ha around)

end

/-! ### Stacking and filling -/

/-- What is put below a component moves down by where that component ends. -/
theorem stackBelow_eq_ok {r q : Ref} {d : Component} (hr : s.component? r = some c)
    (hq : s.component? q = some d) {above size : Int} (habove : d.y = .int above)
    (hsize : d.footprint = .ok (.int size)) (hy : c.y = .int y) :
    stackBelow r (.object q) around s =
      .ok () (s.put r (.component { c with y := .int (y + (above + size)) })) := by
  have position : read (.object q) "y" around s = .ok (.int above) s :=
    read_component hq (by rw [← habove]; rfl)
  have footprint : read (.object q) "component_size" around s = .ok (.int size) s := by
    refine read_component hq ?_
    rw [show d.fields.lookup "component_size" = some (d.footprint.map Value.ofNumber) from rfl,
      hsize]
    rfl
  have moved (n : Int) : modifyComponent r (fun c => { c with y := .int n }) around s = _ :=
    modifyComponent_eq_ok hr _ around
  refine bind_eq position (bind_eq footprint (bind_eq (add_int _ _ _ _) ?_))
  exact bind_eq (component_eq_ok hr around) (bind_eq (by rw [hy, addInto_int]) (moved _))

theorem turns_stackBelow {d : Component} {q : Ref} (hq : s.component? q = some d) {above size : Int}
    (habove : d.y = .int above) (hsize : d.footprint = .ok (.int size)) (hy : c.y = .int y) :
    (stackBelow s.next (.object q)).Turns around s c
      { c with y := .int (y + (above + size)) } := by
  have there := Store.component?_plus_of_some hq c
  rw [Turns, stackBelow_eq_ok (Store.component?_plus s c) there habove hsize hy, Store.put_plus]

/-- A shape is filled by a border of half its shorter side. -/
theorem turns_fillBackground {form : Shape} (hk : c.kind = .shape form) {width height : Int}
    (hwidth : form.width = .int width) (hheight : form.height = .int height)
    (h : 0 ≤ min width height) :
    (fillBackground s.next).Turns around s c
      { c with kind := .shape { form with thickness := fillingBorder width height } } :=
  .of_alters (alters_fillBackground (Store.lt_length_of_component? (Store.component?_plus s c)) hk
    hwidth hheight h)

end Edit

/-! ### Making -/

namespace Action

variable {around : Surroundings} {s : Store} {c c' : Component}

/-- A component is made of its recipe by assigning what the recipe says. -/
theorem create_eq_ok {recipe : Recipe} (hblank : recipe.blank s.directory = .ok c)
    (hassigned : (recipe.ingredients.assignments.forM fun (a, v) =>
      Edit.assign s.next a v).Turns around s c c') :
    create recipe around s = .ok s.next (s.plus c') := by
  refine bind_eq rfl (bind_eq (a := c) ?_ (bind_eq (a := s.next) (t := s.plus c) rfl
    (bind_eq hassigned rfl)))
  rw [hblank]
  rfl

end Action

/-- A value that a line of text and a barcode take for some text. -/
inductive Value.Spells : Value → Text → Prop where
  | text (t : Text) : Spells (.text t) t
  | nothing : Spells (.list []) []

namespace Edit

variable {around : Surroundings} {s : Store} {c : Component}

/-- A line of text that says nothing yet is given its content. -/
theorem turns_assign_content {line : TextLine} (hk : c.kind = .text line)
    (hempty : line.content = []) {v : Value} {t : Text} (h : v.Spells t) :
    (assign s.next .content v).Turns around s c
      { c with kind := .text { line with content := t } } := by
  cases c
  cases hk
  cases line
  cases hempty
  cases h with
  | nothing => exact .component_bind (.value_bind (a := _) rfl rfl)
  | text t =>
    cases t with
    | nil => exact .component_bind (.value_bind (a := _) rfl rfl)
    | cons first rest => exact turns_assign fun sc => rfl

end Edit

end Zpl
