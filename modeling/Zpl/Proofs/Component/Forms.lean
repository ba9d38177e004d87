import Zpl.Component.Validation
import Zpl.Store.Method.Object
import Zpl.Store.Attribute

/-!
# What checked attributes hold

A kind of component is made of what its checked attributes hold and of a rest that is stored
unchecked. A check looks at the value that is given, and never at the component: what comes of it is
a form for the attribute, and the form then takes the place of the old one. So two attributes of one
component have nothing to do with each other, and assigning is like writing to registers.

## Main definitions

* `Attribute.Form` — what an attribute holds.
* `Attribute.judge` — what an attribute makes of a value, whatever component it is of.
* `Kind.form?`, `Kind.setForm` — what a kind holds in an attribute, and the same kind with another
  form there.
* `Kind.rest` — a kind apart from its checked attributes.
* `Kind.settled` — a kind after some assignments.
* `Attribute.last?` — what an attribute accepts last of some values.

## Main results

* `Kind.assign?_eq_judge` — an assignment is a judgement on a value, and then a form that is set.
* `Kind.ext_form` — a kind is what its attributes hold, and its rest.
* `Kind.form?_settled` — an attribute holds what it accepted last.
-/

namespace Zpl

namespace Verdict

theorem map_map {α β γ : Type} (f : β → γ) (g : α → β) (verdict : Verdict α) :
    map f (map g verdict) = map (fun a => f (g a)) verdict := by
  cases verdict <;> rfl

/-- What is accepted, if anything is. -/
def accepted? {α : Type} : Verdict α → Option α
  | .accepted a => some a
  | _ => none

end Verdict

/-! ### Forms -/

namespace Attribute

/-- The name that an attribute goes by, and that its value is given by when a component is made. -/
def name : Attribute → String
  | .size => "component_size"
  | .content => "text"
  | .fontSize => "font_size"
  | .moduleWidth => "module_width"
  | .barHeight => "bar_height"
  | .placement => "text_placement"
  | .mode => "mode"
  | .orientation => "orientation"
  | .width => "width"
  | .height => "height"
  | .thickness => "thickness"
  | .color => "color"
  | .cornerRadius => "corner_radius"
  | .slant => "orientation"

/-- What an attribute holds. Margins may take the sides of a shape to fractions, and a placement
remembers the value that it was given by. -/
def Form : Attribute → Type
  | .size | .fontSize | .moduleWidth | .barHeight | .thickness | .cornerRadius => Int
  | .content => Text
  | .placement => TextPlacement × Value
  | .mode => BarcodeMode
  | .orientation => Orientation
  | .width | .height => Number
  | .color => Color
  | .slant => Slant

section

variable {m : Type → Type} [Monad m] [MonadLiftT (Except Fault) m]

/-- What an attribute makes of a value. -/
def judge (sc : Scribe m) (v : Value) : (a : Attribute) → m (Verdict a.Form)
  | .size => Judgement.rawSize v
  | .content => Judgement.content sc v
  | .fontSize => Judgement.dots sc "font size" v
  | .moduleWidth => Judgement.positiveDots sc "module width" v
  | .barHeight => Judgement.positiveDots sc "bar height" v
  | .placement => Verdict.map (fun p => (p, v)) <$> Judgement.placement sc v
  | .mode => Judgement.mode sc v
  | .orientation => Judgement.orientation sc v
  | .width => Verdict.map Number.int <$> Judgement.dots sc "width" v
  | .height => Verdict.map Number.int <$> Judgement.dots sc "height" v
  | .thickness => Judgement.thickness sc v
  | .color => Judgement.color sc v
  | .cornerRadius => Judgement.cornerRadius sc v
  | .slant => Judgement.slant sc v

end

end Attribute

namespace Kind

/-- What a kind holds in an attribute, if it has the attribute. -/
def form? : Kind → (a : Attribute) → Option a.Form
  | .raw size, .size => some size
  | .text line, .content => some line.content
  | .text line, .fontSize => some line.fontSize
  | .barcode b, .moduleWidth => some b.moduleWidth
  | .barcode b, .barHeight => some b.barHeight
  | .barcode b, .placement => some (b.placement, b.placementGiven)
  | .barcode b, .mode => some b.mode
  | .barcode b, .orientation => some b.orientation
  | .shape s, .width => some s.width
  | .shape s, .height => some s.height
  | .shape s, .thickness => some s.thickness
  | .shape s, .color => some s.color
  | .shape { figure := .rectangle radius, .. }, .cornerRadius => some radius
  | .shape { figure := .diagonal slant, .. }, .slant => some slant
  | _, _ => none

/-- A kind with another form in an attribute; a kind that has no such attribute stays as it is. -/
def setForm : Kind → (a : Attribute) → a.Form → Kind
  | .raw _, .size, n => .raw n
  | .text line, .content, t => .text { line with content := t }
  | .text line, .fontSize, n => .text { line with fontSize := n }
  | .barcode b, .moduleWidth, n => .barcode { b with moduleWidth := n }
  | .barcode b, .barHeight, n => .barcode { b with barHeight := n }
  | .barcode b, .placement, p => .barcode { b with placement := p.1, placementGiven := p.2 }
  | .barcode b, .mode, mode => .barcode { b with mode := mode }
  | .barcode b, .orientation, o => .barcode { b with orientation := o }
  | .shape s, .width, n => .shape { s with width := n }
  | .shape s, .height, n => .shape { s with height := n }
  | .shape s, .thickness, n => .shape { s with thickness := n }
  | .shape s, .color, color => .shape { s with color := color }
  | .shape { figure := .rectangle _, width, height, thickness, color }, .cornerRadius, n =>
    .shape { figure := .rectangle n, width, height, thickness, color }
  | .shape { figure := .diagonal _, width, height, thickness, color }, .slant, way =>
    .shape { figure := .diagonal way, width, height, thickness, color }
  | k, _, _ => k

/-- A kind with everything that is checked as it is in the beginning. -/
def rest : Kind → Kind
  | .raw _ => .raw 0
  | .text line => .text { hexEscapes := line.hexEscapes }
  | .barcode b =>
    .barcode { data := b.data, checkDigit := b.checkDigit, background := b.background }
  | .shape { figure := .rectangle _, .. } => .shape { figure := .rectangle 0 }
  | .shape { figure := .ellipse, .. } => .shape { figure := .ellipse }
  | .shape { figure := .diagonal _, .. } => .shape { figure := .diagonal .right }

variable {k k' : Kind} {a b : Attribute}

/-- What is set is there. -/
theorem form?_setForm_self (h : (k.form? a).isSome = true) (x : a.Form) :
    (k.setForm a x).form? a = some x := by
  cases k with
  | raw size => cases a <;> first | rfl | cases h
  | text line => cases a <;> first | rfl | cases h
  | barcode b => cases a <;> first | rfl | cases h
  | shape s =>
    obtain ⟨figure, width, height, thickness, color⟩ := s
    cases figure <;> cases a <;> first | rfl | cases h

/-- What is set in one attribute does not show in another. -/
theorem form?_setForm_of_ne (h : a ≠ b) (x : a.Form) : (k.setForm a x).form? b = k.form? b := by
  cases k with
  | raw size => cases a <;> first | rfl | (cases b <;> first | rfl | exact absurd rfl h)
  | text line => cases a <;> first | rfl | (cases b <;> first | rfl | exact absurd rfl h)
  | barcode code => cases a <;> first | rfl | (cases b <;> first | rfl | exact absurd rfl h)
  | shape s =>
    obtain ⟨figure, width, height, thickness, color⟩ := s
    cases figure <;> cases a <;> first | rfl | (cases b <;> first | rfl | exact absurd rfl h)

/-- What is set leaves the rest as it is. -/
theorem rest_setForm (k : Kind) (a : Attribute) (x : a.Form) : (k.setForm a x).rest = k.rest := by
  cases k with
  | raw size => cases a <;> rfl
  | text line => cases a <;> rfl
  | barcode b => cases a <;> rfl
  | shape s =>
    obtain ⟨figure, width, height, thickness, color⟩ := s
    cases figure <;> cases a <;> rfl

/-- Which attributes a kind has is a matter of its rest. -/
theorem isSome_form?_rest (k : Kind) (a : Attribute) :
    (k.rest.form? a).isSome = (k.form? a).isSome := by
  cases k with
  | shape s =>
    obtain ⟨figure, width, height, thickness, color⟩ := s
    cases figure <;> cases a <;> rfl
  | _ => cases a <;> rfl

theorem isSome_form?_of_rest (h : k.rest = k'.rest) (a : Attribute) :
    (k.form? a).isSome = (k'.form? a).isSome := by
  rw [← isSome_form?_rest k, ← isSome_form?_rest k', h]

/-- So is which methods there are, -/
theorem kindMethods_rest (k : Kind) : Component.kindMethods k.rest = Component.kindMethods k := by
  cases k with
  | shape s =>
    obtain ⟨figure, width, height, thickness, color⟩ := s
    cases figure <;> rfl
  | _ => rfl

/-- and what the kind is called. -/
theorem name_rest (k : Kind) : k.rest.name = k.name := by
  cases k with
  | shape s =>
    obtain ⟨figure, width, height, thickness, color⟩ := s
    cases figure <;> rfl
  | _ => rfl

/-- A kind is what its attributes hold, and its rest. -/
theorem ext_form (hrest : k.rest = k'.rest) (hform : ∀ a, k.form? a = k'.form? a) : k = k' := by
  cases k with
  | raw size =>
    cases k' with
    | raw size' =>
      cases hform .size
      rfl
    | shape s =>
      obtain ⟨figure, width, height, thickness, color⟩ := s
      cases figure <;> cases hrest
    | _ => cases hrest
  | text line =>
    cases k' with
    | text line' =>
      obtain ⟨content, fontSize, hexEscapes⟩ := line
      cases hform .content
      cases hform .fontSize
      cases hrest
      rfl
    | shape s =>
      obtain ⟨figure, width, height, thickness, color⟩ := s
      cases figure <;> cases hrest
    | _ => cases hrest
  | barcode code =>
    cases k' with
    | barcode code' =>
      obtain ⟨data, moduleWidth, barHeight, placement, given, checkDigit, mode, o, behind⟩ := code
      cases hform .moduleWidth
      cases hform .barHeight
      cases hform .placement
      cases hform .mode
      cases hform .orientation
      cases hrest
      rfl
    | shape s =>
      obtain ⟨figure, width, height, thickness, color⟩ := s
      cases figure <;> cases hrest
    | _ => cases hrest
  | shape s =>
    cases k' with
    | shape s' =>
      obtain ⟨figure, width, height, thickness, color⟩ := s
      obtain ⟨figure', width', height', thickness', color'⟩ := s'
      cases hform .width
      cases hform .height
      cases hform .thickness
      cases hform .color
      cases figure with
      | rectangle radius =>
        cases figure' <;> cases hrest
        cases hform .cornerRadius
        rfl
      | ellipse =>
        cases figure' <;> cases hrest
        rfl
      | diagonal slant =>
        cases figure' <;> cases hrest
        cases hform .slant
        rfl
    | _ =>
      obtain ⟨figure, width, height, thickness, color⟩ := s
      cases figure <;> cases hrest

/-- An attribute goes by its name with the kinds that have it. -/
theorem validated?_eq_some_iff {name : String} :
    k.validated? name = some a ↔ (k.form? a).isSome = true ∧ a.name = name := by
  refine ⟨fun h => ?_, ?_⟩
  · unfold validated? at h
    split at h <;> cases h <;> exact ⟨rfl, rfl⟩
  · rintro ⟨h, rfl⟩
    cases k with
    | shape s =>
      obtain ⟨figure, width, height, thickness, color⟩ := s
      cases figure <;> cases a <;> first | rfl | cases h
    | _ => cases a <;> first | rfl | cases h

/-! ### Assignments -/

section

variable {m : Type → Type} [Monad m] [LawfulMonad m]

theorem settling_map {α β γ : Type} (f : β → γ) (g : α → β) (judgement : m (Verdict α)) :
    settling f (Verdict.map g <$> judgement) = settling (fun a => f (g a)) judgement := by
  simp [settling, Verdict.map_map]

theorem settling_bind {α β γ : Type} (f : β → γ) (g : α → β) (judgement : m (Verdict α)) :
    (settling g judgement).bind (settling f) = settling (fun a => f (g a)) judgement :=
  settling_map f g judgement

variable [MonadLiftT (Except Fault) m]

/-- An assignment is a judgement on the value, whatever the component, and then a form that is
set. -/
theorem assign?_eq_judge (sc : Scribe m) (v : Value) (h : (k.form? a).isSome = true) :
    k.assign? sc a v = settling (k.setForm a) (a.judge sc v) := by
  cases k with
  | raw size =>
    cases a with
    | size => rfl
    | _ => cases h
  | text line =>
    cases a with
    | content => exact settling_bind Kind.text _ _
    | fontSize => exact settling_bind Kind.text _ _
    | _ => cases h
  | barcode code =>
    cases a with
    | moduleWidth => exact settling_bind Kind.barcode _ _
    | barHeight => exact settling_bind Kind.barcode _ _
    | placement =>
      have given := settling_map ((Kind.barcode code).setForm .placement) (fun p => (p, v))
        (Judgement.placement sc v)
      exact (settling_bind Kind.barcode _ _).trans given.symm
    | mode => exact settling_bind Kind.barcode _ _
    | orientation => exact settling_bind Kind.barcode _ _
    | _ => cases h
  | shape s =>
    cases a with
    | width =>
      have whole := settling_map ((Kind.shape s).setForm .width) Number.int
        (Judgement.dots sc "width" v)
      exact (settling_bind Kind.shape _ _).trans whole.symm
    | height =>
      have whole := settling_map ((Kind.shape s).setForm .height) Number.int
        (Judgement.dots sc "height" v)
      exact (settling_bind Kind.shape _ _).trans whole.symm
    | thickness => exact settling_bind Kind.shape _ _
    | color => exact settling_bind Kind.shape _ _
    | cornerRadius =>
      obtain ⟨figure, width, height, thickness, color⟩ := s
      cases figure with
      | rectangle radius => exact settling_bind Kind.shape _ _
      | _ => cases h
    | slant =>
      obtain ⟨figure, width, height, thickness, color⟩ := s
      cases figure with
      | diagonal slant => exact settling_bind Kind.shape _ _
      | _ => cases h
    | _ => cases h

end

/-- A kind after one assignment: a form is set if the value is accepted. -/
def accept (accepts? : (a : Attribute) → Value → Option a.Form) (k : Kind) (a : Attribute)
    (v : Value) : Kind :=
  match accepts? a v with
  | some x => k.setForm a x
  | none => k

/-- A kind after some assignments, one after the other. -/
def settled (accepts? : (a : Attribute) → Value → Option a.Form) (k : Kind)
    (entries : List (Attribute × Value)) : Kind :=
  entries.foldl (fun k e => k.accept accepts? e.1 e.2) k

end Kind

/-- The values that an attribute is given, in order. -/
def Attribute.given (a : Attribute) (entries : List (Attribute × Value)) : List Value :=
  (entries.filter (·.1 = a)).map (·.2)

theorem Attribute.mem_given {e : Attribute × Value} {entries : List (Attribute × Value)}
    (h : e ∈ entries) : e.2 ∈ e.1.given entries :=
  List.mem_map_of_mem (List.mem_filter.2 ⟨h, decide_eq_true rfl⟩)

/-- The form in which an attribute accepts the last of the values that it accepts. -/
def Attribute.last? (a : Attribute) (accepts? : (a : Attribute) → Value → Option a.Form)
    (values : List Value) : Option a.Form :=
  (values.filterMap (accepts? a)).getLast?

namespace Kind

variable {accepts? : (a : Attribute) → Value → Option a.Form} {k : Kind} {a b : Attribute}
  {v : Value}

@[simp] theorem settled_cons (k : Kind) (e : Attribute × Value)
    (entries : List (Attribute × Value)) :
    k.settled accepts? (e :: entries) = (k.accept accepts? e.1 e.2).settled accepts? entries :=
  rfl

theorem rest_accept (k : Kind) (a : Attribute) (v : Value) :
    (k.accept accepts? a v).rest = k.rest := by
  unfold accept
  split
  · exact rest_setForm k _ _
  · rfl

theorem form?_accept_self (h : (k.form? a).isSome = true) :
    (k.accept accepts? a v).form? a = (accepts? a v).or (k.form? a) := by
  unfold accept
  cases accepts? a v with
  | some x => exact form?_setForm_self h x
  | none => rfl

theorem form?_accept_of_ne (h : a ≠ b) : (k.accept accepts? a v).form? b = k.form? b := by
  unfold accept
  cases accepts? a v with
  | some x => exact form?_setForm_of_ne h x
  | none => rfl

@[simp] theorem rest_settled (k : Kind) (entries : List (Attribute × Value)) :
    (k.settled accepts? entries).rest = k.rest := by
  induction entries generalizing k with
  | nil => rfl
  | cons e entries ih => rw [settled_cons, ih, rest_accept]

/-- What an attribute holds in the end is what it accepted last, or what it held in the
beginning. -/
theorem form?_settled (h : (k.form? a).isSome = true) (entries : List (Attribute × Value)) :
    (k.settled accepts? entries).form? a =
      (a.last? accepts? (a.given entries)).or (k.form? a) := by
  induction entries generalizing k with
  | nil => rfl
  | cons e entries ih =>
    obtain ⟨b, v⟩ := e
    have there : ((k.accept accepts? b v).form? a).isSome = true := by
      rwa [isSome_form?_of_rest (rest_accept k b v)]
    rw [settled_cons, ih there]
    by_cases same : b = a
    · subst same
      have given : b.given ((b, v) :: entries) = v :: b.given entries := by
        simp [Attribute.given]
      rw [form?_accept_self h, given]
      simp only [Attribute.last?, List.filterMap_cons]
      cases accepts? b v with
      | none => rfl
      | some x =>
        cases hlast : (List.filterMap (accepts? b) (b.given entries)).getLast? <;>
          simp [List.getLast?_cons, hlast]
    · have given : a.given ((b, v) :: entries) = a.given entries := by
        simp [Attribute.given, same]
      rw [form?_accept_of_ne same, given]

/-- Two sequences of assignments come to the same if every attribute that there is holds the same
in the end. -/
theorem settled_eq_of_last? {entries entries' : List (Attribute × Value)}
    (h : ∀ a : Attribute, (k.form? a).isSome = true →
      (a.last? accepts? (a.given entries)).or (k.form? a) =
        (a.last? accepts? (a.given entries')).or (k.form? a)) :
    k.settled accepts? entries = k.settled accepts? entries' := by
  refine ext_form (by rw [rest_settled, rest_settled]) fun a => ?_
  cases present : (k.form? a).isSome with
  | true => rw [form?_settled present, form?_settled present, h a present]
  | false =>
    have absent (es : List (Attribute × Value)) : (k.settled accepts? es).form? a = none := by
      rw [← Option.not_isSome_iff_eq_none, isSome_form?_of_rest (rest_settled k es), present]
      exact Bool.false_ne_true
    rw [absent, absent]

end Kind

end Zpl
