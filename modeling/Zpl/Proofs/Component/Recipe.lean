import Zpl.Proofs.Component.Forms
import Zpl.Proofs.Component.Placing
import Zpl.Proofs.Component.Shade
import Zpl.Store.Construction

/-!
# What a component is made from

A component is made from values by name. Those of its checked attributes are assigned one after the
other, on top of what the attributes hold in the beginning; for an attribute that is left out, that
is the default, which passes its own check and changes nothing. All others are taken as they are,
and no attribute is among them. So a component that is made without its checked attributes is what
assigning starts from.

## Main definitions

* `Attribute.start`, `Attribute.default` — what an attribute holds in the beginning, and the value
  that stands for it in a call.
* `Call.keyword?` — the value of a call for an attribute.
* `Call.unchecked` — a call without values for checked attributes.
* `Edit.Assigns` — assignments to a component, one after the other, of which none fails.

## Main results

* `Edit.assign_default` — every default passes its own check and changes nothing in the beginning.
* `Action.given_of_ingredients` — what is assigned when a component is made.
* `Action.assigns_of_construct` — making a component with values is making it without them and then
  assigning them.
-/

namespace Zpl

/-! ### Defaults -/

namespace Attribute

/-- What an attribute holds in the beginning. -/
def start : (a : Attribute) → a.Form
  | .size => (0 : Int)
  | .content => ([] : Text)
  | .fontSize => (30 : Int)
  | .moduleWidth => (3 : Int)
  | .barHeight => (60 : Int)
  | .placement => (TextPlacement.hidden, Value.int 0)
  | .mode => BarcodeMode.plain
  | .orientation => Orientation.normal
  | .width | .height => (0 : Number)
  | .thickness => (1 : Int)
  | .color => Color.black
  | .cornerRadius => (0 : Int)
  | .slant => Slant.right

/-- The value that an attribute is given if a component is made without one. -/
def default : Attribute → Value
  | .size | .placement | .width | .height | .cornerRadius => .int 0
  | .content => .text []
  | .fontSize => .int 30
  | .moduleWidth => .int 3
  | .barHeight => .int 60
  | .mode => .text (token BarcodeMode.plain)
  | .orientation => .text (token Orientation.normal)
  | .thickness => .int 1
  | .color => .text (token Color.black)
  | .slant => .text (token Slant.right)

theorem isPlain_default (a : Attribute) : a.default.IsPlain := by
  cases a <;> trivial

/-- Every default is accepted as what the attribute holds in the beginning, apart from the content
of a text, of which nothing is ignored. -/
def welcome (a : Attribute) : Verdict a.Form := if a = .content then .ignored else .accepted a.start

theorem judge_default (a : Attribute) (sc : Scribe Action) (around : Surroundings) (s : Store) :
    (a.judge sc a.default : Action (Verdict a.Form)) around s = .ok a.welcome s := by
  cases a <;> rfl

end Attribute

namespace Kind

variable {k : Kind} {a : Attribute}

/-- A kind in which everything that is checked is as it is in the beginning. -/
theorem form?_start (hk : k.rest = k) (ha : (k.form? a).isSome = true) :
    k.form? a = some a.start := by
  rw [← hk] at ha ⊢
  cases k with
  | shape s =>
    obtain ⟨figure, width, height, thickness, color⟩ := s
    cases figure <;> cases a <;> first | rfl | cases ha
  | _ => cases a <;> first | rfl | cases ha

theorem setForm_start (hk : k.rest = k) (ha : (k.form? a).isSome = true) :
    k.setForm a a.start = k := by
  refine ext_form (rest_setForm k a _) fun b => ?_
  by_cases same : a = b
  · subst same
    rw [form?_setForm_self ha, form?_start hk ha]
  · exact form?_setForm_of_ne same _

end Kind

namespace Ingredients

/-- Assigning starts from a kind in which everything that is checked is as it is in the
beginning. -/
theorem rest_initialKind (d : Directory) (ingredients : Ingredients) :
    (ingredients.initialKind d).rest = ingredients.initialKind d := by
  cases ingredients <;> rfl

end Ingredients

/-! ### Assignments -/

namespace Edit

open Zpl.Action

variable {s t : Store} {r : Ref} {c : Component} {a : Attribute}

/-- An assignment to an attribute that the component has is a judgement, which is then carried
out. -/
theorem assign_eq (hc : s.component? r = some c) (ha : (c.kind.form? a).isSome = true) (v : Value)
    (around : Surroundings) : assign r a v around s =
      (a.judge s.reader v >>= fun verdict => settle r (verdict.map (c.kind.setForm a)) :
        Action Unit) around s := by
  refine bind_eq (component_eq_ok hc around) (bind_eq (scribe_eq_ok around s) ?_)
  rw [Kind.assign?_eq_judge _ _ ha]
  simp only [settling, map_eq_pure_bind, bind_assoc, pure_bind]

/-- Assignments to a component, one after the other, of which none fails. -/
inductive Assigns (r : Ref) : Store → List (Attribute × Value) → Store → Prop
  | nil (s : Store) : Assigns r s [] s
  | cons {s t u : Store} {a : Attribute} {v : Value} {entries : List (Attribute × Value)}
    {around : Surroundings} (h : assign r a v around s = .ok () t) (rest : Assigns r t entries u) :
    Assigns r s ((a, v) :: entries) u

/-- Assigning a default to an attribute that is as it is in the beginning changes nothing. -/
theorem assign_default (hc : s.component? r = some c) (hk : c.kind.rest = c.kind)
    (ha : (c.kind.form? a).isSome = true) (around : Surroundings) :
    assign r a a.default around s = .ok () s := by
  rw [assign_eq hc ha]
  refine bind_eq (a.judge_default s.reader around s) ?_
  unfold Attribute.welcome
  split
  · rfl
  · refine (modifyComponent_eq_ok hc _ around).trans ?_
    rw [Kind.setForm_start hk ha]
    exact congrArg _ (Store.put_component_self hc)

/-- Assigning nothing but defaults in the beginning changes nothing. -/
theorem Assigns.eq_of_default {entries : List (Attribute × Value)} (h : Assigns r s entries t)
    (hc : s.component? r = some c) (hk : c.kind.rest = c.kind)
    (defaults : ∀ e ∈ entries, (c.kind.form? e.1).isSome = true ∧ e.2 = e.1.default) : t = s := by
  induction h with
  | nil => rfl
  | cons h rest ih =>
    rw [List.forall_mem_cons] at defaults
    obtain ⟨⟨ha, standard⟩, defaults⟩ := defaults
    dsimp only at ha standard
    rw [standard, assign_default hc hk ha] at h
    cases h
    exact ih hc defaults

end Edit

/-! ### Values by name -/

namespace Attribute

/-- All attributes. -/
def all : List Attribute :=
  [.size, .content, .fontSize, .moduleWidth, .barHeight, .placement, .mode, .orientation, .width,
    .height, .thickness, .color, .cornerRadius, .slant]

theorem mem_all (a : Attribute) : a ∈ all := by
  cases a <;> decide

end Attribute

/-- Whether a checked attribute goes by a name. -/
def Attribute.goesBy (name : Text) : Bool := all.any fun a => Text.ofString a.name == name

namespace Call

/-- The value of a call for an attribute, if it has one. -/
def keyword? (call : Call) (a : Attribute) : Option Value :=
  (call.named.find? fun e => Text.ofString a.name == e.1).map (·.2)

/-- A call without values for checked attributes. -/
def unchecked (call : Call) : Call :=
  { call with named := call.named.filter fun e => !Attribute.goesBy e.1 }

theorem keyword?_unchecked (call : Call) (a : Attribute) : call.unchecked.keyword? a = none := by
  rw [keyword?, Option.map_eq_none_iff, List.find?_eq_none]
  intro e he named
  have left := (List.mem_filter.1 he).2
  have checked : Attribute.goesBy e.1 = true := List.any_eq_true.2 ⟨a, a.mem_all, named⟩
  rw [checked] at left
  cases left

end Call

namespace Signature

variable {call : Call}

/-- The value for a checked attribute. -/
theorem named_of_default {p : Parameter} {a : Attribute} (hname : p.name = a.name)
    (hgiving : p.giving ≠ .inRow) (hdefault : p.default? = some a.default) :
    named call p = .ok ((call.keyword? a).getD a.default) := by
  have same : (fun e : Text × Value => p.isNamed e.1) = fun e => Text.ofString a.name == e.1 := by
    funext e
    rw [Parameter.isNamed, hname, bne_iff_ne.2 hgiving, Bool.true_and]
  rw [named, hdefault, same, Call.keyword?]
  cases call.named.find? fun e => Text.ofString a.name == e.1 <;> rfl

/-- Leaving out checked attributes changes nothing for what goes by other names. -/
theorem named_unchecked {p : Parameter} (h : ∀ a ∈ Attribute.all, a.name ≠ p.name) :
    named call.unchecked p = named call p := by
  have same : (call.unchecked.named.find? fun e => p.isNamed e.1) =
      call.named.find? fun e => p.isNamed e.1 := by
    rw [Call.unchecked, List.find?_filter]
    congr 1
    funext e
    cases hp : p.isNamed e.1 with
    | false => simp
    | true =>
      have name : Text.ofString p.name = e.1 := beq_iff_eq.1 (Bool.and_eq_true_iff.1 hp).2
      have other : Attribute.goesBy e.1 = false := by
        rw [Attribute.goesBy, List.any_eq_false]
        intro a known checked
        rw [← name, beq_iff_eq] at checked
        exact h a known (String.toList_inj.1 (Text.ofChars_injective checked))
      simp [other]
  rw [named, named, same]

theorem eq_of_unchecked {p : Parameter} {v w : Value} (h : named call p = .ok v)
    (h' : named call.unchecked p = .ok w) (hp : ∀ a ∈ Attribute.all, a.name ≠ p.name) :
    v = w := by
  rw [named_unchecked hp] at h'
  exact Except.ok.inj (h.symm.trans h')

/-- Where nothing is given in a row, every parameter gets its value by its name. -/
theorem named_of_bindParameters {ps : List Parameter} {vs : List Value}
    (h : bindParameters call ps [] = .ok vs) :
    List.Forall₂ (fun p v => named call p = .ok v) ps vs := by
  induction ps generalizing vs with
  | nil =>
    cases h
    exact .nil
  | cons p ps ih =>
    unfold bindParameters at h
    split at h
    · rename_i empty
      cases empty
    · obtain ⟨v, hv, h⟩ := exists_of_bind_eq_ok h
      obtain ⟨values, hvalues, h⟩ := exists_of_bind_eq_ok h
      cases h
      exact .cons hv (ih hvalues)

/-- The same for a signature that gathers nothing. -/
theorem named_of_bind {s : Signature} (hrow : s.gathers = false) (hnamed : s.gathersNamed = false)
    (hempty : call.inRow = []) {vs : List Value} (h : s.bind call = .ok vs) :
    List.Forall₂ (fun p v => named call p = .ok v) s.parameters vs := by
  obtain ⟨values, hvalues, h⟩ := exists_of_bind_eq_ok h
  dsimp only at h
  split at h
  · cases h
  · cases h
    simp only [hrow, hnamed, Bool.false_eq_true, if_false, List.append_nil]
    rw [hempty] at hvalues
    exact named_of_bindParameters hvalues

/-- Nothing else is given by a name. -/
theorem isNamed_of_bind {s : Signature} (hnamed : s.gathersNamed = false) {vs : List Value}
    (h : s.bind call = .ok vs) : ∀ e ∈ call.named, ∃ p ∈ s.parameters, p.isNamed e.1 = true := by
  obtain ⟨values, -, h⟩ := exists_of_bind_eq_ok h
  dsimp only at h
  split at h
  · cases h
  · rename_i fits
    intro e he
    by_contra stray
    refine fits (Bool.or_eq_true_iff.2 (.inr ?_))
    rw [hnamed, Bool.not_false, Bool.true_and, Bool.not_eq_true', List.isEmpty_eq_false_iff]
    refine List.ne_nil_of_mem (List.mem_filter.2 ⟨he, ?_⟩)
    rw [Bool.not_eq_true', List.any_eq_false]
    intro p hp named
    exact stray ⟨p, hp, named⟩

end Signature

/-! ### Making -/

namespace Action

open Edit

variable {around : Surroundings} {s t : Store}

/-- What a sequence of two actions comes to, the second comes to where the first ends. -/
theorem exists_of_bind_apply {α β : Type} {x : Action α} {f : α → Action β} {b : β}
    (h : (x >>= f) around s = .ok b t) :
    ∃ a u, x around s = .ok a u ∧ f a around u = .ok b t := by
  rw [bind_apply] at h
  cases hx : x around s with
  | ok a u =>
    rw [hx] at h
    exact ⟨a, u, rfl, h⟩
  | error fault u =>
    rw [hx] at h
    cases h

theorem lift_eq_ok {α : Type} {e : Except Fault α} {a : α}
    (h : (liftM e : Action α) around s = .ok a t) : e = .ok a ∧ t = s := by
  cases e <;> cases h
  exact ⟨rfl, rfl⟩

/-- Assignments that are carried out one after the other, none of which fails. -/
theorem assigns_of_forM {r : Ref} {entries : List (Attribute × Value)}
    (h : (entries.forM fun (a, v) => assign r a v) around s = .ok () t) :
    Assigns r s entries t := by
  induction entries generalizing s with
  | nil =>
    cases h
    exact .nil _
  | cons e entries ih =>
    obtain ⟨⟨⟩, u, first, rest⟩ := exists_of_bind_apply h
    exact .cons first (ih rest)

/-- A component is made of a blank one by assignments. -/
theorem exists_of_create {recipe : Recipe} {r : Ref} (h : create recipe around s = .ok r t) :
    ∃ c, recipe.blank s.directory = .ok c ∧ r = s.next ∧
      Assigns r (s.plus c) recipe.ingredients.assignments t := by
  obtain ⟨d, u, looked, making⟩ := exists_of_bind_apply h
  cases looked
  obtain ⟨c, u, blank, adding⟩ := exists_of_bind_apply making
  obtain ⟨made, rfl⟩ := lift_eq_ok blank
  obtain ⟨q, w, added, assigning⟩ := exists_of_bind_apply adding
  cases added
  obtain ⟨⟨⟩, w, assigned, answer⟩ := exists_of_bind_apply assigning
  cases answer
  exact ⟨c, made, rfl, assigns_of_forM assigned⟩

end Action

/-- A store in which a handler listens, or nobody does. -/
def Store.listening (s : Store) (heard : Bool) : Store :=
  if heard then { s with things := s.things ++ [.handler] } else s

/-- The one who listens there. -/
def Store.listener (s : Store) (heard : Bool) : Value := if heard then .object s.next else .none

/-- A recipe is made of the values that a call gives to the parameters of a kind by their names. -/
structure Recipe.IsOf (recipe : Recipe) (call : Call) (parameters : List Parameter)
    (ingredients : List Value → Option Ingredients) : Prop where
  own : ∃ vs, List.Forall₂ (fun p v => Signature.named call p = .ok v) parameters vs ∧
    ingredients vs = some recipe.ingredients
  common : List.Forall₂ (fun p v => Signature.named call p = .ok v) Action.commonParameters
    [recipe.id, recipe.x, recipe.y, recipe.labelWidth, recipe.labelHeight]
  known : ∀ e ∈ call.named, ∃ p ∈ parameters ++ Action.commonParameters, p.isNamed e.1 = true

namespace Action

variable {around : Surroundings} {s t : Store} {call : Call} {kind : String}
  {parameters : List Parameter} {ingredients : List Value → Option Ingredients}

/-- Whatever values are enough for a component, it is made from them. -/
theorem exists_of_making {made? : Option Ingredients} {common : List Value}
    {listener answer : Value}
    (h : (match made?, common with
      | some ingredients, [id, x, y, labelWidth, labelHeight] => do
        let recipe : Recipe := {
          id := id
          x := x
          y := y
          labelWidth := labelWidth
          labelHeight := labelHeight
          listener := listener
          ingredients := ingredients }
        return .object (← create recipe)
      | _, _ => throw .wrongType : Action Value) around s = .ok answer t) :
    ∃ (recipe : Recipe) (r : Ref), made? = some recipe.ingredients ∧
      common = [recipe.id, recipe.x, recipe.y, recipe.labelWidth, recipe.labelHeight] ∧
      recipe.listener = listener ∧ answer = .object r ∧ create recipe around s = .ok r t := by
  split at h
  · obtain ⟨r, u, created, answered⟩ := exists_of_bind_apply h
    cases answered
    exact ⟨_, r, rfl, rfl, rfl, rfl, created⟩
  · cases h

/-- A component that a call asks for is made of a recipe. -/
theorem exists_of_construct {heard : Bool} {answer : Value}
    (hkind : ingredients? kind = some (parameters, ingredients)) (hrow : call.inRow = [])
    (h : construct kind heard call around s = .ok answer t) :
    ∃ (recipe : Recipe) (r : Ref), recipe.IsOf call parameters ingredients ∧
      recipe.listener = s.listener heard ∧ answer = .object r ∧
      create recipe around (s.listening heard) = .ok r t := by
  rw [construct, hkind] at h
  obtain ⟨values, u, bound, listening⟩ := exists_of_bind_apply h
  obtain ⟨valued, rfl⟩ := lift_eq_ok bound
  have known := Signature.isNamed_of_bind rfl valued
  have named := Signature.named_of_bind rfl rfl hrow valued
  have own := List.forall₂_take parameters.length named
  have common := List.forall₂_drop parameters.length named
  rw [List.take_left' rfl] at own
  rw [List.drop_left' rfl] at common
  cases heard with
  | true =>
    obtain ⟨q, w, added, adding⟩ := exists_of_bind_apply listening
    cases added
    obtain ⟨listener, w, heeded, making⟩ := exists_of_bind_apply adding
    cases heeded
    obtain ⟨recipe, r, enough, rest, told, answered, created⟩ := exists_of_making making
    exact ⟨recipe, r, ⟨⟨_, own, enough⟩, rest ▸ common, known⟩, told, answered, created⟩
  | false =>
    obtain ⟨listener, w, heeded, making⟩ := exists_of_bind_apply listening
    cases heeded
    obtain ⟨recipe, r, enough, rest, told, answered, created⟩ := exists_of_making making
    exact ⟨recipe, r, ⟨⟨_, own, enough⟩, rest ▸ common, known⟩, told, answered, created⟩

open Signature

variable {call : Call} {kind : String} {parameters : List Parameter}
  {ingredients : List Value → Option Ingredients} {vs vs' : List Value} {made made' : Ingredients}

/-- What is assigned when a component is made are the values that its checked attributes are given
by name, and defaults where there are none. The size of a ready-made instruction is not assigned. -/
theorem given_of_ingredients (hkind : ingredients? kind = some (parameters, ingredients))
    (named : List.Forall₂ (fun p v => Signature.named call p = .ok v) parameters vs)
    (hmade : ingredients vs = some made) {d : Directory} {a : Attribute}
    (ha : ((made.initialKind d).form? a).isSome = true) (hsize : a ≠ .size) :
    a.given made.assignments = [(call.keyword? a).getD a.default] := by
  have value {p : Parameter} {v : Value} (h : Signature.named call p = .ok v)
      (hname : p.name = a.name) (hgiving : p.giving ≠ .inRow)
      (hdefault : p.default? = some a.default) : [v] = [(call.keyword? a).getD a.default] := by
    rw [Signature.named_of_default hname hgiving hdefault] at h
    rw [Except.ok.inj h]
  unfold ingredients? at hkind
  split at hkind <;> cases hkind <;> dsimp only at hmade <;> split at hmade <;> cases hmade
  · cases a with
    | size => exact absurd rfl hsize
    | _ => cases ha
  · simp only [List.forall₂_cons] at named
    obtain ⟨content, fontSize, -⟩ := named
    cases a with
    | content => exact value content rfl (by decide) rfl
    | fontSize => exact value fontSize rfl (by decide) rfl
    | _ => cases ha
  · simp only [List.forall₂_cons] at named
    obtain ⟨-, moduleWidth, barHeight, placement, -, mode, orientation, -⟩ := named
    cases a with
    | moduleWidth => exact value moduleWidth rfl (by decide) rfl
    | barHeight => exact value barHeight rfl (by decide) rfl
    | placement => exact value placement rfl (by decide) rfl
    | mode => exact value mode rfl (by decide) rfl
    | orientation => exact value orientation rfl (by decide) rfl
    | _ => cases ha
  all_goals
    simp only [shapeParameters, List.cons_append, List.nil_append, List.forall₂_cons] at named
    obtain ⟨width, height, thickness, color, further⟩ := named
    cases a with
    | width => exact value width rfl (by decide) rfl
    | height => exact value height rfl (by decide) rfl
    | thickness => exact value thickness rfl (by decide) rfl
    | color => exact value color rfl (by decide) rfl
    -- a radius or a slant, which not every figure has
    | cornerRadius | slant => first | exact value further.1 rfl (by decide) rfl | cases ha
    | _ => cases ha

/-- No component is made with a size. -/
theorem name_ne_size (hkind : ingredients? kind = some (parameters, ingredients)) :
    ∀ p ∈ parameters ++ commonParameters, p.name ≠ Attribute.name .size := by
  unfold ingredients? at hkind
  split at hkind <;> cases hkind <;> decide

/-- What is taken as it is does not depend on the values for checked attributes. -/
theorem initial_of_unchecked (hkind : ingredients? kind = some (parameters, ingredients))
    (named : List.Forall₂ (fun p v => Signature.named call p = .ok v) parameters vs)
    (named' : List.Forall₂ (fun p v => Signature.named call.unchecked p = .ok v) parameters vs')
    (hmade : ingredients vs = some made) (hmade' : ingredients vs' = some made') (d : Directory) :
    made.initialKind d = made'.initialKind d ∧ made.instruction d = made'.instruction d := by
  unfold ingredients? at hkind
  split at hkind <;> cases hkind <;> dsimp only at hmade hmade' <;> split at hmade <;>
    cases hmade <;> split at hmade' <;> cases hmade'
  · simp only [List.forall₂_cons] at named named'
    obtain rfl := eq_of_unchecked named.1 named'.1 (by decide)
    exact ⟨rfl, rfl⟩
  · simp only [List.forall₂_cons] at named named'
    obtain rfl := eq_of_unchecked named.2.2.1 named'.2.2.1 (by decide)
    exact ⟨rfl, rfl⟩
  · simp only [List.forall₂_cons] at named named'
    obtain rfl := eq_of_unchecked named.1 named'.1 (by decide)
    obtain rfl := eq_of_unchecked named.2.2.2.2.1 named'.2.2.2.2.1 (by decide)
    exact ⟨rfl, rfl⟩
  all_goals exact ⟨rfl, rfl⟩

end Action

namespace Ingredients

/-- Only attributes that the kind has are assigned, and the size of a ready-made instruction is none
of them. -/
theorem isSome_of_mem (made : Ingredients) (d : Directory) :
    ∀ e ∈ made.assignments, ((made.initialKind d).form? e.1).isSome = true := by
  cases made <;> simp only [assignments, List.forall_mem_cons, List.not_mem_nil, false_implies,
    implies_true, and_true] <;> repeat' constructor

end Ingredients

namespace Recipe.IsOf

open Zpl.Action Signature

variable {call : Call} {kind : String} {parameters : List Parameter}
  {ingredients : List Value → Option Ingredients} {recipe recipe' : Recipe}

section

variable (hkind : ingredients? kind = some (parameters, ingredients))

include hkind

/-- An attribute is assigned the value that it is given by its name, or its default; or there is no
such value, and nothing is assigned to it. -/
theorem given (h : recipe.IsOf call parameters ingredients) {d : Directory} {a : Attribute}
    (ha : ((recipe.ingredients.initialKind d).form? a).isSome = true) :
    a.given recipe.ingredients.assignments = [(call.keyword? a).getD a.default] ∨
      a.given recipe.ingredients.assignments = [] ∧ call.keyword? a = none := by
  obtain ⟨vs, named, hmade⟩ := h.own
  by_cases hsize : a = .size
  · subst hsize
    refine .inr ⟨?_, ?_⟩
    · cases hing : recipe.ingredients with
      | raw instruction => rfl
      | _ =>
        rw [hing] at ha
        cases ha
    · rw [Call.keyword?, Option.map_eq_none_iff, List.find?_eq_none]
      intro e he sized
      obtain ⟨p, hp, named⟩ := h.known e he
      have name : Text.ofString p.name = e.1 := beq_iff_eq.1 (Bool.and_eq_true_iff.1 named).2
      rw [← name, beq_iff_eq] at sized
      refine name_ne_size hkind p hp ?_
      exact String.toList_inj.1 (Text.ofChars_injective sized.symm)
  · exact .inl (given_of_ingredients hkind named hmade ha hsize)

/-- Before anything is assigned, a component does not depend on the values for checked
attributes. -/
theorem blank_eq (h : recipe.IsOf call parameters ingredients)
    (h' : recipe'.IsOf call.unchecked parameters ingredients)
    (hlistener : recipe.listener = recipe'.listener) (d : Directory) :
    recipe.blank d = recipe'.blank d := by
  obtain ⟨vs, named, hmade⟩ := h.own
  obtain ⟨vs', named', hmade'⟩ := h'.own
  obtain ⟨initial, instruction⟩ := initial_of_unchecked hkind named named' hmade hmade' d
  have common := h.common
  have common' := h'.common
  simp only [commonParameters, List.forall₂_cons] at common common'
  obtain ⟨id, x, y, width, height, -⟩ := common
  obtain ⟨id', x', y', width', height', -⟩ := common'
  have hid := eq_of_unchecked id id' (by decide)
  have hx := eq_of_unchecked x x' (by decide)
  have hy := eq_of_unchecked y y' (by decide)
  have hwidth := eq_of_unchecked width width' (by decide)
  have hheight := eq_of_unchecked height height' (by decide)
  simp only [Recipe.blank, hid, hx, hy, hwidth, hheight, hlistener, initial, instruction]

end

end Recipe.IsOf

namespace Action

open Edit

variable {around around' : Surroundings} {s t u : Store} {call : Call} {kind : String}
  {heard : Bool} {q r : Ref}

theorem blank_kind {d : Directory} {recipe : Recipe} {c : Component}
    (h : recipe.blank d = .ok c) : c.kind = recipe.ingredients.initialKind d := by
  obtain ⟨x, -, h⟩ := exists_of_bind_eq_ok h
  obtain ⟨y, -, h⟩ := exists_of_bind_eq_ok h
  obtain ⟨width, -, h⟩ := exists_of_bind_eq_ok h
  obtain ⟨height, -, h⟩ := exists_of_bind_eq_ok h
  cases h
  rfl

/-- A component that is made with values for checked attributes is the one that is made without
them, and is then assigned the values, and defaults where there are none. -/
theorem assigns_of_construct (hkind : (ingredients? kind).isSome = true) (hrow : call.inRow = [])
    (bare : construct kind heard call.unchecked around s = .ok (.object r) t)
    (full : construct kind heard call around' s = .ok (.object q) u) :
    q = r ∧ ∃ c entries, t.component? r = some c ∧ c.kind.rest = c.kind ∧ Assigns r t entries u ∧
      (∀ e ∈ entries, (c.kind.form? e.1).isSome = true) ∧
      ∀ a : Attribute, (c.kind.form? a).isSome = true →
        a.given entries = [(call.keyword? a).getD a.default] ∨
          a.given entries = [] ∧ call.keyword? a = none := by
  obtain ⟨⟨parameters, ingredients⟩, hkind⟩ := Option.isSome_iff_exists.1 hkind
  have hrow' : call.unchecked.inRow = [] := hrow
  obtain ⟨recipe', r', without, told', answered', created'⟩ := exists_of_construct hkind hrow' bare
  obtain ⟨recipe, q', of, told, answered, created⟩ := exists_of_construct hkind hrow full
  cases answered'
  cases answered
  obtain ⟨c', blank', rfl, assigned'⟩ := exists_of_create created'
  obtain ⟨c, blank, rfl, assigned⟩ := exists_of_create created
  rw [of.blank_eq hkind without (told.trans told'.symm), blank'] at blank
  cases blank
  have there := Store.component?_plus (s.listening heard) c'
  have initial' := blank_kind blank'
  rw [← of.blank_eq hkind without (told.trans told'.symm)] at blank'
  have initial := blank_kind blank'
  have start : c'.kind.rest = c'.kind := by
    rw [initial]
    exact recipe.ingredients.rest_initialKind _
  have defaults : ∀ e ∈ recipe'.ingredients.assignments,
      (c'.kind.form? e.1).isSome = true ∧ e.2 = e.1.default := by
    intro e he
    have present := recipe'.ingredients.isSome_of_mem (s.listening heard).directory e he
    have mem := Attribute.mem_given he
    refine ⟨initial' ▸ present, ?_⟩
    rcases without.given hkind present with given | ⟨given, -⟩ <;> rw [given] at mem
    · rw [List.mem_singleton.1 mem, Call.keyword?_unchecked]
      rfl
    · cases mem
  obtain rfl := assigned'.eq_of_default there start defaults
  refine ⟨rfl, c', _, there, start, assigned, fun e he => ?_, fun a ha => ?_⟩
  · rw [initial]
    exact recipe.ingredients.isSome_of_mem _ e he
  · rw [initial] at ha
    exact of.given hkind ha

end Action

end Zpl
