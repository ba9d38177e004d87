import Zpl.Proofs.Component.Deed
import Zpl.Proofs.Component.Recipe
import Zpl.Proofs.Component.Steady

/-!
# The order of settings

Callers set checked attributes by assigning to them or by calling the methods that do. What comes of
a sequence of these does not depend on how settings of different attributes follow each other: an
attribute holds the last of the values that it accepted, in canonical form, and whether it accepts a
value has nothing to do with the others. Making a component is a sequence of settings as well, so a
component that is made with values is the one that is made without them and is given them later.

## Main definitions

* `Setter` — a deed of callers that sets a checked attribute.
* `Deed.Run` — deeds of callers, one after the other, of which none fails.
* `Setter.AreSteady` — what is set is shown alike whatever was set before.
* `Setter.Settles` — what setters make of a component.

## Main results

* `Store.Variant.assign`, `Store.Variant.assigns` — one assignment in any variant of a store, and a
  sequence of them.
* `Setter.AreSteady.settles` — what a run of setters comes to.
* `Setter.in_any_order` — the order of setters of different attributes makes no difference.
-/

namespace Zpl

/-! ### Assignments -/

/-- An untouched component stays as it is. -/
theorem Store.Reprinted.component?_eq {touched : Ref → Prop} {s t : Store} {r : Ref}
    {c : Component} (h : s.Reprinted touched t) (hr : ¬ touched r) (hc : s.component? r = some c) :
    t.component? r = some c := by
  obtain ⟨v, hv, kept⟩ := h.component? hc
  rwa [kept (.inr hr)] at hv

namespace Store.Variant

open Zpl.Action Edit

variable {touched : Ref → Prop} {s t u : Store} {r : Ref} {c : Component}

section

variable (hr : ¬ touched r) (hc : s.component? r = some c) (warns : s.WarnsOnly touched r)

include hr hc warns

/-- An assignment in a variant of a store leads to another variant, in which the attribute holds
what it accepts. Whether it accepts the value is known beforehand. -/
theorem assign {d : Component} {a : Attribute} {v : Value} {around : Surroundings}
    (ht : s.Variant touched r t) (hd : t.component? r = some d)
    (ha : (d.kind.form? a).isSome = true) (alike : s.ShowsAlike touched r v)
    (h : Edit.assign r a v around t = .ok () u) : s.Variant touched r u ∧
      u.component? r = some { d with kind := d.kind.accept s.accepts? a v } := by
  rw [assign_eq hd ha, ht.reader_eq] at h
  obtain ⟨verdict, judged, settled⟩ := exists_of_outcome_bind (outcome_eq_ok h)
  have accepted := ht.accepts?_of_judge alike (.refl hc) judged
  obtain ⟨_, same⟩ := a.isSteady_judge alike
  have printed := (same around t ht).2
  have left := after_eq_ok h
  rw [after_bind, judged] at left
  generalize (a.judge s.reader v).after around t = w at printed settled left
  have varied := ht.trans printed
  have there := printed.component?_eq hr hd
  dsimp only at left
  rw [Kind.accept, accepted]
  cases verdict with
  | accepted x =>
    rw [Verdict.map_accepted, settle, after_modifyComponent there] at left
    subst left
    exact ⟨varied.put hr there (Kind.rest_setForm _ _ _),
      component?_put_self (lt_length_of_component? there) _⟩
  | ignored =>
    subst left
    exact ⟨varied, there⟩
  | rejected message =>
    have noted := warns around w message varied
    subst left
    exact ⟨varied.trans noted, noted.component?_eq hr there⟩

/-- A sequence of assignments in a variant of a store: each attribute goes through the values that
it accepts. -/
theorem assigns {k : Kind} {entries : List (Attribute × Value)} (ht : s.Variant touched r t)
    (hd : t.component? r = some { c with kind := k }) (hk : k.rest = c.kind.rest)
    (known : ∀ e ∈ entries, (c.kind.form? e.1).isSome = true ∧ s.ShowsAlike touched r e.2)
    (h : Assigns r t entries u) : s.Variant touched r u ∧
      u.component? r = some { c with kind := k.settled s.accepts? entries } := by
  induction h generalizing k with
  | nil t => exact ⟨ht, hd⟩
  | cons h rest ih =>
    rw [List.forall_mem_cons] at known
    obtain ⟨⟨ha, alike⟩, known⟩ := known
    rw [← Kind.isSome_form?_of_rest hk] at ha
    obtain ⟨varied, there⟩ := ht.assign hr hc warns hd ha alike h
    exact ih varied there ((Kind.rest_accept _ _ _).trans hk) known

end

end Store.Variant

/-! ### Settings -/

/-- A deed sets a checked attribute of the component `c` in the place `r` to a value. -/
inductive Deed.Sets (s : Store) (r : Ref) (c : Component) : Deed → Attribute → Value → Prop
  /-- The value is assigned to the attribute. -/
  | write {name : String} {a : Attribute} (v : Value) (named : c.kind.validated? name = some a) :
    Sets s r c (.write r name v) a v
  /-- The method is called that sets the attribute, and nothing was put in its place. -/
  | call {name parameter : String} {a : Attribute} {given : Call} {v : Value}
    (present : (c.kind.form? a).isSome = true) (unattached : s.attached.lookup (r, name) = none)
    (offered : c.methods.find? (·.name == name) = some (Component.assigning name parameter a))
    (bound : (Signature.required [parameter]).bind given = .ok [v]) :
    Sets s r c (.call r name given) a v

/-- A deed is done without failing. -/
def Deed.Does (c : Circumstances) (s : Store) (t : Store) : Deed → Prop
  | .construct kind heard given => ∃ v, (Action.construct kind heard given).attempt c s = (.ok v, t)
  | .call r name given => ∃ v, (Action.call (.object r) name given).attempt c s = (.ok v, t)
  | .write r name v => (Action.write r name v).attempt c s = (.ok (), t)

/-- An assignment that comes to something is done. -/
theorem Deed.does_of_isSome {c : Circumstances} {s : Store} {r : Ref} {name : String} {v : Value}
    (h : ((Action.write r name v).attempt c s).1.toOption.isSome = true) :
    (Deed.write r name v).Does c s ((Deed.write r name v).leaves c s) := by
  change (Action.write r name v).attempt c s = (.ok (), ((Action.write r name v).attempt c s).2)
  generalize (Action.write r name v).attempt c s = result at h ⊢
  obtain ⟨answer, left⟩ := result
  cases answer with
  | ok _ => rfl
  | error fault => cases h

/-- Deeds of callers, one after the other, of which none fails. -/
inductive Deed.Run : Store → List Deed → Store → Prop
  | nil (s : Store) : Run s [] s
  | cons {s t u : Store} {d : Deed} {deeds : List Deed} {c : Circumstances} (done : d.Does c s t)
    (rest : Run t deeds u) : Run s (d :: deeds) u

/-- A deed of callers that sets a checked attribute. -/
structure Setter (s : Store) (r : Ref) (c : Component) where
  deed : Deed
  checked : Attribute
  value : Value
  sets : deed.Sets s r c checked value

namespace Setter

variable {s t u : Store} {r : Ref} {c : Component}

/-- The attribute that is set, and the value that it is given. -/
def entry (setter : Setter s r c) : Attribute × Value := (setter.checked, setter.value)

/-- The deeds of callers that setters are. -/
def deeds (setters : List (Setter s r c)) : List Deed := setters.map (·.deed)

/-- What setters set, in order. -/
def entries (setters : List (Setter s r c)) : List (Attribute × Value) := setters.map entry

end Setter

namespace Action

open Edit

variable {s t u : Store} {r : Ref} {c d : Component} {a : Attribute} {v : Value}

/-- What an attempt that does not fail comes to. -/
theorem eq_ok_of_attempt {α : Type} {x : Action α} {circumstances : Circumstances} {b : α}
    (h : x.attempt circumstances s = (.ok b, t)) :
    x (.within circumstances s.depth) s = .ok b t := by
  rw [attempt_eq, Prod.mk.injEq] at h
  obtain ⟨result, rfl⟩ := h
  exact eq_ok_of_outcome result

/-- Assigning to a checked attribute goes through its check. -/
theorem write_eq_assign (hc : s.component? r = some c) {name : String}
    (hname : c.kind.validated? name = some a) (v : Value) (around : Surroundings) :
    write r name v around s = assign r a v around s := by
  refine bind_eq (Writing.thing_eq_ok (Store.component?_eq_some_iff.1 hc) around) ?_
  have checked : validated? (.component c) name = some a := hname
  rw [checked]

end Action

namespace Deed

open Zpl.Action Edit

variable {touched : Ref → Prop} {s t u : Store} {r : Ref} {c d : Component} {a : Attribute}
  {v : Value} {deed : Deed}

/-- An attribute that a deed sets is one that the component has. -/
theorem Sets.isSome (h : deed.Sets s r c a v) : (c.kind.form? a).isSome = true := by
  cases h with
  | write v named => exact (Kind.validated?_eq_some_iff.1 named).1
  | call present unattached offered bound => exact present

/-- A deed that sets an attribute assigns to it, in whatever variant of the store it is done. -/
theorem Sets.assigns (h : deed.Sets s r c a v) (ht : s.Variant touched r t)
    (hd : t.component? r = some d) (hk : d.kind.rest = c.kind.rest) {circumstances : Circumstances}
    (done : deed.Does circumstances t u) : ∃ around, assign r a v around t = .ok () u := by
  cases h with
  | @write name a v named =>
    have same : d.kind.validated? name = some a := by
      rw [Kind.validated?_eq_some_iff] at named ⊢
      rwa [Kind.isSome_form?_of_rest hk]
    refine ⟨.within circumstances t.depth, ?_⟩
    rw [← write_eq_assign hd same]
    exact eq_ok_of_attempt done
  | @call name parameter a given v present unattached offered bound =>
    have same : d.methods = c.methods := by
      rw [Component.methods, Component.methods, ← d.kind.kindMethods_rest, hk,
        c.kind.kindMethods_rest]
    obtain ⟨answer, done⟩ := done
    have run : (Component.assigning name parameter a).run r [v] =
        (do assign r a v; return .none) := rfl
    rw [attempt_procedure hd (ht.attached ▸ unattached) (same ▸ offered) bound circumstances run,
      Prod.mk.injEq] at done
    obtain ⟨answered, rfl⟩ := done
    refine ⟨.inside circumstances t, eq_ok_of_outcome ?_⟩
    cases result : (assign r a v).outcome (.inside circumstances t) t with
    | ok _ => rfl
    | error fault =>
      rw [result] at answered
      cases answered

end Deed

/-- What a line of text says. -/
def Store.wording? (s : Store) (r : Ref) : Option Text :=
  (s.component? r).bind fun c => c.kind.form? .content

namespace Setter

open Zpl.Action Edit

variable {touched : Ref → Prop} {s t u : Store} {r : Ref} {c : Component}

section

variable (hr : ¬ touched r) (hc : s.component? r = some c) (warns : s.WarnsOnly touched r)

include hr hc warns

/-- A run of setters is a sequence of assignments. -/
theorem assigns {k : Kind} {setters : List (Setter s r c)}
    (alike : ∀ setter ∈ setters, s.ShowsAlike touched r setter.value)
    (ht : s.Variant touched r t) (hd : t.component? r = some { c with kind := k })
    (hk : k.rest = c.kind.rest) (h : Deed.Run t (deeds setters) u) :
    Assigns r t (entries setters) u := by
  induction setters generalizing t k with
  | nil =>
    cases h
    exact .nil _
  | cons setter setters ih =>
    rw [List.forall_mem_cons] at alike
    obtain ⟨first, alike⟩ := alike
    cases h with
    | cons done rest =>
      obtain ⟨around, assigned⟩ := setter.sets.assigns ht hd hk done
      have present : (k.form? setter.checked).isSome = true := by
        rw [Kind.isSome_form?_of_rest hk]
        exact setter.sets.isSome
      obtain ⟨varied, there⟩ := ht.assign hr hc warns hd present first assigned
      exact .cons assigned (ih alike varied there ((Kind.rest_accept _ _ _).trans hk) rest)

/-- What a run of setters leaves is a variant, in which each attribute went through the values that
it accepts. -/
theorem run {setters : List (Setter s r c)}
    (alike : ∀ setter ∈ setters, s.ShowsAlike touched r setter.value)
    (h : Deed.Run s (deeds setters) t) : s.Variant touched r t ∧
      t.component? r = some { c with kind := c.kind.settled s.accepts? (entries setters) } := by
  have start := @Store.Variant.refl touched s r c hc
  refine start.assigns hr hc warns hc rfl (fun e he => ?_)
    (assigns hr hc warns alike start hc rfl h)
  obtain ⟨setter, there, rfl⟩ := List.mem_map.1 he
  exact ⟨setter.sets.isSome, alike setter there⟩

end

/-! ### Any order -/

/-- What callers set on a component is shown alike, whatever its checked attributes are set to and
whatever is generated meanwhile, and so are its warnings. -/
structure AreSteady (setters : List (Setter s r c)) (touched : Ref → Prop) : Prop where
  there : s.component? r = some c
  untouched : ¬ touched r
  warns : s.WarnsOnly touched r
  alike : ∀ setter ∈ setters, s.ShowsAlike touched r setter.value

/-- What setters make of a component: it stays what it is apart from its checked attributes, each
of these holds the canonical form of the value that it accepted last, or what it held before if it
accepted none, and whatever was set before, a setter accepts what it would accept in the
beginning. -/
structure Settles (setters : List (Setter s r c)) (t : Store) (c' : Component) : Prop where
  there : t.component? r = some c'
  rest : ∃ k, k.rest = c.kind.rest ∧ c' = { c with kind := k }
  form : ∀ (a : Attribute) (x : a.Form), c.kind.form? a = some x →
    c'.kind.form? a = some ((a.last? s.accepts? (a.given (entries setters))).getD x)
  independent : ∀ before, before <+: setters → ∀ u, Deed.Run s (deeds before) u →
    ∀ setter ∈ setters, u.accepts? setter.checked setter.value =
      s.accepts? setter.checked setter.value

/-- What a run of steady setters comes to. -/
theorem AreSteady.settles {setters : List (Setter s r c)} (h : AreSteady setters touched)
    (ran : Deed.Run s (deeds setters) t) :
    Settles setters t { c with kind := c.kind.settled s.accepts? (entries setters) } := by
  obtain ⟨hc, hr, warns, alike⟩ := h
  have start := @Store.Variant.refl touched s r c hc
  refine ⟨(run hr hc warns alike ran).2, ⟨_, Kind.rest_settled _ _, rfl⟩, fun a x held => ?_,
    fun before prior u ran setter there => ?_⟩
  · have present : (c.kind.form? a).isSome = true := by rw [held]; rfl
    rw [Kind.form?_settled present, held]
    cases a.last? s.accepts? (a.given (entries setters)) <;> rfl
  · have varied := (run hr hc warns (fun st hst => alike st (prior.subset hst)) ran).1
    exact varied.accepts?_eq (alike setter there) start setter.checked

/-- What an attribute is given, a setter gives it. -/
theorem exists_of_mem_given {setters : List (Setter s r c)} {a : Attribute} {v : Value}
    (h : v ∈ a.given (entries setters)) : ∃ setter ∈ setters, setter.value = v := by
  obtain ⟨e, he, rfl⟩ := List.mem_map.1 h
  obtain ⟨setter, there, rfl⟩ := List.mem_map.1 (List.mem_filter.1 he).1
  exact ⟨setter, there, rfl⟩

/-- Whatever is accepted last in place of nothing, or in place of a default, an attribute holds the
same. -/
theorem last?_of_default {k : Kind} (hk : k.rest = k) {a : Attribute}
    (ha : (k.form? a).isSome = true) (s : Store) (value? : Option Value) :
    (a.last? s.accepts? [value?.getD a.default]).or (k.form? a) =
      (a.last? s.accepts? value?.toList).or (k.form? a) := by
  cases value? with
  | some v => rfl
  | none =>
    have accepted : s.accepts? a a.default = a.welcome.accepted? := by
      rw [Store.accepts?, outcome_eq_ok (a.judge_default s.reader _ s)]
    rw [Kind.form?_start hk ha]
    unfold Attribute.welcome at accepted
    split at accepted <;>
      simp only [Option.getD_none, Option.toList_none, Attribute.last?, List.filterMap_cons,
        accepted, List.filterMap_nil] <;> rfl

/-- Setters may be called in any order. Two runs of steady setters on equal components, in which
each attribute is given the same values in the same order, make the same of the components. A
component that is made with values by name is what setters make of it that give it these values, if
it is made without them. -/
theorem in_any_order {r₁ r₂ : Ref} {touched₁ touched₂ : Ref → Prop} {t₁ t₂ : Store}
    {setters₁ : List (Setter s r₁ c)} {setters₂ : List (Setter s r₂ c)}
    (steady₁ : AreSteady setters₁ touched₁) (steady₂ : AreSteady setters₂ touched₂)
    (same : ∀ a : Attribute, a.given (entries setters₁) = a.given (entries setters₂))
    (ran₁ : Deed.Run s (deeds setters₁) t₁) (ran₂ : Deed.Run s (deeds setters₂) t₂) :
    ∃ c', Settles setters₁ t₁ c' ∧ Settles setters₂ t₂ c' ∧
      ∀ (kind : String) (heard : Bool) (call : Call) (around around' : Circumstances) (s₀ t : Store)
        (q : Ref), (ingredients? kind).isSome = true → call.inRow = [] →
        (construct kind heard call.unchecked).attempt around s₀ = (.ok (.object r₁), s) →
        (construct kind heard call).attempt around' s₀ = (.ok (.object q), t) →
        (∀ a : Attribute, (c.kind.form? a).isSome = true →
          a.given (entries setters₁) = (call.keyword? a).toList) →
        q = r₁ ∧ t.component? q = some c' := by
  have alike : c.kind.settled s.accepts? (entries setters₁) =
      c.kind.settled s.accepts? (entries setters₂) :=
    Kind.settled_eq_of_last? fun a _ => by rw [same a]
  refine ⟨_, steady₁.settles ran₁, alike ▸ steady₂.settles ran₂, ?_⟩
  intro kind heard call around around' s₀ t q hkind hrow bare full given
  obtain ⟨rfl, c', made, there, start, assigned, present, values⟩ :=
    assigns_of_construct hkind hrow (eq_ok_of_attempt bare) (eq_ok_of_attempt full)
  obtain rfl := Option.some.inj (steady₁.there.symm.trans there)
  have known : ∀ e ∈ made, (c.kind.form? e.1).isSome = true ∧ s.ShowsAlike touched₁ q e.2 := by
    intro e he
    refine ⟨present e he, ?_⟩
    have mem := Attribute.mem_given he
    rcases values e.1 (present e he) with value | ⟨value, -⟩ <;> rw [value] at mem
    · rw [List.mem_singleton.1 mem]
      cases keyword : call.keyword? e.1 with
      | none => exact Store.showsAlike_of_isPlain e.1.isPlain_default
      | some v =>
        have set : v ∈ e.1.given (entries setters₁) := by
          rw [given e.1 (present e he), keyword]
          exact List.mem_singleton_self v
        obtain ⟨setter, there, rfl⟩ := exists_of_mem_given set
        exact steady₁.alike setter there
    · cases mem
  have ran := (Store.Variant.refl there).assigns steady₁.untouched there steady₁.warns there rfl
    known assigned
  refine ⟨rfl, ran.2.trans ?_⟩
  rw [Kind.settled_eq_of_last? fun a ha => ?_]
  rcases values a ha with value | ⟨value, nothing⟩
  · rw [value, given a ha, last?_of_default start ha]
  · rw [value, given a ha, nothing]
    rfl

/-- A rectangle that is made with a width and a color is the one that is made without them and is
given them later, the color first or the width first. -/
theorem in_any_order_rectangle :
    let c : Component := { kind := .shape { figure := .rectangle 0 } }
    let s : Store := { things := [.component c] }
    let call : Call := { named := [("width", .int 7), ("color", "w")] }
    ∃ t₁ t₂ t c', Deed.Run s [.write 0 "width" (.int 7), .write 0 "color" "w"] t₁ ∧
      Deed.Run s [.call 0 "set_color" { inRow := ["w"] }, .write 0 "width" (.int 7)] t₂ ∧
      (construct "Rectangle" false call).attempt {} {} = (.ok (.object 0), t) ∧
      t₁.component? 0 = some c' ∧ t₂.component? 0 = some c' ∧ t.component? 0 = some c' := by
  intro c s call
  let wide : Store := { things :=
    [.component { kind := .shape { figure := .rectangle 0, width := .int 7 } }] }
  let white : Store := { things :=
    [.component { kind := .shape { figure := .rectangle 0, color := .white } }] }
  let both : Store := { things :=
    [.component { kind := .shape { figure := .rectangle 0, width := .int 7, color := .white } }] }
  let setWidth : Setter s 0 c :=
    { deed := .write 0 "width" (.int 7), checked := .width, value := .int 7, sets := .write _ rfl }
  let setColor : Setter s 0 c :=
    { deed := .write 0 "color" "w", checked := .color, value := "w", sets := .write _ rfl }
  let callColor : Setter s 0 c :=
    { deed := .call 0 "set_color" { inRow := ["w"] }, checked := .color, value := "w"
      sets := .call rfl rfl rfl rfl }
  have can : c.CanWarn s := ⟨trivial, ⟨_, rfl⟩, .inl rfl⟩
  have there : s.component? 0 = some c := rfl
  have warns : s.WarnsOnly (fun _ => False) 0 := warnsOnly_of_canWarn id there can
  have seven : s.ShowsAlike (fun _ => False) 0 (.int 7) := Store.showsAlike_of_isPlain trivial
  have letter : s.ShowsAlike (fun _ => False) 0 "w" := Store.showsAlike_of_isPlain trivial
  have steady₁ : AreSteady [setWidth, setColor] fun _ => False :=
    ⟨there, id, warns, by simpa [setWidth, setColor] using ⟨seven, letter⟩⟩
  have steady₂ : AreSteady [callColor, setWidth] fun _ => False :=
    ⟨there, id, warns, by simpa [setWidth, callColor] using ⟨letter, seven⟩⟩
  have ran₁ : Deed.Run s (deeds [setWidth, setColor]) both :=
    .cons (t := wide) (c := {}) rfl (.cons (c := {}) rfl (.nil both))
  have ran₂ : Deed.Run s (deeds [callColor, setWidth]) both :=
    .cons (t := white) (c := {}) ⟨.none, rfl⟩ (.cons (c := {}) rfl (.nil both))
  have same (a : Attribute) :
      a.given (entries [setWidth, setColor]) = a.given (entries [callColor, setWidth]) := by
    cases a <;> rfl
  have given (a : Attribute) (_ : (c.kind.form? a).isSome = true) :
      a.given (entries [setWidth, setColor]) = (call.keyword? a).toList := by
    cases a <;> rfl
  obtain ⟨c', settles₁, settles₂, made⟩ := in_any_order steady₁ steady₂ same ran₁ ran₂
  have full : (construct "Rectangle" false call).attempt {} {} = (.ok (.object 0), both) := rfl
  exact ⟨both, both, both, c', ran₁, ran₂, full, settles₁.there, settles₂.there,
    (made "Rectangle" false call {} {} {} both 0 rfl rfl rfl full given).2⟩

/-- What a line of text says in the end depends on the order of its setters. -/
def DependsOnOrder (s : Store) (c : Component) : Prop :=
  ∃ (setters₁ setters₂ : List (Setter s 0 c)) (t₁ t₂ : Store),
    (∀ a : Attribute, a.given (entries setters₁) = a.given (entries setters₂)) ∧
    Deed.Run s (deeds setters₁) t₁ ∧ Deed.Run s (deeds setters₂) t₂ ∧
    t₁.wording? 0 ≠ t₂.wording? 0

/-- It does where a text and a size can be set in either order, and the text is another one. -/
theorem dependsOnOrder_of_swap {s : Store} {c : Component} {v w : Value} {line : TextLine}
    (hk : c.kind = .text line) {t₁ t₂ u₁ u₂ : Store}
    (first₁ : (Deed.write 0 "text" v).Does {} s t₁)
    (then₁ : (Deed.write 0 "font_size" w).Does {} t₁ u₁)
    (first₂ : (Deed.write 0 "font_size" w).Does {} s t₂)
    (then₂ : (Deed.write 0 "text" v).Does {} t₂ u₂) (differ : u₁.wording? 0 ≠ u₂.wording? 0) :
    DependsOnOrder s c := by
  let setText : Setter s 0 c :=
    { deed := .write 0 "text" v, checked := .content, value := v
      sets := .write _ (by rw [hk]; rfl) }
  let setSize : Setter s 0 c :=
    { deed := .write 0 "font_size" w, checked := .fontSize, value := w
      sets := .write _ (by rw [hk]; rfl) }
  exact ⟨[setText, setSize], [setSize, setText], u₁, u₂, fun a => by cases a <;> rfl,
    .cons first₁ (.cons then₁ (.nil _)), .cons first₂ (.cons then₂ (.nil _)), differ⟩

/-- A label that a text is on is shown by what the text says, so it is another value each time that
the text is changed: a text that is given its label and then a size says something else than one
that is given the size first. The same goes for a record that takes in what a text warns of, if the
text is given the record. And positions are not checked: a component that is made at a fraction of a
dot stands at a whole one, and may be moved to the fraction later. -/
theorem in_any_order_objects :
    let c : Component := { kind := .text {} }
    let l : Label :=
      { dpi := .int 203, labelWidth := .int 203, labelHeight := .int 203, components := [0] }
    let loud : Component := { listener := .object 2, kind := .text {} }
    let noting : BoundMethod := { owner := .object 1, name := "setdefault" }
    let half : Value := .float (.finite false 5 (-1))
    let bare : Store := ((construct "Text" false {}).attempt {} {}).2
    DependsOnOrder { things := [.component c, .label l] } c ∧
    DependsOnOrder
      { things := [.component loud, .content (.record ["a"] [.int 1]), .method noting] } loud ∧
    (((construct "Text" false { named := [("x", half)] }).attempt {} {}).2.component? 0).map (·.x) =
      some (.int 2) ∧
    (((Action.write 0 "x" half).attempt {} bare).2.component? 0).map (·.x) = some half := by
  intro c l loud noting half bare
  refine ⟨?_, ?_, rfl, rfl⟩
  · exact dependsOnOrder_of_swap (v := .object 1) (w := .int 50) rfl
      (Deed.does_of_isSome (by decide +kernel)) (Deed.does_of_isSome (by decide +kernel))
      (Deed.does_of_isSome (by decide +kernel)) (Deed.does_of_isSome (by decide +kernel))
      (by decide +kernel)
  · exact dependsOnOrder_of_swap (v := .object 1) (w := "wide") rfl
      (Deed.does_of_isSome (by decide +kernel)) (Deed.does_of_isSome (by decide +kernel))
      (Deed.does_of_isSome (by decide +kernel)) (Deed.does_of_isSome (by decide +kernel))
      (by decide +kernel)

end Setter

end Zpl
