import Zpl.Proofs.Spelling
import Zpl.Proofs.Value.Plain

/-!
# Drawing a component

A component that shows no objects and has at most a shape behind it is drawn in layers: the shape,
and the component by itself. What generating its instruction comes to can be read off the layers,
and these do not depend on what was generated before. So it makes no difference which other
components were generated meanwhile, even if one of them is the shape.

## Main definitions

* `Store.layers` — what a component is drawn of, from the back to the front.
* `Store.IsDrawable` — the components that are drawn in this way.
* `Store.instructionOf` — the instruction that a component gets when it is generated.
* `Action.Generates` — what it is to generate the instruction of a component.

## Main results

* `Store.Reprinted.layers`, `Store.Reprinted.isDrawable` — other instructions leave this as it is.
* `Writing.generate_generates` — generating a drawable component does what it should.
-/

namespace Zpl

/-! ### Layers -/

namespace Component

/-- A component by itself, without what was generated for it. -/
def bare (c : Component) : Component :=
  match c.kind with
  | .raw _ => c
  | .barcode b =>
    { c with instruction := .text [], kind := .barcode { b with background := .none } }
  | _ => { c with instruction := .text [] }

/-- The instruction of a component by itself. -/
def line (c : Component) : Except Fault Value :=
  match c.kind with
  | .raw _ => .ok c.instruction
  | _ => do
    let t ← c.rendered .plain
    return .text t

theorem bare_instruction {c : Component} (h : c.kind.isRaw = false) (v : Value) :
    ({ c with instruction := v } : Component).bare = c.bare := by
  cases hk : c.kind <;> simp_all [bare, Kind.isRaw]

theorem isPlain_bare {c : Component} (h : c.IsPlain) : c.bare.IsPlain := by
  cases hk : c.kind <;> simp_all [bare, IsPlain]

@[simp] theorem bare_bare (c : Component) : c.bare.bare = c.bare := by
  cases hk : c.kind <;> simp_all [bare]

theorem rendered_bare (c : Component) : c.bare.rendered .plain = c.rendered Scribe.plain := by
  obtain ⟨id, x, y, width, height, alignment, instruction, listener, kind⟩ := c
  cases kind <;> rfl

@[simp] theorem isRaw_bare (c : Component) : c.bare.kind.isRaw = c.kind.isRaw := by
  cases hk : c.kind <;> simp_all [bare, Kind.isRaw]

/-- The background of a barcode is no part of its own instruction. -/
@[simp] theorem line_bare (c : Component) : c.bare.line = c.line := by
  obtain ⟨id, x, y, width, height, alignment, instruction, listener, kind⟩ := c
  cases kind <;> rfl

/-- What lies behind a component, if it is a barcode with a background. -/
def background? (c : Component) : Option Ref :=
  match c.kind with
  | .barcode { background := .object q, .. } => some q
  | _ => none

theorem background?_of_kind {c : Component} {b : Barcode} {q : Ref} (hk : c.kind = .barcode b)
    (hb : b.background = .object q) : c.background? = some q := by
  obtain ⟨data, width, height, placement, given, check, mode, orientation, background⟩ := b
  obtain rfl : background = .object q := hb
  simp only [background?, hk]

theorem background?_eq_none {c : Component} (h : ∀ b, c.kind = .barcode b → b.background = .none) :
    c.background? = none := by
  unfold background?
  split
  · rename_i hk
    simpa using h _ hk
  · rfl

theorem line_of_kind {c : Component} (h : c.kind.isRaw = false) :
    c.line = (do
      let t ← c.rendered .plain
      return .text t) := by
  cases hk : c.kind <;> simp_all [line, Kind.isRaw]

end Component

namespace Store

/-- What a component is drawn of, from the back to the front. -/
def layers (s : Store) (r : Ref) : List Component :=
  match s.component? r with
  | none => []
  | some c => ((c.background?.bind s.component?).map Component.bare).toList ++ [c.bare]

/-- A component that shows no objects, with no more than a shape behind it. -/
inductive IsDrawable (s : Store) (r : Ref) : Prop where
  | alone {c : Component} (there : s.component? r = some c) (plain : c.IsPlain)
      (nothing : ∀ b, c.kind = .barcode b → b.background = .none)
  | backed {c d : Component} {b : Barcode} {q : Ref} {form : Shape}
      (there : s.component? r = some c) (plain : c.IsPlain) (kind : c.kind = .barcode b)
      (behind : b.background = .object q)
      (present : s.component? q = some d) (plainBehind : d.IsPlain) (shape : d.kind = .shape form)

theorem layers_alone {s : Store} {r : Ref} {c : Component} (there : s.component? r = some c)
    (nothing : c.background? = none) : s.layers r = [c.bare] := by
  simp [layers, there, nothing]

theorem layers_backed {s : Store} {r q : Ref} {c d : Component} (there : s.component? r = some c)
    (behind : c.background? = some q) (present : s.component? q = some d) :
    s.layers r = [d.bare, c.bare] := by
  simp [layers, there, behind, present]

/-- The instruction of layers, each on a line of its own. -/
def stacked : List Component → Except Fault Value
  | [c] => c.line
  | cs => do
    let lines ← cs.mapM Component.line
    let texts ← lines.mapM Writing.textOf
    return .text (Text.join "\n" texts)

theorem stacked_pair {c d : Component} (hd : d.kind.isRaw = false) (hc : c.kind.isRaw = false) :
    stacked [d, c] = (do
      let t ← d.rendered .plain
      let u ← c.rendered .plain
      return .text (Text.join "\n" [t, u])) := by
  simp only [stacked, List.mapM_cons, List.mapM_nil, Component.line_of_kind hd,
    Component.line_of_kind hc]
  cases d.rendered .plain <;> cases c.rendered .plain <;> rfl

/-- The instruction that a component gets when it is generated. -/
def instructionOf (s : Store) (r : Ref) : Except Fault Value := stacked (s.layers r)

/-- A component by itself gets its own line. -/
theorem instructionOf_alone {s : Store} {r : Ref} {c : Component} (there : s.component? r = some c)
    (nothing : c.background? = none) : s.instructionOf r = c.line := by
  rw [instructionOf, layers_alone there nothing]
  exact c.line_bare

/-- A component with another one behind it gets two lines. -/
theorem instructionOf_backed {s : Store} {r q : Ref} {c d : Component}
    (there : s.component? r = some c) (behind : c.background? = some q)
    (present : s.component? q = some d) (hd : d.kind.isRaw = false) (hc : c.kind.isRaw = false) :
    s.instructionOf r = (do
      let t ← d.rendered .plain
      let u ← c.rendered .plain
      return .text (Text.join "\n" [t, u])) := by
  rw [instructionOf, layers_backed there behind present, stacked_pair]
  · simp only [Component.rendered_bare]
  · simpa [Component.isRaw_bare] using hd
  · simpa [Component.isRaw_bare] using hc

namespace Reprinted

variable {touched : Ref → Prop} {s t : Store}

theorem map_bare (h : s.Reprinted touched t) (r : Ref) :
    (t.component? r).map Component.bare = (s.component? r).map Component.bare := by
  rcases h.things r with hr | ⟨-, c, v, hs, hraw, ht⟩
  · simp only [Store.component?, hr]
  · simp [Store.component?, hs, ht, Component.bare_instruction hraw]

/-- What a component is drawn of does not depend on other instructions. -/
theorem layers (h : s.Reprinted touched t) (r : Ref) : t.layers r = s.layers r := by
  have own := h.map_bare r
  cases hs : s.component? r with
  | none =>
    rw [hs, Option.map_none, Option.map_eq_none_iff] at own
    simp only [Store.layers, hs, own]
  | some c =>
    obtain ⟨v, ht, -⟩ := h.component? hs
    rw [hs, ht, Option.map_some, Option.map_some, Option.some.injEq] at own
    simp only [Store.layers, hs, ht, own]
    have same : ({ c with instruction := v } : Component).background? = c.background? := rfl
    rw [same]
    cases c.background? with
    | none => rfl
    | some q => rw [Option.bind_some, Option.bind_some, h.map_bare]

/-- What can be drawn can be drawn whatever was generated before. -/
theorem isDrawable (h : s.Reprinted touched t) {r : Ref} (hr : s.IsDrawable r) :
    t.IsDrawable r := by
  cases hr with
  | alone there plain nothing =>
    obtain ⟨v, ht, -⟩ := h.component? there
    exact .alone ht plain nothing
  | backed there plain kind behind present plainBehind shape =>
    obtain ⟨v, ht, -⟩ := h.component? there
    obtain ⟨w, hq, -⟩ := h.component? present
    exact .backed ht plain kind behind hq plainBehind shape

theorem instructionOf (h : s.Reprinted touched t) (r : Ref) :
    t.instructionOf r = s.instructionOf r := by
  rw [Store.instructionOf, Store.instructionOf, h.layers]

end Reprinted

end Store

/-! ### Generating -/

namespace Action

/-- An action generates the instruction of a component: it changes the instructions of what is
touched at most, and unless it fails the component has its instruction afterwards. -/
structure Generates (x : Action Unit) (around : Surroundings) (s : Store) (touched : Ref → Prop)
    (r : Ref) : Prop where
  changes : s.Regenerated touched (x.after around s)
  outcome : x.outcome around s = (s.instructionOf r).map fun _ => ()
  instruction : ∀ v, s.instructionOf r = .ok v →
    ∃ c, (x.after around s).component? r = some c ∧ c.instruction = v

variable {around : Surroundings} {s : Store} {r : Ref}

theorem Generates.congr {x y : Action Unit} {touched : Ref → Prop}
    (h : y.Generates around s touched r) (hxy : x around s = y around s) :
    x.Generates around s touched r := by
  have houtcome := outcome_congr hxy
  have hafter := after_congr hxy
  exact ⟨hafter ▸ h.changes, houtcome ▸ h.outcome, hafter ▸ h.instruction⟩

theorem Generates.mono {x : Action Unit} {touched touched' : Ref → Prop}
    (h : x.Generates around s touched r) (hle : ∀ q, touched q → touched' q) :
    x.Generates around s touched' r :=
  ⟨h.changes.mono hle, h.outcome, h.instruction⟩

/-- Something may be generated first, as long as no fault of it is one too many. -/
theorem Generates.bind {α : Type} {y : Action α} {f : α → Action Unit} {touched : Ref → Prop}
    (hy : s.Regenerated touched (y.after around s))
    (herror : ∀ fault, y.outcome around s = .error fault → s.instructionOf r = .error fault)
    (hok : ∀ a, y.outcome around s = .ok a →
      (f a).Generates around (y.after around s) touched r) :
    (y >>= f).Generates around s touched r := by
  cases ha : y.outcome around s with
  | error fault =>
    have he := herror fault ha
    refine ⟨?_, ?_, by simp [he]⟩
    · rw [after_bind, ha]
      exact hy
    · rw [outcome_bind, ha, he]
      rfl
  | ok a =>
    have hf := hok a ha
    have same := hy.toReprinted.instructionOf r
    refine ⟨?_, ?_, fun v hv => ?_⟩
    · rw [after_bind, ha]
      exact hy.trans hf.changes
    · rw [outcome_bind, ha, ← same]
      exact hf.outcome
    · rw [after_bind, ha]
      exact hf.instruction v (same.trans hv)

/-- The instruction of a component is read as it stands. -/
theorem outcome_read {c : Component} (h : s.component? r = some c) (around : Surroundings) :
    (read (.object r) "instruction").outcome around s = .ok c.instruction := by
  have found : s.attribute? r "instruction" = some (.ok c.instruction) := by
    rw [Store.component?_eq_some_iff] at h
    simp only [Store.attribute?, h]
    rfl
  simp only [read, outcome_bind, outcome_get, after_get, found]
  rfl

theorem after_read (v : Value) (name : String) (around : Surroundings) (s : Store) :
    (read v name).after around s = s := by
  unfold read
  split
  · simp only [after_bind, outcome_get, after_get]
    split
    · exact after_lift _ around s
    · rfl
  · rfl

end Action

namespace Writing

open Zpl.Action

variable {around : Surroundings} {s : Store} {r : Ref} {touched : Ref → Prop} {w : Writing}

theorem generateFor_generates (hs : s.IsGenuine) {c : Component} (hc : s.component? r = some c)
    (h : (w.generate r).Generates around s touched r) :
    (w.generateFor (.object r)).Generates around s touched r := by
  have name : "generate_instruction" ∈ Store.calledNames := by decide
  unfold generateFor
  constructor
  · rw [after_dispatchUnitOn hs name hc]
    exact h.changes
  · rw [outcome_dispatchUnitOn hs name hc]
    exact h.outcome
  · rw [after_dispatchUnitOn hs name hc]
    exact h.instruction

/-- Generates an instruction, and reads it. -/
def generated (w : Writing) (v : Value) : Action Value := do
  w.generateFor v
  read v "instruction"

theorem outcome_generated (h : (w.generateFor (.object r)).Generates around s touched r) :
    (w.generated (.object r)).outcome around s = s.instructionOf r := by
  rw [generated, outcome_bind, h.outcome]
  cases he : s.instructionOf r with
  | error fault => rfl
  | ok v =>
    obtain ⟨c, hc, rfl⟩ := h.instruction v he
    exact outcome_read hc around

theorem after_generated (w : Writing) (v : Value) (around : Surroundings) (s : Store) :
    (w.generated v).after around s = (w.generateFor v).after around s := by
  rw [generated, after_bind]
  split
  · exact after_read _ _ _ _
  · rfl

theorem generateBehind_object (w : Writing) (r : Ref) :
    w.generateBehind (.object r) = w.generated (.object r) >>= fun v => pure [v] := by
  rw [generated, bind_assoc]
  rfl

theorem outcome_generateBehind (h : (w.generateFor (.object r)).Generates around s touched r) :
    (w.generateBehind (.object r)).outcome around s = (s.instructionOf r).map fun v => [v] := by
  rw [generateBehind_object, outcome_bind, outcome_generated h]
  cases s.instructionOf r <;> rfl

theorem after_generateBehind (w : Writing) (r : Ref) (around : Surroundings) (s : Store) :
    (w.generateBehind (.object r)).after around s = (w.generateFor (.object r)).after around s := by
  rw [generateBehind_object, after_bind, after_generated]
  split <;> rfl

/-- Rendering a plain component is a step that leaves the store as it is. -/
theorem render_apply (w : Writing) {α : Type} {c : Component} (hc : s.component? r = some c)
    (plain : c.IsPlain) (hraw : c.kind.isRaw = false) (f : Text → Action α) :
    (component r >>= fun c => w.scribe >>= fun sc => c.rendered sc >>= f) around s =
      (liftM (c.rendered .plain) >>= f : Action α) around s := by
  have rendered (sc : Scribe Action) : c.rendered sc = liftM (c.rendered .plain) :=
    c.rendered_eq sc plain fun size hk => by simp [hk, Kind.isRaw] at hraw
  rw [bind_apply, component_eq_ok hc]
  dsimp only
  rw [bind_apply]
  simp only [scribe, bind_apply, get_apply, pure_apply, rendered]

/-- What is left of generating a barcode once it is known what lies behind it. -/
def generateOver (w : Writing) (r : Ref) (behind : List Value) : Action Unit := do
  let bars ← (← component r).rendered (← w.scribe)
  let lines ← behind.mapM fun line => (textOf line : Except Fault Text)
  modifyComponent r fun c => { c with instruction := .text (Text.join "\n" (lines ++ [bars])) }

theorem mapM_textOf (ts : List Text) : (ts.map Value.text).mapM textOf = .ok ts := by
  induction ts with
  | nil => rfl
  | cons t ts ih =>
    rw [List.map_cons, List.mapM_cons, ih]
    rfl

theorem generateOver_apply (w : Writing) {c : Component} (hc : s.component? r = some c)
    (plain : c.IsPlain) (hraw : c.kind.isRaw = false) (ts : List Text) :
    w.generateOver r (ts.map .text) around s =
      (liftM ((c.rendered .plain).map fun bars => Text.join "\n" (ts ++ [bars])) >>= fun t =>
        modifyComponent r fun c => { c with instruction := .text t } : Action Unit) around s := by
  rw [generateOver, render_apply w hc plain hraw]
  simp only [mapM_lift, mapM_textOf]
  cases c.rendered .plain <;> rfl

/-- Putting a text that may be at fault in the place of an instruction. -/
theorem replace_generates {x : Action Unit} {c : Component} (hc : s.component? r = some c)
    (hraw : c.kind.isRaw = false) (e : Except Fault Text)
    (he : s.instructionOf r = e.map .text)
    (hx : x around s = (liftM e >>= fun t =>
      modifyComponent r fun c => { c with instruction := .text t } : Action Unit) around s) :
    x.Generates around s (· = r) r := by
  have hlt := Store.lt_length_of_component? hc
  cases e with
  | error fault =>
    have hx : x around s = .error fault s := hx
    refine ⟨?_, ?_, by simp [he, Except.map]⟩
    · rw [after, hx]
      exact .refl _ s
    · rw [outcome, hx, he]
      rfl
  | ok t =>
    have hx : x around s =
        modifyComponent r (fun c => { c with instruction := .text t }) around s := hx
    rw [modifyComponent_eq_ok hc] at hx
    refine ⟨?_, ?_, fun v hv => ?_⟩
    · rw [after, hx]
      refine .put_instruction hc hraw ?_ _
      rfl
    · rw [outcome, hx, he]
      rfl
    · obtain rfl : Value.text t = v := by simpa [he, Except.map] using hv
      rw [after, hx]
      exact ⟨_, Store.component?_put_self hlt _, rfl⟩

/-- A component that is drawn alone needs no other one. -/
theorem generateComponent_alone (w : Writing) {c : Component} (hc : s.component? r = some c)
    (plain : c.IsPlain) (nothing : ∀ b, c.kind = .barcode b → b.background = .none) :
    (w.generateComponent r).Generates around s (· = r) r := by
  have instruction := Store.instructionOf_alone hc (Component.background?_eq_none nothing)
  cases hraw : c.kind.isRaw with
  | true =>
    obtain ⟨size, hk⟩ : ∃ size, c.kind = .raw size := by
      cases hk : c.kind <;> simp_all [Kind.isRaw]
    have stays : (w.generateComponent r) around s = .ok () s := by
      simp only [generateComponent, bind_apply, component_eq_ok hc, hk]
      rfl
    have line : c.line = .ok c.instruction := by simp only [Component.line, hk]
    refine ⟨?_, ?_, fun v hv => ?_⟩
    · rw [after, stays]
      exact .refl _ s
    · rw [outcome, stays, instruction, line]
      rfl
    · obtain rfl : c.instruction = v := by simpa [instruction, line] using hv
      rw [after, stays]
      exact ⟨c, hc, rfl⟩
  | false =>
    refine replace_generates hc hraw (c.rendered .plain) ?_ ?_
    · rw [instruction, Component.line_of_kind hraw]
      cases c.rendered .plain <;> rfl
    · rw [← render_apply w hc plain hraw]
      simp only [generateComponent]
      rw [bind_apply, component_eq_ok hc]
      dsimp only
      cases hk : c.kind with
      | raw size => simp [hk, Kind.isRaw] at hraw
      | barcode b =>
        simp only [nothing b hk, generateBehind, pure_bind, List.mapM_nil, List.nil_append,
          Text.join_singleton]
      | _ => rfl

/-- The background of a barcode is generated first. -/
theorem generateComponent_backed (w : Writing) (hs : s.IsGenuine) {c d : Component} {b : Barcode}
    {q : Ref} {form : Shape} (there : s.component? r = some c) (plain : c.IsPlain)
    (kind : c.kind = .barcode b) (behind : b.background = .object q)
    (present : s.component? q = some d) (shape : d.kind = .shape form)
    (hw : (w.generate q).Generates around s (· = q) q) :
    (w.generateComponent r).Generates around s (fun p => p = r ∨ p = q) r := by
  have hraw : c.kind.isRaw = false := by simp [kind, Kind.isRaw]
  have hraw' : d.kind.isRaw = false := by simp [shape, Kind.isRaw]
  have nothing : d.background? = none := Component.background?_eq_none (by simp [shape])
  have instructionBehind : s.instructionOf q = (d.rendered .plain).map .text :=
    (Store.instructionOf_alone present nothing).trans (Component.line_of_kind hraw')
  have instruction := Store.instructionOf_backed there (Component.background?_of_kind kind behind)
    present hraw' hraw
  have split : w.generateComponent r around s =
      (w.generateBehind (.object q) >>= w.generateOver r) around s := by
    rw [generateComponent, bind_apply, component_eq_ok there]
    simp only [kind, behind]
    rfl
  have hq := generateFor_generates hs present hw
  have changes : s.Regenerated (· = q) ((w.generateBehind (.object q)).after around s) := by
    rw [after_generateBehind]
    exact hq.changes
  refine .congr (.bind (changes.mono fun _ => .inr) (fun fault hfault => ?_) fun lines hok => ?_)
    split
  · rw [outcome_generateBehind hq, instructionBehind] at hfault
    rw [instruction]
    cases hd : d.rendered .plain with
    | error fault' =>
      obtain rfl : fault' = fault := by simpa [hd, Except.map] using hfault
      rfl
    | ok t => simp [hd, Except.map] at hfault
  · rw [outcome_generateBehind hq, instructionBehind] at hok
    cases hd : d.rendered .plain with
    | error fault => simp [hd, Except.map] at hok
    | ok t =>
      obtain rfl : [.text t] = lines := by simpa [hd, Except.map] using hok
      -- The barcode is still there after its background was generated, whatever it shows by now.
      obtain ⟨v, hv, -⟩ := changes.component? there
      refine (replace_generates hv hraw
        ((c.rendered .plain).map fun u => Text.join "\n" [t, u]) ?_ ?_).mono fun _ => .inl
      · rw [changes.toReprinted.instructionOf, instruction, hd]
        cases c.rendered .plain <;> rfl
      · exact generateOver_apply w hv plain hraw [t]

/-- Objects that print each other to a depth of two generate every drawable component. What is
touched is the component, and what lies behind it. -/
theorem generate_generates (fuel : Nat) (inside : List Ref) (hs : s.IsGenuine)
    (hr : s.IsDrawable r) :
    ((within (fuel + 2) inside).generate r).Generates around s
      (fun q => q = r ∨ (s.component? r).bind (·.background?) = some q) r := by
  cases hr with
  | alone there plain nothing =>
    have generates : ((within (fuel + 2) inside).generate r).Generates around s (· = r) r :=
      generateComponent_alone (within (fuel + 1) inside) there plain nothing
    exact generates.mono fun _ => .inl
  | backed there plain kind behind present plainBehind shape =>
    have first : ((within (fuel + 1) inside).generate _).Generates around s _ _ :=
      generateComponent_alone (within fuel inside) present plainBehind (by simp [shape])
    refine (generateComponent_backed (within (fuel + 1) inside) hs there plain kind behind present
      shape first).mono fun p hp => ?_
    rw [there, Option.bind_some, Component.background?_of_kind kind behind]
    exact hp.imp_right fun h => congrArg some h.symm

end Writing

/-- Every drawable component of a store is generated. -/
theorem Action.generate_generates {around : Surroundings} {s : Store} {r : Ref} (hs : s.IsGenuine)
    (hr : s.IsDrawable r) :
    (Action.generate r).Generates around s
      (fun q => q = r ∨ (s.component? r).bind (·.background?) = some q) r := by
  obtain ⟨fuel, hfuel⟩ := s.depth_eq
  refine .congr (Writing.generate_generates fuel [] hs hr) ?_
  have reads : Action.generate r around s = (Writing.within s.depth []).generate r around s := rfl
  rw [reads, hfuel]

end Zpl
