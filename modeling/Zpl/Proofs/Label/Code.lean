import Zpl.Proofs.Component.Drawing

/-!
# The code of a label

The code of a label whose components can be drawn is put together from their layers: one line after
the other, for what lies behind a barcode as for everything else. It is found without a look at
what was generated before, and generating it changes the instructions of the components and of what
lies behind them at most.

The components are generated one by one, and each may share its background with others or be listed
again. The induction is on the places that are left; what carries it is that the store differs from
the first one in instructions only, and that nothing in the equation depends on these.

## Main definitions

* `Store.touchedBy` — what generating some components touches.
* `Store.codeOf` — the code of a label, put together from layers.
* `Store.codeNoted` — the same, where the log may be strict.

## Main results

* `Writing.generateFrom_spec` — the components of a label are generated one by one.
* `Action.outcome_code`, `Action.regenerated_code` — the code of a label, and what it changes.
-/

namespace Zpl

namespace Store

/-- What generating some components touches: each of them, and what lies behind it. -/
def touchedBy (s : Store) (rs : List Ref) (q : Ref) : Prop :=
  ∃ r ∈ rs, q = r ∨ (s.component? r).bind (·.background?) = some q

theorem Reprinted.bind_background? {touched : Ref → Prop} {s t : Store}
    (h : s.Reprinted touched t) (r : Ref) :
    (t.component? r).bind (·.background?) = (s.component? r).bind (·.background?) := by
  rcases h.things r with hr | ⟨-, c, v, hs, -, ht⟩
  · simp only [Store.component?, hr]
  · simp only [Store.component?, hs, ht]
    rfl

end Store

/-! ### Lines -/

namespace Writing

/-- Instructions on lines of their own; only texts have any. -/
def joined (lines : List Value) : Except Fault Text :=
  (lines.mapM textOf).map (Text.join "\n")

@[simp] theorem joined_singleton (v : Value) : joined [v] = textOf v := by
  rw [joined, List.mapM_cons, List.mapM_nil]
  cases textOf v with
  | error fault => rfl
  | ok t => exact congrArg Except.ok (Text.join_singleton _ t)

theorem joined_cons {vs : List Value} (h : vs ≠ []) (v : Value) :
    joined (v :: vs) = (do
      let t ← textOf v
      let u ← joined vs
      return t ++ "\n" ++ u) := by
  rw [joined, joined, List.mapM_cons]
  cases textOf v with
  | error fault => rfl
  | ok t =>
    obtain ⟨w, ws, rfl⟩ := List.exists_cons_of_ne_nil h
    rw [List.mapM_cons]
    cases textOf w with
    | error fault => rfl
    | ok u =>
      cases ws.mapM textOf with
      | error fault => rfl
      | ok us => exact congrArg Except.ok (Text.join_cons_cons _ t u us)

/-- The instructions of some components and the lines of their layers, as far as there are any: they
come to the same text. -/
inductive SameLines : Except Fault (List Value) → Except Fault (List Value) → Prop where
  | fault (fault : Fault) : SameLines (.error fault) (.error fault)
  | lines {vs ls : List Value} (empty : vs = [] ↔ ls = []) (same : joined vs = joined ls) :
    SameLines (.ok vs) (.ok ls)

namespace SameLines

variable {x y : Except Fault (List Value)}

/-- One more instruction of one line. -/
theorem cons (h : SameLines x y) (v : Value) :
    SameLines (x.map fun vs => v :: vs) (y.map fun ls => v :: ls) := by
  cases h with
  | fault f => exact .fault f
  | @lines vs ls empty same =>
    refine .lines (by simp) ?_
    by_cases hv : vs = []
    · rw [hv, empty.1 hv]
    · rw [joined_cons hv, joined_cons (mt empty.2 hv), same]

/-- One more instruction of two lines. -/
theorem cons_pair (h : SameLines x y) (t u : Text) :
    SameLines (x.map fun vs => .text (Text.join "\n" [t, u]) :: vs)
      (y.map fun ls => .text t :: .text u :: ls) := by
  cases h with
  | fault f => exact .fault f
  | @lines vs ls empty same =>
    refine .lines (by simp) ?_
    rw [joined_cons (List.cons_ne_nil _ _)]
    by_cases hv : vs = []
    · rw [hv, empty.1 hv, joined_singleton, joined_singleton, Text.join_cons_cons,
        Text.join_singleton]
      rfl
    · rw [joined_cons hv, joined_cons (mt empty.2 hv), same]
      cases joined ls with
      | error fault => rfl
      | ok w => exact congrArg Except.ok (by simp)

end SameLines

end Writing

/-- What a strict log asks of a label: its size can be put into words. -/
def Label.noted (lab : Label) (isStrict : Bool) : Except Fault Unit :=
  if isStrict then do
    let _ ← Writing.wholeText lab.labelWidth
    let _ ← Writing.wholeText lab.labelHeight
    return ()
  else .ok ()

theorem Label.noted_lenient (lab : Label) : lab.noted false = .ok () := rfl

theorem Label.noted_of_size {lab : Label} {width height : Text}
    (hwidth : Writing.wholeText lab.labelWidth = .ok width)
    (hheight : Writing.wholeText lab.labelHeight = .ok height) (isStrict : Bool) :
    lab.noted isStrict = .ok () := by
  cases isStrict with
  | false => rfl
  | true =>
    rw [noted, hwidth, hheight]
    rfl

namespace Store

variable {s : Store}

/-- A component that can be drawn has one layer, or two that are generated. -/
theorem IsDrawable.layers {r : Ref} (h : s.IsDrawable r) :
    (∃ c, s.layers r = [c]) ∨
      ∃ c d, s.layers r = [d, c] ∧ d.kind.isRaw = false ∧ c.kind.isRaw = false := by
  cases h with
  | alone there plain nothing =>
    exact .inl ⟨_, layers_alone there (Component.background?_eq_none nothing)⟩
  | backed there plain kind behind present plainBehind shape =>
    refine .inr ⟨_, _, layers_backed there (Component.background?_of_kind kind behind) present,
      ?_, ?_⟩
    · rw [Component.isRaw_bare, shape]
      rfl
    · rw [Component.isRaw_bare, kind]
      rfl

theorem IsDrawable.component? {r : Ref} (h : s.IsDrawable r) : ∃ c, s.component? r = some c := by
  cases h with
  | alone there _ _ => exact ⟨_, there⟩
  | backed there _ _ _ _ _ _ => exact ⟨_, there⟩

/-- The instructions of some components come to the same text as the lines of their layers. -/
theorem sameLines {rs : List Ref} (h : ∀ r ∈ rs, s.IsDrawable r) :
    Writing.SameLines (rs.mapM s.instructionOf) ((rs.flatMap s.layers).mapM Component.line) := by
  induction rs with
  | nil => exact .lines Iff.rfl rfl
  | cons r rs ih =>
    -- With a background there is one instruction but two lines, so only the texts are compared.
    have ih := ih fun q hq => h q (List.mem_cons_of_mem r hq)
    rw [List.mapM_cons, List.flatMap_cons, List.mapM_append, instructionOf]
    rcases (h r (List.mem_cons_self ..)).layers with ⟨c, hr⟩ | ⟨c, d, hr, hd, hc⟩
    · rw [hr, List.mapM_cons, List.mapM_nil, stacked]
      cases c.line with
      | error fault => exact .fault fault
      | ok v => exact ih.cons v
    · rw [hr, stacked_pair hd hc]
      simp only [List.mapM_cons, List.mapM_nil, Component.line_of_kind hd,
        Component.line_of_kind hc]
      cases d.rendered .plain with
      | error fault => exact .fault fault
      | ok t =>
        cases c.rendered .plain with
        | error fault => exact .fault fault
        | ok u => exact ih.cons_pair t u

/-- The code of a label, put together from the layers of its components. -/
def codeOf (s : Store) (lab : Label) : Except Fault Text := do
  let lines ← (lab.components.flatMap s.layers).mapM Component.line
  Writing.joined lines

/-- The code of a label where the log may be strict: it is noted before the lines are joined. -/
def codeNoted (s : Store) (isStrict : Bool) (lab : Label) : Except Fault Text := do
  let lines ← (lab.components.flatMap s.layers).mapM Component.line
  lab.noted isStrict
  Writing.joined lines

theorem codeNoted_of_noted {isStrict : Bool} {lab : Label} (h : lab.noted isStrict = .ok ()) :
    s.codeNoted isStrict lab = s.codeOf lab := by
  rw [codeNoted, h]
  rfl

/-- What has a code, where the log may be strict, can be noted. -/
theorem noted_of_codeNoted {isStrict : Bool} {lab : Label} {t : Text}
    (h : s.codeNoted isStrict lab = .ok t) : lab.noted isStrict = .ok () := by
  obtain ⟨_, -, rest⟩ := exists_of_bind_eq_ok h
  obtain ⟨_, noted, -⟩ := exists_of_bind_eq_ok rest
  exact noted

theorem Reprinted.codeNoted {touched : Ref → Prop} {t : Store} (h : s.Reprinted touched t)
    (isStrict : Bool) (lab : Label) : t.codeNoted isStrict lab = s.codeNoted isStrict lab := by
  rw [Store.codeNoted, Store.codeNoted, funext h.layers]

end Store

/-! ### Labels -/

namespace Action

/-- Looking at a label that is there leaves the store as it is. -/
theorem label_eq_ok {s : Store} {l : Ref} {lab : Label} (h : s.label? l = some lab)
    (around : Surroundings) : label l around s = .ok lab s := by
  have reads : label l around s = demand (s.label? l) around s := rfl
  rw [reads, h]
  rfl

end Action

namespace Writing

open Zpl.Action

variable {around : Surroundings} {s : Store} {l : Ref} {lab : Label}

/-- The components of a label from a place on get their instructions one by one. Those before may
have been generated already, together with anything else that is touched. -/
theorem generateFrom_spec {w : Writing} (hs : s.IsGenuine) (hl : s.label? l = some lab)
    (hd : ∀ r ∈ lab.components, s.IsDrawable r)
    (hw : ∀ t, s.Regenerated (s.touchedBy lab.components) t → ∀ r ∈ lab.components,
      (w.generate r).Generates around t (s.touchedBy lab.components) r)
    (fuel place : Nat) (hplace : place + fuel = lab.components.length) {t : Store}
    (ht : s.Regenerated (s.touchedBy lab.components) t) :
    (w.generateFrom l fuel place).outcome around t =
        (lab.components.drop place).mapM s.instructionOf ∧
      s.Regenerated (s.touchedBy lab.components)
        ((w.generateFrom l fuel place).after around t) := by
  induction fuel generalizing place t with
  | zero =>
    rw [List.drop_eq_nil_of_le (by omega), List.mapM_nil]
    exact ⟨rfl, ht⟩
  | succ fuel ih =>
    have hlt : place < lab.components.length := by omega
    have hr : lab.components[place] ∈ lab.components := List.getElem_mem hlt
    have hget : lab.components[place]? = some lab.components[place] := List.getElem?_eq_getElem hlt
    rw [List.drop_eq_getElem_cons hlt, List.mapM_cons]
    generalize lab.components[place] = r at hr hget
    -- What was generated so far shows in instructions only: `s` still says what `r` is drawn of.
    obtain ⟨c, hc⟩ := (ht.toReprinted.isDrawable (hd r hr)).component?
    have generates := generateFor_generates (ht.isGenuine hs) hc (hw t ht r hr)
    have unfolds : w.generateFrom l (fuel + 1) place around t =
        (w.generated (.object r) >>= fun v =>
          w.generateFrom l fuel (place + 1) >>= fun vs => pure (v :: vs)) around t := by
      rw [generateFrom, bind_apply, label_eq_ok ((ht.label? l).trans hl)]
      simp only [hget, generated, bind_assoc]
    rw [outcome_congr unfolds, after_congr unfolds, outcome_bind, after_bind,
      outcome_generated generates, after_generated, ht.toReprinted.instructionOf]
    have ht := ht.trans generates.changes
    cases s.instructionOf r with
    | error fault => exact ⟨rfl, ht⟩
    | ok v =>
      obtain ⟨houtcome, hafter⟩ := ih (place + 1) (by omega) ht
      dsimp only
      rw [outcome_bind, after_bind, houtcome]
      cases (lab.components.drop (place + 1)).mapM s.instructionOf with
      | error fault => exact ⟨rfl, hafter⟩
      | ok vs => exact ⟨rfl, hafter⟩

/-- Only a strict log makes it matter whether the size of a label can be put into words. -/
theorem outcome_noteGenerated (hl : s.label? l = some lab) (count : Nat) :
    (noteGenerated l count).outcome around s = lab.noted around.isStrict := by
  rw [noteGenerated, outcome_bind, outcome_label hl]
  dsimp only
  rw [outcome_logWorded, Label.noted, outcome_bind, outcome_lift]
  cases wholeText lab.labelWidth with
  | error fault => rfl
  | ok width =>
    dsimp only
    rw [outcome_bind, outcome_lift]
    cases wholeText lab.labelHeight with
    | error fault => rfl
    | ok height => cases around.isStrict <;> rfl

theorem regenerated_noteGenerated (touched : Ref → Prop) (l : Ref) (count : Nat)
    (around : Surroundings) (s : Store) :
    s.Regenerated touched ((noteGenerated l count).after around s) := by
  refine .bind (by rw [after_label]; exact .refl _ s) fun lab _ => ?_
  rw [after_label]
  refine .logWorded ?_
  rw [after_bind, after_lift]
  cases wholeText lab.labelWidth with
  | error fault => exact .refl _ s
  | ok width => cases wholeText lab.labelHeight <;> exact .refl _ s

/-- The code of a label whose components get their instructions is put together from layers, and
generating it changes what is touched. -/
theorem code_spec {w : Writing} (hs : s.IsGenuine) (hl : s.label? l = some lab)
    (hd : ∀ r ∈ lab.components, s.IsDrawable r)
    (hw : ∀ t, s.Regenerated (s.touchedBy lab.components) t → ∀ r ∈ lab.components,
      (w.generate r).Generates around t (s.touchedBy lab.components) r) :
    (w.code l).outcome around s = s.codeNoted around.isStrict lab ∧
      s.Regenerated (s.touchedBy lab.components) ((w.code l).after around s) := by
  obtain ⟨houtcome, hafter⟩ := generateFrom_spec hs hl hd hw lab.components.length 0 (by omega)
    (.refl _ s)
  have notes (count : Nat) := regenerated_noteGenerated (s.touchedBy lab.components) l count around
    ((w.generateFrom l lab.components.length 0).after around s)
  have note (count : Nat) : (noteGenerated l count).outcome around _ = _ :=
    outcome_noteGenerated ((hafter.label? l).trans hl) count
  rw [List.drop_zero] at houtcome
  simp only [code, mapM_lift]
  rw [outcome_bind, after_bind, outcome_label hl, after_label]
  dsimp only
  rw [outcome_bind, after_bind, houtcome, Store.codeNoted]
  have same := Store.sameLines hd
  generalize lab.components.mapM s.instructionOf = instructions at same
  generalize (lab.components.flatMap s.layers).mapM Component.line = lines at same
  cases same with
  | fault f => exact ⟨rfl, hafter⟩
  | @lines vs ls empty same =>
    dsimp only
    rw [outcome_bind, after_bind, note]
    have hafter := hafter.trans (notes vs.length)
    cases lab.noted around.isStrict with
    | error fault => exact ⟨rfl, hafter⟩
    | ok _ =>
      have joins : (Except.ok ls >>= joined : Except Fault Text) = joined vs := same.symm
      rw [outcome_bind, after_bind, outcome_lift, after_lift]
      constructor
      · refine Eq.trans ?_ joins.symm
        rw [joined]
        cases vs.mapM textOf <;> rfl
      · cases vs.mapM textOf <;> exact hafter

end Writing

namespace Action

open Writing

variable {around : Surroundings} {s : Store} {l : Ref} {lab : Label}

theorem code_spec (hs : s.IsGenuine) (hl : s.label? l = some lab)
    (hd : ∀ r ∈ lab.components, s.IsDrawable r) :
    (code l).outcome around s = s.codeNoted around.isStrict lab ∧
      s.Regenerated (s.touchedBy lab.components) ((code l).after around s) := by
  obtain ⟨fuel, hfuel⟩ := s.depth_eq
  have generates (t : Store) (ht : s.Regenerated (s.touchedBy lab.components) t) (r : Ref)
      (hr : r ∈ lab.components) :
      ((within (fuel + 2) []).generate r).Generates around t (s.touchedBy lab.components) r := by
    have drawable := ht.toReprinted.isDrawable (hd r hr)
    refine (Writing.generate_generates fuel [] (ht.isGenuine hs) drawable).mono fun q hq => ?_
    rw [ht.toReprinted.bind_background?] at hq
    exact ⟨r, hr, hq⟩
  rw [code, outcome_bind, after_bind, outcome_writing, after_writing, hfuel]
  exact Writing.code_spec hs hl hd generates

/-- The code of a label is put together from the layers of its components. -/
theorem outcome_code (hs : s.IsGenuine) (hl : s.label? l = some lab)
    (hd : ∀ r ∈ lab.components, s.IsDrawable r) (around : Surroundings) :
    (code l).outcome around s = s.codeNoted around.isStrict lab :=
  (code_spec hs hl hd).1

/-- Generating the code of a label changes the instructions of its components and of what lies
behind them at most. -/
theorem regenerated_code (hs : s.IsGenuine) (hl : s.label? l = some lab)
    (hd : ∀ r ∈ lab.components, s.IsDrawable r) (around : Surroundings) :
    s.Regenerated (s.touchedBy lab.components) ((code l).after around s) :=
  (code_spec hs hl hd).2

end Action

end Zpl
