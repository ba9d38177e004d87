import Mathlib.Data.List.Basic
import Zpl.Proofs.Label.Code

/-!
# The code of a label does not depend on history

A label is printed as it is, not as it was when something was last generated. Whatever was generated
before, for the label, for its components or for anything else, its code is the same. It is also the
code of a flat label, which lists the background of each barcode in front of the barcode and has no
barcode with a background.

## Main definitions

* `Store.flattened` — a store in which a label is flat.
* `GeneratingCall` — calls that generate instructions at most.

## Main results

* `Action.outcome_code_flattened` — a flat label has the same code.
* `Action.code_independent` — what code does, and what it does not depend on.
-/

namespace Zpl

namespace Store

/-! ### Flat labels -/

/-- A component by itself, as one of its own. -/
def copyOf (s : Store) (r : Ref) : Thing :=
  .component ((s.component? r).getD { kind := .raw 0 }).bare

/-- What stands in a flat label in place of a component: its background and the copy of a given
number, or the component itself if it has no background. -/
def flatPiece (s : Store) (r : Ref) (number : Nat) : List Ref :=
  match (s.component? r).bind (·.background?) with
  | some q => [q, s.things.length + number]
  | none => [r]

/-- The list of a flat label. The copies are numbered in the order of the list. -/
def flatList (s : Store) (rs : List Ref) : List Ref :=
  rs.zipIdx.flatMap fun (r, number) => s.flatPiece r number

/-- A store in which a label is flat. -/
def flattened (s : Store) (l : Ref) (lab : Label) : Store :=
  { s with things := s.things ++ lab.components.map s.copyOf }.put l
    (.label { lab with components := s.flatList lab.components })

variable {s : Store} {l r : Ref} {lab : Label}

theorem lt_length_of_thing? {t : Thing} (h : s.thing? r = some t) : r < s.things.length :=
  (List.getElem?_eq_some_iff.1 h).1

theorem thing?_flattened (hne : l ≠ r) (hr : r < s.things.length) :
    (s.flattened l lab).thing? r = s.thing? r := by
  rw [flattened, thing?_put_of_ne hne]
  exact List.getElem?_append_left hr

/-- Components are in a store with a flat label as they were. -/
theorem component?_flattened (hl : s.label? l = some lab) {c : Component}
    (hr : s.component? r = some c) : (s.flattened l lab).component? r = some c := by
  rw [label?_eq_some_iff] at hl
  rw [component?_eq_some_iff] at hr ⊢
  have hne : l ≠ r := by
    rintro rfl
    simp [hl] at hr
  rw [thing?_flattened hne (lt_length_of_thing? hr), hr]

theorem component?_flattened_copy (hl : s.label? l = some lab) {c : Component} {i : Nat}
    (hi : lab.components[i]? = some r) (hr : s.component? r = some c) :
    (s.flattened l lab).component? (s.things.length + i) = some c.bare := by
  have hlt := lt_length_of_thing? (label?_eq_some_iff.1 hl)
  rw [component?_eq_some_iff, flattened, thing?_put_of_ne
    (Nat.ne_of_lt (Nat.lt_add_right i hlt))]
  change (s.things ++ lab.components.map s.copyOf)[s.things.length + i]? = _
  rw [List.getElem?_append_right (by omega), Nat.add_sub_cancel_left, List.getElem?_map, hi]
  simp [copyOf, hr]

theorem label?_flattened (hl : s.label? l = some lab) :
    (s.flattened l lab).label? l = some { lab with components := s.flatList lab.components } := by
  have hlt := lt_length_of_thing? (label?_eq_some_iff.1 hl)
  rw [label?_eq_some_iff, flattened]
  exact thing?_put_self (by simpa using Nat.lt_add_right _ hlt) _

theorem IsGenuine.flattened (hs : s.IsGenuine) : (s.flattened l lab).IsGenuine := hs.congr rfl

/-- What stands in place of a component is drawn in the same layers. -/
theorem layers_flatPiece (hl : s.label? l = some lab) {i : Nat} (hi : lab.components[i]? = some r)
    (hr : s.IsDrawable r) :
    (∀ q ∈ s.flatPiece r i, (s.flattened l lab).IsDrawable q) ∧
      (s.flatPiece r i).flatMap (s.flattened l lab).layers = s.layers r := by
  cases hr with
  | alone there plain nothing =>
    have alone := component?_flattened hl there
    have piece : s.flatPiece r i = [r] := by
      simp [flatPiece, there, Component.background?_eq_none nothing]
    rw [piece]
    constructor
    · rintro q hq
      rw [List.mem_singleton.1 hq]
      exact .alone alone plain nothing
    · rw [List.flatMap_singleton, layers_alone alone (Component.background?_eq_none nothing),
        layers_alone there (Component.background?_eq_none nothing)]
  | @backed c d b q form there plain kind behind present plainBehind shape =>
    have first := component?_flattened hl present
    have second := component?_flattened_copy hl hi there
    have piece : s.flatPiece r i = [q, s.things.length + i] := by
      simp [flatPiece, there, Component.background?_of_kind kind behind]
    have bare : c.bare.background? = none := by simp [Component.bare, kind, Component.background?]
    rw [piece]
    constructor
    · rintro p hp
      rcases List.mem_pair.1 hp with rfl | rfl
      · exact .alone first plainBehind (by simp [shape])
      · refine .alone second (Component.isPlain_bare plain) ?_
        simp [Component.bare, kind]
    · rw [List.flatMap_cons, List.flatMap_singleton,
        layers_alone first (Component.background?_eq_none (by simp [shape])),
        layers_alone second bare, Component.bare_bare,
        layers_backed there (Component.background?_of_kind kind behind) present]
      rfl

/-- A flat label is drawn in the same layers. -/
theorem layers_flatList (hl : s.label? l = some lab) (hd : ∀ r ∈ lab.components, s.IsDrawable r) :
    (∀ q ∈ s.flatList lab.components, (s.flattened l lab).IsDrawable q) ∧
      (s.flatList lab.components).flatMap (s.flattened l lab).layers =
        lab.components.flatMap s.layers := by
  have piece (p : Ref × Nat) (hp : p ∈ lab.components.zipIdx) :=
    layers_flatPiece hl (List.mem_zipIdx_iff_getElem?.1 hp) (hd p.1 (List.fst_mem_of_mem_zipIdx hp))
  refine ⟨fun q hq => ?_, ?_⟩
  · obtain ⟨p, hp, hq⟩ := List.mem_flatMap.1 hq
    exact (piece p hp).1 q hq
  · calc (s.flatList lab.components).flatMap (s.flattened l lab).layers
        = lab.components.zipIdx.flatMap fun p => s.layers p.1 := by
          rw [flatList, List.flatMap_assoc]
          exact List.flatMap_congr fun p hp => (piece p hp).2
      _ = lab.components.flatMap s.layers := by
          rw [← List.flatMap_map Prod.fst s.layers, List.zipIdx_map_fst]

end Store

/-! ### Earlier calls -/

/-- A call that generates instructions at most. -/
inductive GeneratingCall where
  | generate (r : Ref)
  | code (l : Ref)
  | print (v : Value)
  | document (l : Ref)
  deriving Repr

namespace GeneratingCall

/-- What a call does. -/
def run : GeneratingCall → Action Unit
  | .generate r => Action.generate r
  | .code l => do let _ ← Action.code l
  | .print v => do let _ ← Action.shown v
  | .document l => do let _ ← Action.document l

/-- The store after some calls, whether they fail or not. -/
def runAll (c : Circumstances) : List GeneratingCall → Store → Store
  | [], s => s
  | call :: rest, s => runAll c rest (call.run.attempt c s).2

theorem regenerates_run (call : GeneratingCall) : call.run.Regenerates := by
  cases call with
  | generate r => exact Action.regenerates_generate r
  | code l => exact (Action.regenerates_code l).bind fun _ => .pure _
  | print v => exact (Action.regenerates_shown v).bind fun _ => .pure _
  | document l => exact (Action.regenerates_document l).bind fun _ => .pure _

/-- After any calls that generate instructions, nothing but instructions is different. -/
theorem reprinted_runAll {s : Store} (hs : s.IsGenuine) (c : Circumstances)
    (calls : List GeneratingCall) : s.Reprinted (fun _ => True) (runAll c calls s) := by
  induction calls generalizing s with
  | nil => exact .refl _ s
  | cons call rest ih =>
    have first := (call.regenerates_run (.within c s.depth) s hs).toReprinted
    rw [runAll, Action.attempt_eq]
    exact first.trans (ih (first.isGenuine hs))

end GeneratingCall

namespace Action

variable {s : Store} {l : Ref} {lab : Label}

/-- A flat label has the same code. -/
theorem outcome_code_flattened (hs : s.IsGenuine) (hl : s.label? l = some lab)
    (hd : ∀ r ∈ lab.components, s.IsDrawable r) (around : Surroundings) :
    (code l).outcome around (s.flattened l lab) = (code l).outcome around s := by
  obtain ⟨drawable, layers⟩ := Store.layers_flatList hl hd
  rw [outcome_code hs hl hd, outcome_code hs.flattened (Store.label?_flattened hl) drawable,
    Store.codeNoted, layers, Store.codeNoted]
  rfl

/-- Generating the code of a label changes instructions of its components and of what lies behind
them at most. The code is the same whatever was generated before, and the same as that of the flat
label. It is made of the lines of the layers in order; whatever sort of values the label keeps as its
size, they do not matter, unless the log is strict. -/
theorem code_independent (hs : s.IsGenuine) (hl : s.label? l = some lab)
    (hd : ∀ r ∈ lab.components, s.IsDrawable r) (around : Surroundings) :
    s.Regenerated (s.touchedBy lab.components) ((code l).after around s) ∧
      (∀ t, s.Reprinted (fun _ => True) t → (code l).outcome around t = (code l).outcome around s) ∧
      (∀ c calls, (code l).outcome around (GeneratingCall.runAll c calls s) =
        (code l).outcome around s) ∧
      (code l).outcome around (s.flattened l lab) = (code l).outcome around s ∧
      (around.isStrict = false → (code l).outcome around s = s.codeOf lab) := by
  have independent (t : Store) (ht : s.Reprinted (fun _ => True) t) :
      (code l).outcome around t = (code l).outcome around s := by
    rw [outcome_code hs hl hd, outcome_code (ht.isGenuine hs) ((ht.label? l).trans hl) fun r hr =>
      ht.isDrawable (hd r hr), ht.codeNoted]
  refine ⟨regenerated_code hs hl hd around, independent,
    fun c calls => independent _ (GeneratingCall.reprinted_runAll hs c calls),
    outcome_code_flattened hs hl hd around, fun lenient => ?_⟩
  rw [outcome_code hs hl hd, lenient]
  exact Store.codeNoted_of_noted lab.noted_lenient

/-- A label without a width that lists a barcode twice, its background once more, and a line of
text. -/
theorem code_independent_shared :
    let lab : Label := {
      dpi := 203, labelWidth := .none, labelHeight := 1218, components := [1, 0, 2, 1] }
    let s : Store :=
      { things := [
          .component { kind := .shape { figure := .rectangle 0, width := 300, height := 90 } },
          .component { kind := .barcode { data := "12345", background := .object 0 } },
          .component { labelWidth := 812, kind := .text { content := "fragile" } },
          .label lab] }
    let calls : List GeneratingCall := [.generate 0, .print (.object 3), .document 3, .code 3]
    let around : Surroundings := .within {} s.depth
    (code 3).outcome around (GeneratingCall.runAll {} calls s) = (code 3).outcome around s ∧
      (code 3).outcome around s = s.codeOf lab := by
  intro lab s calls around
  have drawable : ∀ r ∈ [1, 0, 2, 1], s.IsDrawable r := by
    have rectangle : s.IsDrawable 0 :=
      .alone rfl (by simp [Component.IsPlain, Value.IsPlain]) (by simp)
    have barcode : s.IsDrawable 1 :=
      .backed rfl (by simp [Component.IsPlain, Value.IsPlain]) rfl rfl rfl
        (by simp [Component.IsPlain, Value.IsPlain]) rfl
    have line : s.IsDrawable 2 :=
      .alone rfl (by simp [Component.IsPlain, Value.IsPlain]) (by simp)
    simp [rectangle, barcode, line]
  have there : s.label? 3 = some lab := rfl
  obtain ⟨-, -, history, -, lines⟩ := code_independent (fun _ _ _ => rfl) there drawable around
  exact ⟨history {} calls, lines rfl⟩

end Action

end Zpl
