import Mathlib.Data.List.ReduceOption
import Zpl.Proofs.Component.Margins
import Zpl.Proofs.Value.Plain

/-!
# Alignment

Shapes and barcodes are aligned by their own size: a request moves them to the left, the middle or
the right of their canvas, or to its bottom, and everything else that may be asked for is ignored.
What a sequence of requests comes to is told by the last of those that were heard: the last one at
all is the alignment on record, the last horizontal one says where the component stands from left to
right, and from top to bottom it only matters whether the bottom was ever asked for.

A request is any value, and it goes by its text. That is where something else may change: the text
of a label is its code, which is generated for the occasion, so that whoever asks for an alignment
by a label gets the instructions of its components generated anew.

## Main definitions

* `Measures`, `Component.HasMeasures` — the canvas and the size by which a component is aligned.
* `Component.aligned` — a component that was aligned, one alignment after the other.
* `Store.asked?`, `Action.heard` — the alignment that a value asks for, and what is heard of requests.

## Main results

* `Edit.exists_places` — all that a request does.
* `Edit.regenerated_setAlignment` — one request.
* `Action.attemptAll_setAlignment` — a run of requests.
* `Action.alignment_requests` — the run, and what follows for requests in a row.
-/

namespace Zpl

/-! ### Where alignments put a component -/

/-- Whether an alignment says where a component stands from left to right. -/
def Alignment.isHorizontal : Alignment → Bool
  | .left | .center | .right => true
  | _ => false

/-- The canvas of a component, and the size by which it is aligned on it. -/
structure Measures where
  outerWidth : Int
  outerHeight : Int
  width : Int
  height : Int
  deriving DecidableEq, Repr

/-- Where a horizontal alignment puts what has these measures. -/
def Measures.across (m : Measures) : Alignment → Int
  | .center => (m.outerWidth - m.width).tdiv 2
  | .right => m.outerWidth - m.width
  | _ => 0

/-- Where the bottom is for what has these measures. -/
def Measures.down (m : Measures) : Int := m.outerHeight - m.height

/-- The length by which a barcode of a text is laid out. It is estimated at normal orientation
only. -/
def Barcode.lengthOf (b : Barcode) (data : Text) : Int :=
  if b.isNormal then symbolModules data.length * b.moduleWidth else 0

/-- Whether a shape or a barcode is moved by an alignment. The right and the bottom position of a
barcode are known at normal orientation only. -/
def Kind.isMovedBy : Kind → Alignment → Bool
  | .shape _, a => a != .justified
  | .barcode b, .right => b.isNormal
  | .barcode b, .bottom => b.isNormal
  | .barcode _, a => a != .justified
  | _, _ => false

namespace Component

/-- A shape or a barcode has its measures in whole numbers. A shape goes by its width and its
height, and a barcode of a text by its length and the room that it takes downwards. -/
def HasMeasures (c : Component) (m : Measures) : Prop :=
  c.labelWidth = .int m.outerWidth ∧ c.labelHeight = .int m.outerHeight ∧
  match c.kind with
  | .shape form => form.width = .int m.width ∧ form.height = .int m.height
  | .barcode b =>
    (∃ data, b.data = .text data ∧ b.lengthOf data = m.width) ∧ b.footprint = m.height
  | _ => False

/-- A component that was aligned, one alignment after the other. -/
def aligned (c : Component) (m : Measures) (as : List Alignment) : Component :=
  { c with
    x := match (as.filter Alignment.isHorizontal).getLast? with
      | some a => .int (m.across a)
      | none => c.x
    y := if .bottom ∈ as then .int m.down else c.y
    alignment := match as.getLast? with
      | some a => .text (token a)
      | none => c.alignment }

section

variable (c : Component) (m : Measures) (a : Alignment) (as : List Alignment)

@[simp] theorem aligned_nil : c.aligned m [] = c := by
  simp [aligned]

/-- Alignments that follow a first one. -/
theorem aligned_aligned : (c.aligned m [a]).aligned m as = c.aligned m (a :: as) := by
  have across : ((c.aligned m [a]).aligned m as).x = (c.aligned m (a :: as)).x := by
    simp only [aligned, List.filter_cons]
    cases h : a.isHorizontal with
    | true =>
      simp only [if_true, List.getLast?_cons, List.filter_nil]
      cases (as.filter Alignment.isHorizontal).getLast? <;> rfl
    | false => rfl
  have down : ((c.aligned m [a]).aligned m as).y = (c.aligned m (a :: as)).y := by
    simp only [aligned, List.mem_cons, List.not_mem_nil, or_false]
    by_cases h : Alignment.bottom ∈ as
    · simp only [h, or_true, if_true]
    · simp only [h, or_false, if_false]
  have recorded :
      ((c.aligned m [a]).aligned m as).alignment = (c.aligned m (a :: as)).alignment := by
    simp only [aligned, List.getLast?_cons]
    cases as.getLast? <;> rfl
  calc (c.aligned m [a]).aligned m as
      = { c with
          x := ((c.aligned m [a]).aligned m as).x
          y := ((c.aligned m [a]).aligned m as).y
          alignment := ((c.aligned m [a]).aligned m as).alignment } := rfl
    _ = c.aligned m (a :: as) := by
      rw [across, down, recorded]
      rfl

/-- Alignments that follow others. -/
theorem aligned_append (bs : List Alignment) :
    (c.aligned m as).aligned m bs = c.aligned m (as ++ bs) := by
  induction as generalizing c with
  | nil => rw [aligned_nil, List.nil_append]
  | cons a as ih => rw [← aligned_aligned, ih, aligned_aligned, List.cons_append]

/-- To be aligned twice in a row is to be aligned once. -/
theorem aligned_twice (bs : List Alignment) :
    c.aligned m (as ++ a :: a :: bs) = c.aligned m (as ++ a :: bs) := by
  have twice (d : Component) : (d.aligned m [a]).aligned m [a] = d.aligned m [a] := by
    cases a <;> rfl
  rw [← aligned_append, ← aligned_aligned, ← aligned_aligned, twice, aligned_aligned,
    aligned_append]

/-- The last horizontal alignment says where a component stands from left to right. -/
theorem x_aligned (bs : List Alignment) (ha : a.isHorizontal = true)
    (hbs : ∀ b ∈ bs, b.isHorizontal = false) :
    (c.aligned m (as ++ a :: bs)).x = .int (m.across a) := by
  have others : bs.filter Alignment.isHorizontal = [] :=
    List.filter_eq_nil_iff.2 fun b hb => Bool.eq_false_iff.1 (hbs b hb)
  have last : ((as ++ a :: bs).filter Alignment.isHorizontal).getLast? = some a := by
    rw [List.filter_append, List.filter_cons_of_pos ha, others, List.getLast?_concat]
  simp only [aligned, last]

/-- A horizontal alignment and the bottom do not get in each other's way. -/
theorem aligned_swap (bs : List Alignment) (ha : a.isHorizontal = true) :
    (c.aligned m (as ++ a :: .bottom :: bs)).x = (c.aligned m (as ++ .bottom :: a :: bs)).x ∧
      (c.aligned m (as ++ a :: .bottom :: bs)).y = (c.aligned m (as ++ .bottom :: a :: bs)).y := by
  have down : Alignment.bottom.isHorizontal = false := rfl
  constructor
  · simp [aligned, ha, down]
  · simp [aligned]

/-- What was heard first comes first. -/
theorem aligned_reduceOption (a? : Option Alignment) (as : List (Option Alignment)) :
    (c.aligned m a?.toList).aligned m as.reduceOption = c.aligned m (a? :: as).reduceOption := by
  cases a? with
  | none => rw [Option.toList_none, aligned_nil, List.reduceOption_cons_of_none]
  | some a => rw [Option.toList_some, aligned_aligned, List.reduceOption_cons_of_some]

/-- The instruction of a component has no part in its alignment. -/
theorem aligned_instruction (v : Value) :
    { c with instruction := v }.aligned m as = { c.aligned m as with instruction := v } := rfl

variable {c m}

theorem HasMeasures.aligned (h : c.HasMeasures m) : (c.aligned m as).HasMeasures m := h

theorem HasMeasures.instruction (h : c.HasMeasures m) (v : Value) :
    { c with instruction := v }.HasMeasures m := h

end

end Component

/-! ### Stores that differ in instructions -/

/-- A component is put in the same place of two stores that differ in instructions, but keeps the
instruction that it has in each. -/
theorem Store.Regenerated.put {touched : Ref → Prop} {s t : Store} {r : Ref} {c : Component}
    (h : s.Regenerated touched t) (hc : s.component? r = some c) : ∃ v,
    t.component? r = some { c with instruction := v } ∧
      ∀ c' : Component, c'.kind.isRaw = c.kind.isRaw → c'.instruction = c.instruction →
        (s.put r (.component c')).Regenerated touched
          (t.put r (.component { c' with instruction := v })) := by
  obtain ⟨v, hv, same⟩ := h.toReprinted.component? hc
  refine ⟨v, hv, fun c' hraw hinstruction => ?_⟩
  have here := Store.lt_length_of_component? hc
  refine ⟨⟨fun q => ?_, ?_, h.attached⟩, h.nans, h.notes⟩
  · rcases eq_or_ne r q with rfl | hq
    · rw [thing?_put_self here, thing?_put_self (lt_length_of_component? hv)]
      by_cases hr : c.kind.isRaw = true ∨ ¬ touched r
      · left
        rw [same hr, ← hinstruction]
      · rw [not_or, Bool.not_eq_true, not_not] at hr
        exact .inr ⟨hr.2, c', v, rfl, hraw.trans hr.1, rfl⟩
    · rw [thing?_put_of_ne hq, thing?_put_of_ne hq]
      exact h.things q
  · rw [length_put, length_put]
    exact h.length

/-! ### One request -/

/-- The alignment that a value asks for by its text, which is the text that it has at the time. -/
def Store.asked? (s : Store) (c : Circumstances) (v : Value) : Option Alignment :=
  match ((Action.shown v).attempt c s).1 with
  | .ok t => choice? t.strip.upper
  | .error _ => none

/-- The alignment that a plain value asks for by its text. -/
def Value.asked? (v : Value) : Option Alignment :=
  match v.shown .plain with
  | .ok t => choice? t.strip.upper
  | .error _ => .none

/-- What a plain value asks for is the same in every store. -/
theorem Store.asked?_of_isPlain (s : Store) (c : Circumstances) {v : Value} (h : v.IsPlain) :
    s.asked? c v = v.asked? := by
  rw [asked?, Action.attempt_eq, Action.shown_eq h, Action.outcome_lift]
  rfl

namespace Action

variable {around : Surroundings} {s : Store} {r : Ref} {comp : Component} {m : Measures}
  {v : Value}

/-- What a value asks for is found out wherever it is looked at. -/
theorem asked?_eq (hs : s.IsGenuine) (c : Circumstances) (v : Value)
    (lenient : around.isStrict = false) :
    s.asked? c v =
      match (Edit.alignmentOf v).outcome around s with
      | .ok a? => a?
      | .error _ => none := by
  rw [Store.asked?, attempt_eq, outcome_congr ((spells_shown v).same _ around s lenient.symm hs),
    Edit.alignmentOf, outcome_bind]
  by_cases h : v = .none
  · subst h
    rfl
  · -- What is something has a text, and its token is that text in capitals.
    have read : token v = (do return (← shown v).strip.upper) := by
      cases v with
      | none => exact absurd rfl h
      | _ => simp [token, shown, Value.token]
    rw [read, outcome_bind]
    cases (shown v).outcome around s <;> rfl

/-- Finding out what a value asks for changes no more than instructions, and not even these if the
value is plain. -/
theorem regenerated_alignmentOf (hs : s.IsGenuine) (v : Value) (around : Surroundings) :
    s.Regenerated (fun _ => ¬ v.IsPlain) ((Edit.alignmentOf v).after around s) := by
  have read : s.Regenerated (fun _ => ¬ v.IsPlain) ((token v).after around s) := by
    by_cases h : v.IsPlain
    · rw [token_eq h, after_lift]
      exact .refl _ s
    · exact ((spells_token v).regenerates around s hs).mono fun _ _ => h
  exact .bind read fun _ _ => read

theorem regenerated_quoted (hs : s.IsGenuine) (v : Value) (around : Surroundings) :
    s.Regenerated (fun _ => ¬ v.IsPlain) ((quoted v).after around s) := by
  by_cases h : v.IsPlain
  · rw [quoted_eq h, after_lift]
    exact .refl _ s
  · exact (regenerates_quoted v around s hs).mono fun _ _ => h

end Action

namespace Edit

open Zpl.Action

variable {around : Surroundings} {s : Store} {r : Ref} {comp : Component} {m : Measures}
  {v : Value}

/-- Noting that an alignment is ignored changes no more than instructions. -/
theorem regenerated_ignoreAlignment (hs : s.IsGenuine) (source : Source) (before : Text) (v : Value)
    (after : Text) (around : Surroundings) :
    s.Regenerated (fun _ => ¬ v.IsPlain)
      ((ignoreAlignment source before v after).after around s) :=
  .logWorded (.bind (regenerated_quoted hs v around) fun _ _ => regenerated_quoted hs v around)

/-- The length by which a barcode is laid out, where nothing was put in the place of the method that
tells it. -/
theorem printedLength_eq_ok (hc : s.component? r = some comp) {b : Barcode}
    (hk : comp.kind = .barcode b)
    (unattached : s.attached.lookup (r, "get_barcode_length") = none) {n : Int}
    (h : b.printedLength s.directory = .ok n) (around : Surroundings) :
    printedLength r around s = .ok (.int n) s := by
  rw [printedLength, dispatch_of_unattached unattached, barcodeLength]
  refine bind_eq (component_eq_ok hc around) ?_
  simp only [hk]
  refine bind_eq rfl ?_
  rw [h]
  rfl

/-- The length by which a barcode of a text is laid out. -/
theorem printedLength_text (hs : s.IsGenuine) (hc : s.component? r = some comp) {b : Barcode}
    (hk : comp.kind = .barcode b) {data : Text} (hdata : b.data = .text data)
    (around : Surroundings) : printedLength r around s = .ok (.int (b.lengthOf data)) s := by
  have length : b.printedLength s.directory = .ok (b.lengthOf data) := by
    have count : Value.length s.directory (.text data) = .ok data.length := by
      simp [Value.length, Value.elements, bind, Except.bind, pure, Except.pure]
    rw [Barcode.printedLength, Barcode.lengthOf, hdata, count]
    cases b.isNormal <;> rfl
  exact printedLength_eq_ok hc hk (hs _ _ (by decide)) length around

/-- Every alignment is asked for by its token. -/
theorem alignmentOf_token (a : Alignment) (around : Surroundings) (s : Store) :
    alignmentOf (.text (token a)) around s = .ok (some a) s := by
  cases a <;> rfl

/-- What is done once it is known which alignment a value asks for: what does not move the component
is ignored, with or without a note, and by everything else it is aligned. -/
structure Places (place : Option Alignment → Action Unit) (around : Surroundings) (r : Ref)
    (comp : Component) (m : Measures) (v : Value) : Prop where
  ignores : ∀ a?, a?.filter comp.kind.isMovedBy = none → place a? = pure () ∨
    ∃ source before after, place a? = ignoreAlignment source before v after
  aligns : ∀ (s : Store) (a : Alignment) (w : Value), s.IsGenuine → r < s.things.length →
    comp.kind.isMovedBy a = true →
    (place (some a)).Alters around s r { comp with instruction := w }
      ({ comp with instruction := w }.aligned m [a])

theorem exists_places_shape (hc : s.component? r = some comp) {form : Shape}
    (hk : comp.kind = .shape form) (hm : comp.HasMeasures m) (v : Value) (around : Surroundings) :
    ∃ place, alignShape r form v around s = (alignmentOf v >>= place) around s ∧
      Places place around r comp m v := by
  have there := component_eq_ok hc around
  obtain ⟨id, x, y, labelWidth, labelHeight, alignment, instruction, listener, kind⟩ := comp
  obtain ⟨figure, width, height, thickness, color⟩ := form
  obtain ⟨houterWidth, houterHeight, hsize⟩ := hm
  cases hk
  obtain ⟨hwidth, hheight⟩ := hsize
  cases houterWidth
  cases houterHeight
  cases hwidth
  cases hheight
  refine ⟨_, bind_eq there rfl, fun a? h => ?_, fun s a w _ hr h => ?_⟩
  · right
    rcases a? with _ | a
    · exact ⟨_, _, _, rfl⟩
    · cases a with
      | justified => exact ⟨_, _, _, rfl⟩
      | _ => cases h
  · cases a with
    | left => exact .bind (.modifyComponent hr _) (.modifyComponent hr _)
    | center =>
      exact .value_bind (centeringGap_int _ _ _ _)
        (.bind (.modifyComponent hr _) (.modifyComponent hr _))
    | right =>
      exact .value_bind (sub_int _ _ _ _) (.bind (.modifyComponent hr _) (.modifyComponent hr _))
    | bottom =>
      exact .bind (.modifyComponent hr _)
        (.bind (.component_bind hr (.value_bind (subInto_int _ _ _ _) (.modifyComponent hr _)))
          (.modifyComponent hr _))
    | justified => cases h

theorem exists_places_barcode (hc : s.component? r = some comp) {b : Barcode}
    (hk : comp.kind = .barcode b) (hm : comp.HasMeasures m) (v : Value) (around : Surroundings) :
    ∃ place, alignBarcode r b v around s = (alignmentOf v >>= place) around s ∧
      Places place around r comp m v := by
  have there := component_eq_ok hc around
  obtain ⟨id, x, y, labelWidth, labelHeight, alignment, instruction, listener, kind⟩ := comp
  obtain ⟨houterWidth, houterHeight, hsize⟩ := hm
  cases hk
  obtain ⟨⟨data, hdata, hlength⟩, hfootprint⟩ := hsize
  cases houterWidth
  cases houterHeight
  refine ⟨_, bind_eq there rfl, fun a? h => ?_, fun s a w hs hr h => ?_⟩
  · rcases a? with _ | a
    · exact .inr ⟨_, _, _, rfl⟩
    · have stays : Kind.isMovedBy (.barcode b) a = false := by simpa [Option.filter] using h
      cases a with
      | left => cases stays
      | center => cases stays
      | right => exact .inl (if_neg (Bool.eq_false_iff.1 stays))
      | bottom => exact .inl (if_neg (Bool.eq_false_iff.1 stays))
      | justified => exact .inr ⟨_, _, _, rfl⟩
  · have length (c : Component) (hk : c.kind = .barcode b) :
        printedLength r around (s.put r (.component c)) =
          .ok (.int m.width) (s.put r (.component c)) := by
      rw [← hlength]
      exact printedLength_text (hs.put r _) (Store.component?_put_self hr c) hk hdata around
    cases a with
    | left => exact .bind (.modifyComponent hr _) (.modifyComponent hr _)
    | center =>
      exact .value_bind (length _ rfl) (.value_bind (centeringGap_int _ _ _ _)
        (.bind (.modifyComponent hr _) (.modifyComponent hr _)))
    | right =>
      have normal : b.isNormal = true := h
      dsimp only
      rw [if_pos normal]
      exact .value_bind (length _ rfl) (.value_bind (sub_int _ _ _ _)
        (.bind (.modifyComponent hr _) (.modifyComponent hr _)))
    | bottom =>
      have normal : b.isNormal = true := h
      dsimp only
      rw [if_pos normal, hfootprint]
      exact .value_bind (sub_int _ _ _ _) (.bind (.modifyComponent hr _) (.modifyComponent hr _))
    | justified => cases h

/-- A request first finds out which alignment is meant, and then places the component. -/
theorem exists_places (hc : s.component? r = some comp) (hm : comp.HasMeasures m) (v : Value)
    (around : Surroundings) :
    ∃ place, setAlignment r v around s = (alignmentOf v >>= place) around s ∧
      Places place around r comp m v := by
  have there := component_eq_ok hc around
  cases hk : comp.kind with
  | raw size =>
    rw [Component.HasMeasures, hk] at hm
    exact hm.2.2.elim
  | text line =>
    rw [Component.HasMeasures, hk] at hm
    exact hm.2.2.elim
  | shape form =>
    obtain ⟨place, opened, places⟩ := exists_places_shape hc hk hm v around
    refine ⟨place, bind_eq there ?_, places⟩
    rw [hk]
    exact opened
  | barcode b =>
    obtain ⟨place, opened, places⟩ := exists_places_barcode hc hk hm v around
    refine ⟨place, bind_eq there ?_, places⟩
    rw [hk]
    exact opened

/-- A request aligns the component if the alignment that is meant moves it, and otherwise leaves it
alone. No other component changes but in its instruction, and none does if the value is plain. -/
theorem regenerated_setAlignment (hs : s.IsGenuine) (hc : s.component? r = some comp)
    (hm : comp.HasMeasures m) (v : Value) (c : Circumstances) (lenient : around.isStrict = false) :
    let heard? := (s.asked? c v).filter comp.kind.isMovedBy
    (s.put r (.component (comp.aligned m heard?.toList))).Regenerated (fun _ => ¬ v.IsPlain)
      ((setAlignment r v).after around s) ∧
    (heard?.isSome = true → (setAlignment r v).outcome around s = .ok ()) := by
  intro heard?
  obtain ⟨place, opened, places⟩ := exists_places hc hm v around
  have read := regenerated_alignmentOf hs v around
  have genuine := read.isGenuine hs
  have asked := asked?_eq hs c v lenient
  rw [after_congr opened, outcome_congr opened, after_bind, outcome_bind]
  cases hmeant : (alignmentOf v).outcome around s with
  | error fault =>
    have silent : heard? = none := by
      rw [hmeant] at asked
      simp only [heard?, asked, Option.filter]
    rw [silent, Option.toList_none, Component.aligned_nil, Store.put_component_self hc]
    exact ⟨read, nofun⟩
  | ok a? =>
    have meant : heard? = a?.filter comp.kind.isMovedBy := by
      rw [hmeant] at asked
      simp only [heard?, asked]
    dsimp only
    cases hheard : heard? with
    | none =>
      rw [Option.toList_none, Component.aligned_nil, Store.put_component_self hc]
      refine ⟨?_, nofun⟩
      rcases places.ignores a? (meant.symm.trans hheard) with silent | ⟨_, _, _, noted⟩
      · rw [silent]
        exact read
      · rw [noted]
        exact read.trans (regenerated_ignoreAlignment genuine _ _ v _ around)
    | some a =>
      obtain ⟨rfl, moved⟩ := Option.filter_eq_some_iff.1 (meant.symm.trans hheard)
      obtain ⟨w, hw, kept⟩ := read.put hc
      have altered := (places.aligns _ a w genuine (Store.lt_length_of_component? hw) moved).eq_ok hw
      rw [after_eq_ok altered, outcome_eq_ok altered]
      exact ⟨kept _ rfl rfl, fun _ => rfl⟩

/-- A request by a token is heard by what it moves. -/
theorem alters_setAlignment (hs : s.IsGenuine) (hr : r < s.things.length)
    (hm : comp.HasMeasures m) {a : Alignment} (ha : comp.kind.isMovedBy a = true)
    (around : Surroundings) :
    (setAlignment r (.text (token a))).Alters around s r comp (comp.aligned m [a]) := by
  have there := Store.component?_put_self hr comp
  obtain ⟨place, opened, places⟩ := exists_places there hm (.text (token a)) around
  rw [Alters, opened]
  have placed := places.aligns s a comp.instruction hs hr ha
  exact bind_eq (alignmentOf_token a around _) placed

end Edit

/-! ### Runs of requests -/

/-- The signature of a request. -/
def Component.alignmentSignature : Signature := .required ["alignment"]

namespace Action

variable {s : Store} {r : Ref} {comp : Component} {m : Measures}

/-- Every component takes requests, whatever its attributes are. -/
theorem attempt_setAlignment (hc : s.component? r = some comp)
    (unattached : s.attached.lookup (r, "set_alignment") = none) {v : Value} {given : Call}
    (hbind : Component.alignmentSignature.bind given = .ok [v]) (c : Circumstances) :
    (call (.object r) "set_alignment" given).attempt c s =
      (((Edit.setAlignment r v).outcome (.inside c s) s).map fun _ => .none,
        (Edit.setAlignment r v).after (.inside c s) s) := by
  obtain ⟨method, offered, signature, run⟩ : ∃ method : Method Ref,
      comp.methods.find? (·.name == "set_alignment") = some method ∧
        method.signature = Component.alignmentSignature ∧
          method.run r [v] = (do Edit.setAlignment r v; return .none) := ⟨_, rfl, rfl, rfl⟩
  exact attempt_procedure hc unattached offered (signature ▸ hbind) c run

/-- What is heard of some requests: for each of them the alignment that is meant by it at the time,
if that moves the component. -/
def heard (c : Circumstances) (r : Ref) (k : Kind) :
    List (Value × Call) → Store → List (Option Alignment)
  | [], _ => []
  | (v, given) :: requests, s =>
    (s.asked? c v).filter k.isMovedBy ::
      heard c r k requests ((call (.object r) "set_alignment" given).attempt c s).2

theorem heard_cons {c : Circumstances} {given : Call} {answer : Except Fault Value} {t : Store}
    (h : (call (.object r) "set_alignment" given).attempt c s = (answer, t)) (k : Kind) (v : Value)
    (requests : List (Value × Call)) :
    heard c r k ((v, given) :: requests) s =
      (s.asked? c v).filter k.isMovedBy :: heard c r k requests t := by
  rw [heard, h]

/-- What is heard of plain requests is what their texts say. -/
theorem heard_of_isPlain (c : Circumstances) (r : Ref) (k : Kind) {requests : List (Value × Call)}
    (h : ∀ request ∈ requests, request.1.IsPlain) (s : Store) :
    heard c r k requests s =
      requests.map fun request => request.1.asked?.filter k.isMovedBy := by
  induction requests generalizing s with
  | nil => rfl
  | cons request requests ih =>
    obtain ⟨v, given⟩ := request
    rw [heard, s.asked?_of_isPlain c (h _ (List.mem_cons_self ..)),
      ih fun request mem => h request (List.mem_cons_of_mem _ mem), List.map_cons]

/-- The calls by which requests are made. -/
def requestCalls (requests : List (Value × Call)) : List (String × Call) :=
  requests.map fun request => ("set_alignment", request.2)

theorem attemptAll_setAlignment (hs : s.IsGenuine) (hc : s.component? r = some comp)
    (unattached : s.attached.lookup (r, "set_alignment") = none) (hm : comp.HasMeasures m)
    {requests : List (Value × Call)}
    (hbind : ∀ request ∈ requests, Component.alignmentSignature.bind request.2 = .ok [request.1])
    (c : Circumstances) :
    let run := attemptAll c r (requestCalls requests) s
    (s.put r (.component (comp.aligned m (heard c r comp.kind requests s).reduceOption))).Regenerated
      (fun _ => ∃ request ∈ requests, ¬ request.1.IsPlain) run.2 ∧
    List.Forall₂ (fun a? answer => a?.isSome = true → answer = .ok .none)
      (heard c r comp.kind requests s) run.1 := by
  induction requests generalizing s comp with
  | nil =>
    refine ⟨?_, .nil⟩
    have stays : comp.aligned m (heard c r comp.kind [] s).reduceOption = comp :=
      comp.aligned_nil m
    rw [stays, Store.put_component_self hc]
    exact .refl _ s
  | cons request requests ih =>
    obtain ⟨v, given⟩ := request
    have called := attempt_setAlignment hc unattached (hbind _ (List.mem_cons_self ..)) c
    have run : attemptAll c r (requestCalls ((v, given) :: requests)) s = _ :=
      attemptAll_cons called (requestCalls requests)
    obtain ⟨first, answered⟩ := Edit.regenerated_setAlignment hs hc hm v c
      (rfl : (Surroundings.inside c s).isStrict = false)
    rw [run, heard_cons called]
    generalize (s.asked? c v).filter comp.kind.isMovedBy = a? at first answered ⊢
    generalize (Edit.setAlignment r v).after (.inside c s) s = t at first ⊢
    -- The rest of the run starts from the aligned component, which has some instruction by now.
    obtain ⟨w, hw, lifted⟩ :=
      first.put (Store.component?_put_self (Store.lt_length_of_component? hc) _)
    obtain ⟨rest, answers⟩ := ih (first.isGenuine (hs.put r _)) hw (first.attached ▸ unattached)
      ((hm.aligned a?.toList).instruction w)
      fun request h => hbind request (List.mem_cons_of_mem _ h)
    refine ⟨?_, .cons (fun h => ?_) answers⟩
    · have aligned := lifted ((comp.aligned m a?.toList).aligned m
        (heard c r comp.kind requests t).reduceOption) rfl rfl
      rw [Store.put_put, Component.aligned_reduceOption] at aligned
      rw [Component.aligned_instruction, Component.aligned_reduceOption] at rest
      refine (aligned.mono fun _ h => ?_).trans (rest.mono fun _ h => ?_)
      · exact ⟨_, List.mem_cons_self .., h⟩
      · obtain ⟨request, mem, h⟩ := h
        exact ⟨request, List.mem_cons_of_mem _ mem, h⟩
    · rw [answered h]
      rfl

/-- Requests for an alignment, made on a shape or on a barcode one after the other, come to what the
last of those say that were heard. A request is heard by its text, which is stripped of blanks and
put in capitals: that may be the one of left, center, right or bottom, but right and bottom are not
heard by a barcode at another than normal orientation. None that is heard fails.

The component is aligned by what was heard: its position from left to right is the one of the last
horizontal request, its bottom is at the bottom of the canvas if that was ever asked for, the last
request is on record, and the rest of it stays. So it makes no difference to ask twice in a row, the
last horizontal request wins, and a horizontal request and the bottom can change places without a
change of the position.

Plain values have the same text at any time. As long as all requests are plain, nothing happens but
this and some log records. Otherwise components may get other instructions as well, since the text
of a label is its code, and that is generated when it is asked for. -/
theorem alignment_requests (hs : s.IsGenuine) (hc : s.component? r = some comp)
    (unattached : s.attached.lookup (r, "set_alignment") = none) (hm : comp.HasMeasures m)
    {requests : List (Value × Call)}
    (hbind : ∀ request ∈ requests, Component.alignmentSignature.bind request.2 = .ok [request.1])
    (c : Circumstances) :
    let run := attemptAll c r (requestCalls requests) s
    let told := heard c r comp.kind requests s
    (s.put r (.component (comp.aligned m told.reduceOption))).Regenerated
      (fun _ => ∃ request ∈ requests, ¬ request.1.IsPlain) run.2 ∧
    List.Forall₂ (fun a? answer => a?.isSome = true → answer = .ok .none) told run.1 ∧
    ((∀ request ∈ requests, request.1.IsPlain) →
      told = requests.map fun request => request.1.asked?.filter comp.kind.isMovedBy) ∧
    (∀ a as bs, comp.aligned m (as ++ a :: a :: bs) = comp.aligned m (as ++ a :: bs)) ∧
    (∀ a as bs, a.isHorizontal = true → (∀ b ∈ bs, b.isHorizontal = false) →
      (comp.aligned m (as ++ a :: bs)).x = .int (m.across a)) ∧
    ∀ a as bs, a.isHorizontal = true →
      (comp.aligned m (as ++ a :: .bottom :: bs)).x =
        (comp.aligned m (as ++ .bottom :: a :: bs)).x ∧
      (comp.aligned m (as ++ a :: .bottom :: bs)).y =
        (comp.aligned m (as ++ .bottom :: a :: bs)).y := by
  intro run told
  obtain ⟨left, answers⟩ := attemptAll_setAlignment hs hc unattached hm hbind c
  refine ⟨left, answers, fun plain => heard_of_isPlain c r comp.kind plain s, ?_, ?_, ?_⟩
  · exact fun a as bs => comp.aligned_twice m a as bs
  · exact fun a as bs ha hbs => comp.x_aligned m a as bs ha hbs
  · exact fun a as bs ha => comp.aligned_swap m a as bs ha

/-- A rectangle is centered, then moved to the right and to the bottom. What is no alignment, and a
text in full where a letter is meant, are not heard. -/
theorem alignment_requests_rectangle :
    let plate : Component := {
      labelWidth := 400, labelHeight := 300
      kind := .shape { figure := .rectangle 0, width := 100, height := 50 } }
    let requests : List (Value × Call) :=
      [("c", { inRow := ["c"] }), (" r ", { named := [("alignment", " r ")] }), (7, { inRow := [7] }),
        ("B", { inRow := ["B"] }), ("left", { inRow := ["left"] })]
    let s : Store := { things := [.component plate] }
    (attemptAll {} 0 (requestCalls requests) s).2.component? 0 =
      some { plate with x := .int 300, y := .int 250, alignment := "B" } := by
  intro plate requests s
  have genuine : s.IsGenuine := fun _ _ _ => rfl
  have there : s.component? 0 = some plate := rfl
  have unattached : s.attached.lookup (0, "set_alignment") = none := rfl
  have measures : plate.HasMeasures
      { outerWidth := 400, outerHeight := 300, width := 100, height := 50 } :=
    ⟨rfl, rfl, rfl, rfl⟩
  have bound : ∀ request ∈ requests,
      Component.alignmentSignature.bind request.2 = .ok [request.1] := by
    simp only [requests, List.forall_mem_cons]
    exact ⟨rfl, rfl, rfl, rfl, rfl, nofun⟩
  have plain : ∀ request ∈ requests, request.1.IsPlain := by
    simp only [requests, List.forall_mem_cons]
    exact ⟨trivial, trivial, trivial, trivial, trivial, nofun⟩
  obtain ⟨run, -, told, -⟩ := alignment_requests genuine there unattached measures bound {}
  have heard : heard {} 0 plate.kind requests s =
      [some .center, some .right, none, some .bottom, none] := (told plain).trans rfl
  obtain ⟨v, hv, same⟩ := run.component? (Store.component?_put_self (by decide) _)
  rw [hv, same (.inr fun ⟨request, mem, h⟩ => h (plain request mem)), heard]
  rfl

/-- A request by a label that has the rectangle on it is not heard, but the rectangle gets an
instruction. -/
theorem alignment_requests_label :
    let plate : Component := { kind := .shape { figure := .rectangle 0 } }
    let s : Store := { things := [.component plate,
      .label { components := [0], dpi := 203, labelWidth := 812, labelHeight := 406 }] }
    s.asked? {} (.object 1) = none ∧
    ((call (.object 0) "set_alignment" { inRow := [.object 1] }).attempt {} s).2.component? 0 =
      some { plate with instruction := "^FO0,0^GB0,0,1,B,0^FS" } ∧
    plate.instruction = "" := by
  intro plate s
  refine ⟨?_, rfl, rfl⟩
  decide +kernel

end Action

end Zpl
