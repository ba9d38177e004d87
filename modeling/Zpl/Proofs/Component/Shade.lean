import Mathlib.Data.List.Forall2
import Zpl.Proofs.Component.Altering
import Zpl.Proofs.Label.Code

/-!
# The color that a value names

A color is asked for by the text of a value, and the text of an object may be another one each time:
a label generates its components before it prints them. Still it never changes which color an object
names. Whatever a diagnostic says of an object, and whatever is generated, has a sign in it that no
color has. So an object that names a color does so by instructions that stay as they are: it is a
component, or a label of nothing but ready-made instructions.

## Main definitions

* `Text.IsMarked` — a text that has a sign in it that no color has.
* `Store.Bears` — what a value comes to as a token, where nothing has to be generated for it.

## Main results

* `Writing.marks_quoted` — diagnostics have such a sign in them.
* `Action.bears_of_choice?` — a value that names a color does not have to be generated.
* `Store.Bears.token_eq` — such a value names its color without a change to any object.
-/

namespace Zpl

/-! ### Signs that no color has -/

/-- A code point that stands for itself, and not for a color in whatever case. -/
def CodePoint.isMark (c : CodePoint) : Bool :=
  !c.isBlank && c.upper.any fun u => u ∉ token Color.black ++ token Color.white

/-- The signs that diagnostics, numbers and commands cannot do without. -/
def CodePoint.marks : Text := "^)]\x7d>'\".-0123456789NTFnie"

theorem CodePoint.isMark_of_mem : ∀ c ∈ marks, c.isMark = true := by
  decide +kernel

namespace Text

/-- A text has a sign in it that no color has. -/
def IsMarked (t : Text) : Prop := ∃ c ∈ t, c.isMark = true

namespace IsMarked

variable {t u : Text}

theorem of_mem {c : CodePoint} (h : c ∈ t) (hc : c ∈ CodePoint.marks) : t.IsMarked :=
  ⟨c, h, CodePoint.isMark_of_mem c hc⟩

theorem mono (h : t.IsMarked) (hle : ∀ c ∈ t, c ∈ u) : u.IsMarked := by
  obtain ⟨c, hc, mark⟩ := h
  exact ⟨c, hle c hc, mark⟩

theorem left (h : t.IsMarked) (u : Text) : (t ++ u).IsMarked :=
  h.mono fun _ => List.mem_append_left u

theorem right (t : Text) (h : u.IsMarked) : (t ++ u).IsMarked :=
  h.mono fun _ => List.mem_append_right t

theorem cons {c : CodePoint} (hc : c ∈ CodePoint.marks) (t : Text) : IsMarked (c :: t) :=
  of_mem (List.mem_cons_self ..) hc

/-- One marked line marks all lines together. -/
theorem join (sep : Text) {ts : List Text} (ht : t ∈ ts) (h : t.IsMarked) :
    (Text.join sep ts).IsMarked := by
  induction ts with
  | nil => cases ht
  | cons first rest ih =>
    cases rest with
    | nil =>
      obtain rfl := List.mem_singleton.1 ht
      rwa [join_singleton]
    | cons next rest =>
      rw [join_cons_cons]
      rcases List.mem_cons.1 ht with rfl | ht
      · exact (h.left sep).left _
      · exact .right _ (ih ht)

end IsMarked

theorem mem_dropWhile {p : CodePoint → Bool} {t : Text} {c : CodePoint} (h : c ∈ t)
    (hc : p c = false) : c ∈ t.dropWhile p := by
  rw [← List.takeWhile_append_dropWhile (p := p) (l := t), List.mem_append] at h
  refine h.resolve_left fun before => ?_
  rw [List.all_eq_true.1 List.all_takeWhile c before] at hc
  cases hc

/-- What is no blank is not stripped. -/
theorem mem_strip {t : Text} {c : CodePoint} (h : c ∈ t) (hc : c.isBlank = false) :
    c ∈ t.strip := by
  rw [strip, stripWhile, List.mem_reverse]
  refine mem_dropWhile ?_ hc
  rw [List.mem_reverse]
  exact mem_dropWhile h hc

/-- A text with a sign in it that no color has names none. -/
theorem IsMarked.choice?_eq_none {t : Text} (h : t.IsMarked) :
    choice? (α := Color) t.strip.upper = none := by
  obtain ⟨c, hc, mark⟩ := h
  rw [CodePoint.isMark, Bool.and_eq_true, Bool.not_eq_true', List.any_eq_true] at mark
  obtain ⟨notBlank, u, hu, foreign⟩ := mark
  have there : u ∈ t.strip.upper := List.mem_flatMap.2 ⟨c, mem_strip hc notBlank, hu⟩
  cases hchoice : choice? (α := Color) t.strip.upper with
  | none => rfl
  | some color =>
    rw [← token_of_choice? hchoice] at there
    refine absurd (List.mem_append.2 ?_) (of_decide_eq_true foreign)
    cases color with
    | black => exact .inl there
    | white => exact .inr there

/-- A number ends with a digit. -/
theorem isMarked_ofInt (n : Int) : (ofInt n).IsMarked := by
  have digits (k : Nat) : (ofNat k).IsMarked := by
    have digit : ∀ d < 10, CodePoint.scalar (Nat.digitChar d) ∈ CodePoint.marks := by decide
    by_cases small : k < 10
    · rw [ofNat, Nat.toDigits_of_lt_base small]
      exact .cons (digit k small) []
    · rw [ofNat, Nat.toDigits_of_base_le (by decide) (by omega), ofChars_append]
      exact .right _ (.cons (digit (k % 10) (by omega)) [])
  unfold ofInt
  split
  · exact .cons (by decide) _
  · exact digits _

theorem isMarked_quoteFor (hasSingle hasDouble : Bool) :
    CodePoint.scalar (quoteFor hasSingle hasDouble) ∈ CodePoint.marks := by
  cases hasSingle <;> cases hasDouble <;> decide

theorem isMarked_quoted (t : Text) : t.quoted.IsMarked :=
  .cons (isMarked_quoteFor _ _) _

theorem isMarked_quotedBytes (bs : List UInt8) : (quotedBytes bs).IsMarked :=
  .right _ (.cons (isMarked_quoteFor _ _) [])

end Text

/-- A number that is not whole, not a number or endless shows a point or one of these letters. -/
theorem Binary64.isMarked_text (x : Binary64) : x.text.IsMarked := by
  have layout (d : Decimal) : (layout d).IsMarked := by
    unfold layout
    dsimp only
    split
    · split
      · exact .left (.of_mem (c := .scalar '.') (by decide) (by decide)) _
      · exact .left (.right _ (.cons (by decide) [])) _
    · refine .left (.right _ ?_) _
      split <;> exact .cons (c := .scalar 'e') (by decide) _
  cases x with
  | nan bits => exact .cons (c := .scalar 'n') (by decide) _
  | infinity negative =>
    cases negative with
    | true => exact .cons (c := .scalar '-') (by decide) _
    | false => exact .cons (c := .scalar 'i') (by decide) _
  | finite negative m q =>
    refine .right _ ?_
    split
    · exact .cons (c := .scalar '0') (by decide) _
    · exact layout _

/-! ### Diagnostics -/

namespace Action

variable {α : Type}

/-- Whatever an action comes to is marked. -/
def Marks (x : Action Text) : Prop :=
  ∀ (around : Surroundings) (s : Store) (t : Text), x.outcome around s = .ok t → t.IsMarked

namespace Marks

theorem pure {t : Text} (h : t.IsMarked) : (Pure.pure t : Action Text).Marks := by
  rintro around s u ⟨⟩
  exact h

theorem throw (fault : Fault) : (throw fault : Action Text).Marks := nofun

theorem bind {x : Action α} {f : α → Action Text} (hf : ∀ a, (f a).Marks) : (x >>= f).Marks := by
  intro around s t h
  obtain ⟨a, -, ha⟩ := exists_of_outcome_bind h
  exact hf a around _ t ha

theorem write (n : Int) : (liftM (Decimal.write n) : Action Text).Marks := by
  intro around s t h
  rw [outcome_lift, Decimal.write] at h
  split at h
  · cases h
    exact Text.isMarked_ofInt n
  · cases h

end Marks

end Action

namespace Value

open Zpl.Action

theorem isMarked_rowText (items : List Text) : (rowText items).IsMarked := by
  unfold rowText
  split <;> exact .right _ (.of_mem (c := .scalar ')') (by decide) (by decide))

theorem isMarked_listText (items : List Text) : (listText items).IsMarked :=
  .right _ (.cons (c := .scalar ']') (by decide) [])

theorem isMarked_recordText (entries : List Text) : (recordText entries).IsMarked :=
  .right _ (.cons (c := .scalar '\x7d') (by decide) [])

/-- What quotes objects with a sign that no color has quotes all values so. -/
theorem marks_quoted {sc : Scribe Action} (hsc : ∀ r, (sc.quoted r).Marks) (v : Value) :
    (v.quoted sc).Marks := by
  unfold quoted
  cases v with
  | none => exact .pure (.cons (c := .scalar 'N') (by decide) _)
  | bool b =>
    cases b with
    | true => exact .pure (.cons (c := .scalar 'T') (by decide) _)
    | false => exact .pure (.cons (c := .scalar 'F') (by decide) _)
  | int n => exact .write n
  | float x => exact .pure x.isMarked_text
  | text t => exact .pure t.isMarked_quoted
  | bytes bs => exact .pure (Text.isMarked_quotedBytes bs)
  | tuple vs => exact .bind fun _ => .pure (isMarked_rowText _)
  | list vs => exact .bind fun _ => .pure (isMarked_listText _)
  | record keys values => exact .bind fun _ => .bind fun _ => .pure (isMarked_recordText _)
  | object r => exact hsc r

end Value

namespace Writing

open Zpl.Action

variable {w : Writing}

/-- Operations that quote objects with a sign that no color has. -/
def Marks (w : Writing) : Prop := ∀ r, (w.quoted r).Marks

/-- What is quoted with the scribe of such operations. -/
theorem Marks.value (hw : w.Marks) (v : Value) : (do v.quoted (← w.scribe)).Marks := by
  intro around s t h
  let sc : Scribe Action := { facts := s.directory, shown := w.shown, quoted := w.quoted }
  have marks : ∀ r, (sc.quoted r).Marks := hw
  exact Value.marks_quoted marks v around s t h

theorem marks_quotedComponent (w : Writing) (c : Component) : (w.quotedComponent c).Marks :=
  .bind fun _ => .bind fun _ => .bind fun _ => .bind fun _ =>
    .pure (.right _ (.cons (c := .scalar ')') (by decide) []))

theorem marks_quotedWindow (w : Writing) (record : Ref) : (w.quotedWindow record).Marks :=
  .bind fun _ => .pure (.right _ (.cons (c := .scalar ')') (by decide) []))

theorem isMarked_objectText (x : Thing) : (objectText x).IsMarked :=
  .right _ (.cons (c := .scalar '>') (by decide) [])

theorem marks_quotedMethod (w : Writing) (x : Thing) (m : BoundMethod) :
    (w.quotedMethod x m).Marks := by
  unfold quotedMethod
  split
  · exact .pure (isMarked_objectText x)
  · split
    · exact .bind fun _ => .pure (.right _ (.cons (c := .scalar '>') (by decide) []))
    · exact .bind fun _ => .bind fun _ =>
        .pure (.right _ (.cons (c := .scalar '>') (by decide) []))

section

variable {inner : List Ref → Writing}

theorem marks_quotedContent (hinner : ∀ around, (inner around).Marks) (around : List Ref) (r : Ref)
    (v : Value) : (quotedContent inner around r v).Marks := by
  unfold quotedContent
  split
  · refine .pure ?_
    unfold ellipsis
    split <;> exact .of_mem (c := .scalar '.') (by decide) (by decide)
  · exact (hinner _).value v

theorem marks_quotedView (inner : List Ref → Writing) (around : List Ref) (r : Ref) (x : Thing) :
    (quotedView inner around r x).Marks := by
  unfold quotedView
  split
  · exact .pure (.cons (c := .scalar '.') (by decide) _)
  · exact .bind fun _ => .bind fun _ => .bind fun _ =>
      .pure (.right _ (.cons (c := .scalar ')') (by decide) []))

theorem marks_quotedSet (inner : List Ref → Writing) (around : List Ref) (r : Ref)
    (members : List Value) : (quotedSet inner around r members).Marks := by
  unfold quotedSet
  split
  · exact .pure (.right "set(..." (.cons (c := .scalar ')') (by decide) []))
  · split
    · exact .pure (.right "set(" (.cons (c := .scalar ')') (by decide) []))
    · exact .bind fun _ => .bind fun _ => .pure (Value.isMarked_recordText _)

theorem marks_quotedObject (hinner : ∀ around, (inner around).Marks) (around : List Ref) (r : Ref) :
    (quotedObject inner around r).Marks := by
  refine .bind fun x => ?_
  split
  · exact marks_quotedComponent _ _
  · exact marks_quotedContent hinner _ _ _
  · exact marks_quotedView _ _ _ _
  · exact marks_quotedWindow _ _
  · exact marks_quotedSet _ _ _ _
  · exact marks_quotedMethod _ _ _
  · exact .pure (isMarked_objectText _)

end

/-- However deep objects lie within each other, every diagnostic has a sign in it that no color
has. -/
theorem marks_within (fuel : Nat) (around : List Ref) : (within fuel around).Marks := by
  induction fuel generalizing around with
  | zero => exact fun _ => .throw _
  | succ fuel ih => exact marks_quotedObject ih around

end Writing

/-! ### Instructions -/

namespace Writing

open Zpl.Action

variable {w : Writing} {around : Surroundings} {s t : Store} {r : Ref} {comp : Component}

/-- A component gets a marked instruction. -/
def Imprints (x : Action Unit) (r : Ref) : Prop :=
  ∀ (around : Surroundings) (s : Store) (comp : Component), s.IsGenuine →
    s.component? r = some comp → comp.kind.isRaw = false → x.outcome around s = .ok () →
      ∃ comp' u, (x.after around s).component? r = some comp' ∧
        comp'.instruction = .text u ∧ u.IsMarked

namespace Imprints

theorem replace {u : Text} (hu : u.IsMarked) (r : Ref) :
    Imprints (modifyComponent r fun c => { c with instruction := .text u }) r := by
  intro around s comp _ hc _ _
  rw [after_modifyComponent hc]
  exact ⟨_, u, Store.component?_put_self (Store.lt_length_of_component? hc) _, rfl, hu⟩

/-- What is printed first leaves the component in place. -/
theorem bind {α : Type} {x : Action α} {f : α → Action Unit} (hx : x.Spells)
    (hf : ∀ a, (∃ around s, x.outcome around s = .ok a) → Imprints (f a) r) :
    Imprints (x >>= f) r := by
  intro around s comp hs hc hraw h
  obtain ⟨a, ha, h⟩ := exists_of_outcome_bind h
  have before := hx.regenerates around s hs
  obtain ⟨v, hv, -⟩ := before.component? hc
  rw [after_bind, ha]
  exact hf a ⟨around, s, ha⟩ around _ _ (before.isGenuine hs) hv hraw h

theorem bind_scribe {f : Scribe Action → Action Unit}
    (hf : ∀ d : Directory, Imprints (f { facts := d, shown := w.shown, quoted := w.quoted }) r) :
    Imprints (w.scribe >>= f) r :=
  fun around s comp hs => hf s.directory around s comp hs

end Imprints

/-- The commands of a component begin with a caret. -/
theorem isMarked_rendered {sc : Scribe Action} {u : Text}
    (h : (comp.rendered sc).outcome around s = .ok u) : u.IsMarked := by
  obtain ⟨commands, hcommands, hu⟩ := exists_of_outcome_bind h
  obtain ⟨x, -, h⟩ := exists_of_outcome_bind hcommands
  obtain ⟨y, -, h⟩ := exists_of_outcome_bind h
  obtain ⟨body, -, h⟩ := exists_of_outcome_bind h
  cases h
  cases hu
  exact .cons (by decide) _

/-- Rendering a component after what lies behind it. -/
theorem imprints_generateOver (hw : w.Regenerates) (r : Ref) (behind : List Value) :
    Imprints (w.generateOver r behind) r := by
  refine .bind (.component r) fun c _ => .bind_scribe fun d => ?_
  have hsc : Scribe.Regenerates { facts := d, shown := w.shown, quoted := w.quoted } :=
    ⟨hw.shown, hw.quoted⟩
  refine .bind (spells_rendered hsc c) fun bars hbars => ?_
  obtain ⟨around, s, hbars⟩ := hbars
  refine .bind (spells_textsOf _) fun lines _ => .replace ?_ r
  exact .join "\n" (List.mem_append_right lines (List.mem_singleton_self bars))
    (isMarked_rendered hbars)

/-- Whatever is generated has a caret in it. -/
theorem imprints_generateComponent (hw : w.Regenerates) (r : Ref) :
    Imprints (w.generateComponent r) r := by
  have alone : Imprints (do
      let t ← (← component r).rendered (← w.scribe)
      modifyComponent r fun c => { c with instruction := .text t }) r := by
    refine .bind (.component r) fun c _ => .bind_scribe fun d => ?_
    have hsc : Scribe.Regenerates { facts := d, shown := w.shown, quoted := w.quoted } :=
      ⟨hw.shown, hw.quoted⟩
    refine .bind (spells_rendered hsc c) fun t ht => ?_
    obtain ⟨around, s, ht⟩ := ht
    exact .replace (isMarked_rendered ht) r
  intro around s comp hs hc hraw h
  -- What is left to be done goes by the kind.
  obtain ⟨rest, imprints, left⟩ : ∃ rest : Action Unit, Imprints rest r ∧
      w.generateComponent r around s = rest around s := by
    rw [generateComponent, bind_apply, component_eq_ok hc]
    cases hk : comp.kind with
    | raw size => simp [hk, Kind.isRaw] at hraw
    | barcode b =>
      refine ⟨w.generateBehind b.background >>= w.generateOver r, ?_, by simp only [hk]; rfl⟩
      exact .bind (spells_generateBehind hw _) fun behind _ => imprints_generateOver hw r behind
    | text line => exact ⟨_, alone, by simp only [hk]⟩
    | shape form => exact ⟨_, alone, by simp only [hk]⟩
  rw [outcome_congr left] at h
  rw [after_congr left]
  exact imprints around s comp hs hc hraw h

end Writing

/-! ### Labels of ready-made instructions -/

/-- A store with more records. -/
def Store.noting (s : Store) (notes : List Event) : Store := { s with events := s.events ++ notes }

@[simp] theorem Store.noting_nil (s : Store) : s.noting [] = s := by
  simp [noting]

/-- Routine work is noted. -/
theorem Store.Regenerated.noting {touched : Ref → Prop} (s : Store) {notes : List Event}
    (routine : ∀ e ∈ notes, e.isRoutine = true) : s.Regenerated touched (s.noting notes) := by
  refine ⟨⟨fun r => .inl rfl, rfl, rfl⟩, rfl, notes, fun e he => ?_, rfl⟩
  have hroutine := routine e he
  cases e with
  | log => rfl
  | _ => cases hroutine

theorem Store.put_noting (s : Store) (notes : List Event) (r : Ref) (x : Thing) :
    (s.noting notes).put r x = (s.put r x).noting notes := rfl

/-- A ready-made instruction of a text stands in a place. -/
def Store.HasReady (s : Store) (r : Ref) (u : Text) : Prop :=
  ∃ c, s.component? r = some c ∧ c.kind.isRaw = true ∧ c.instruction = .text u

namespace Writing

open Zpl.Action

variable {w : Writing} {around : Surroundings} {s : Store} {l r : Ref} {lab : Label} {u : Text}

theorem eq_of_textOf {v : Value} (h : textOf v = .ok u) : v = .text u := by
  cases v <;> cases h
  rfl

/-- The instruction of a component is read as it stands. -/
theorem read_eq_ok {c : Component} (hc : s.component? r = some c) (around : Surroundings) :
    read (.object r) "instruction" around s = .ok c.instruction s := by
  rw [eq_ok_of_outcome (outcome_read hc around), after_read]

/-- Where nothing was put in its place, a component is generated. -/
theorem generateFor_apply (w : Writing) (hs : s.IsGenuine) {c : Component}
    (hc : s.component? r = some c) (around : Surroundings) :
    w.generateFor (.object r) around s = w.generate r around s := by
  have unattached := hs r "generate_instruction" (by decide)
  simp only [generateFor, dispatchUnitOn, dispatchOn, bind_apply, dispatch_of_unattached unattached,
    get_apply, hc]
  cases w.generate r around s <;> rfl

/-- What cannot be found is not generated. -/
theorem exists_component_of_generateFor (hs : s.IsGenuine)
    (h : (w.generateFor (.object r)).outcome around s = .ok ()) : ∃ c, s.component? r = some c := by
  cases hc : s.component? r with
  | some c => exact ⟨c, rfl⟩
  | none =>
    obtain ⟨v, hv, -⟩ := exists_of_outcome_bind h
    simp only [dispatchOn, outcome_dispatch hs (show "generate_instruction" ∈ _ by decide),
      outcome_bind, outcome_get, after_get, hc] at hv
    obtain ⟨found, -, refused⟩ := exists_of_outcome_bind hv
    obtain ⟨fault, -, thrown⟩ := exists_of_outcome_bind refused
    cases thrown

/-- A ready-made instruction is not generated. -/
theorem generateComponent_ready (w : Writing) (h : s.HasReady r u) (around : Surroundings) :
    w.generateComponent r around s = .ok () s := by
  obtain ⟨c, hc, hraw, -⟩ := h
  rw [generateComponent, bind_apply, component_eq_ok hc]
  cases hk : c.kind with
  | raw size => simp only [hk]; rfl
  | _ => simp [hk, Kind.isRaw] at hraw

/-- What generates a component and hands over what is not marked finds a ready-made instruction. -/
theorem hasReady_of_generateComponent (hw : w.Regenerates) (hs : s.IsGenuine) {c : Component}
    (hc : s.component? r = some c) (h : (w.generateComponent r).outcome around s = .ok ())
    (hu : (read (.object r) "instruction").outcome around
      ((w.generateComponent r).after around s) = .ok (.text u)) (unmarked : ¬ u.IsMarked) :
    s.HasReady r u := by
  cases hraw : c.kind.isRaw with
  | false =>
    obtain ⟨c', u', hc', hinstruction, marked⟩ :=
      imprints_generateComponent hw r around s c hs hc hraw h
    rw [outcome_read hc', hinstruction] at hu
    cases hu
    exact absurd marked unmarked
  | true =>
    have kept := (spells_generateComponent hw r).regenerates around s hs
    obtain ⟨v, hv, same⟩ := kept.component? hc
    rw [outcome_read hv, same (.inl hraw)] at hu
    exact ⟨c, hc, hraw, Except.ok.inj hu⟩

/-- Ready-made instructions are handed over one by one, and nothing changes. -/
theorem generateFrom_ready (hw : ∀ r u, s.HasReady r u → w.generate r around s = .ok () s)
    (hs : s.IsGenuine) (hl : s.label? l = some lab) (fuel place : Nat)
    (hplace : place + fuel = lab.components.length) {us : List Text}
    (h : List.Forall₂ s.HasReady (lab.components.drop place) us) :
    w.generateFrom l fuel place around s = .ok (us.map .text) s := by
  induction fuel generalizing place us with
  | zero =>
    rw [List.drop_eq_nil_of_le (by omega)] at h
    cases h
    rfl
  | succ fuel ih =>
    have hlt : place < lab.components.length := by omega
    rw [List.drop_eq_getElem_cons hlt] at h
    obtain ⟨u, rest, ready, others, rfl⟩ := List.forall₂_cons_left_iff.1 h
    obtain ⟨c, hc, -, hinstruction⟩ := id ready
    have reads : read (.object lab.components[place]) "instruction" around s = .ok (.text u) s := by
      rw [read_eq_ok hc, hinstruction]
    rw [generateFrom]
    refine bind_eq (label_eq_ok hl around) ?_
    rw [List.getElem?_eq_getElem hlt]
    refine bind_eq (a := ()) ?_ (bind_eq reads (bind_eq (ih (place + 1) (by omega) others) rfl))
    rw [generateFor_apply w hs hc]
    exact hw _ u ready

/-- What a label is generated from is ready-made if none of it is marked. -/
theorem hasReady_of_generateFrom {inner : Writing} (hinner : inner.Regenerates)
    (hw : ∀ r, w.generate r = inner.generateComponent r) (hs : s.IsGenuine)
    (hl : s.label? l = some lab) (fuel place : Nat) (hplace : place + fuel = lab.components.length)
    {vs : List Value} (h : (w.generateFrom l fuel place).outcome around s = .ok vs) {us : List Text}
    (hus : vs.mapM textOf = .ok us) (unmarked : ∀ u ∈ us, ¬ u.IsMarked) :
    List.Forall₂ s.HasReady (lab.components.drop place) us := by
  induction fuel generalizing place vs us with
  | zero =>
    rw [List.drop_eq_nil_of_le (by omega)]
    cases h
    cases hus
    exact .nil
  | succ fuel ih =>
    have hlt : place < lab.components.length := by omega
    rw [List.drop_eq_getElem_cons hlt]
    obtain ⟨lab', hlab, h⟩ := exists_of_outcome_bind h
    rw [outcome_label hl] at hlab
    cases hlab
    rw [after_label, List.getElem?_eq_getElem hlt] at h
    obtain ⟨⟨⟩, made, h⟩ := exists_of_outcome_bind h
    obtain ⟨c, hc⟩ := exists_component_of_generateFor hs made
    have apply := generateFor_apply w hs hc around
    rw [hw] at apply
    rw [outcome_congr apply] at made
    rw [after_congr apply] at h
    obtain ⟨v, hv, h⟩ := exists_of_outcome_bind h
    rw [after_read] at h
    obtain ⟨rest, hrest, h⟩ := exists_of_outcome_bind h
    cases h
    rw [List.mapM_cons] at hus
    obtain ⟨u, hu, hus⟩ := exists_of_bind_eq_ok hus
    obtain ⟨us', hus', h⟩ := exists_of_bind_eq_ok hus
    cases h
    obtain rfl := eq_of_textOf hu
    have ready := hasReady_of_generateComponent hinner hs hc made hv
      (unmarked u (List.mem_cons_self ..))
    rw [after_eq_ok (generateComponent_ready inner ready around)] at hrest
    exact .cons ready (ih (place + 1) (by omega) hrest hus' fun u hu =>
      unmarked u (List.mem_cons_of_mem _ hu))

theorem thing_eq_ok {x : Thing} (h : s.thing? r = some x) (around : Surroundings) :
    thing r around s = .ok x s := by
  have looks : thing r around s = demand (s.thing? r) around s := rfl
  rw [looks, h]
  rfl

/-- If what a record is put into words of is only looked at, the record is all that is left. -/
theorem exists_after_logWorded {words : Action Text} {around : Surroundings}
    (h : words.after around s = s) (source : Source) :
    ∃ notes : List Event, (∀ e ∈ notes, e.isRoutine = true) ∧
      (logWorded .debug source words).after around s = s.noting notes := by
  rw [after_logWorded, after_bind, h]
  cases words.outcome around s with
  | error fault => exact ⟨[], by simp, (Store.noting_nil s).symm⟩
  | ok message => exact ⟨[.log .debug source message], by simp [Event.isRoutine], rfl⟩

/-- Where the size of a label does not matter, it is only noted what was generated for it. -/
theorem noteGenerated_eq_ok (hl : s.label? l = some lab) {around : Surroundings}
    (hnoted : lab.noted around.isStrict = .ok ()) (count : Nat) :
    ∃ notes : List Event, (∀ e ∈ notes, e.isRoutine = true) ∧
      noteGenerated l count around s = .ok () (s.noting notes) := by
  have looks (width height : Except Fault Text) (text : Text → Text → Text) :
      (do return text (← width) (← height) : Action Text).after around s = s := by
    cases width <;> cases height <;> rfl
  obtain ⟨notes, routine, left⟩ := exists_after_logWorded
    (looks (wholeText lab.labelWidth) (wholeText lab.labelHeight) _) .label
  refine ⟨notes, routine, ?_⟩
  rw [eq_ok_of_outcome ((outcome_noteGenerated hl count).trans hnoted), ← left, noteGenerated,
    after_bind, outcome_label hl, after_label]

/-- The code of a label of ready-made instructions, for which nothing but a note is made. -/
theorem code_ready (fuel : Nat) (inside : List Ref) (hs : s.IsGenuine) (hl : s.label? l = some lab)
    {us : List Text} (ready : List.Forall₂ s.HasReady lab.components us) {around : Surroundings}
    (hnoted : lab.noted around.isStrict = .ok ()) :
    ∃ notes : List Event, (∀ e ∈ notes, e.isRoutine = true) ∧
      (within (fuel + 1) inside).code l around s =
        .ok (Text.join "\n" us) (s.noting notes) := by
  have generates (r : Ref) (u : Text) (h : s.HasReady r u) :
      (within (fuel + 1) inside).generate r around s = .ok () s :=
    generateComponent_ready (within fuel inside) h around
  have generated := generateFrom_ready generates hs hl lab.components.length 0 (by omega) ready
  obtain ⟨notes, routine, noted⟩ := noteGenerated_eq_ok hl hnoted (us.map Value.text).length
  refine ⟨notes, routine, bind_eq (label_eq_ok hl around) (bind_eq generated (bind_eq noted ?_))⟩
  rw [mapM_lift, mapM_textOf]
  rfl

/-- Conversely, a label whose code is not marked is one of ready-made instructions. -/
theorem hasReady_of_code (fuel : Nat) (inside : List Ref) (hs : s.IsGenuine)
    (hl : s.label? l = some lab)
    (h : ((within (fuel + 1) inside).code l).outcome around s = .ok u) (unmarked : ¬ u.IsMarked) :
    ∃ us, List.Forall₂ s.HasReady lab.components us ∧ lab.noted around.isStrict = .ok () ∧
      u = Text.join "\n" us := by
  obtain ⟨lab', hlab, h⟩ := exists_of_outcome_bind h
  rw [outcome_label hl] at hlab
  cases hlab
  rw [after_label] at h
  obtain ⟨vs, hvs, h⟩ := exists_of_outcome_bind h
  obtain ⟨⟨⟩, noted, h⟩ := exists_of_outcome_bind h
  rw [mapM_lift] at h
  obtain ⟨us, hus, h⟩ := exists_of_outcome_bind h
  rw [outcome_lift] at hus
  cases h
  have ready := hasReady_of_generateFrom (regenerates_within fuel inside) (fun _ => rfl) hs hl
    lab.components.length 0 (by omega) hvs hus fun u hu marked => unmarked (.join "\n" hu marked)
  have kept := (spells_generateFrom (regenerates_within (fuel + 1) inside) l lab.components.length
    0).regenerates around s hs
  rw [outcome_noteGenerated ((kept.label? l).trans hl)] at noted
  exact ⟨us, ready, noted, rfl⟩

end Writing

/-! ### Tokens -/

/-- How the objects of a store are printed at the moment. -/
def Store.reader (s : Store) : Scribe Action where
  facts := s.directory
  shown := (Writing.within s.depth []).shown
  quoted := (Writing.within s.depth []).quoted

namespace Action

theorem scribe_eq_ok (around : Surroundings) (s : Store) : scribe around s = .ok s.reader s := rfl

theorem token_apply (v : Value) (around : Surroundings) (s : Store) :
    token v around s = v.token s.reader around s := by
  rw [token, bind_apply, scribe_eq_ok]

end Action

namespace Store

variable {s : Store}

/-- What a value comes to as a token, where nothing has to be generated for it: it is no object, it
is a component, or it is a label of ready-made instructions, which a strict log can note. -/
inductive Bears (s : Store) (isStrict : Bool) : Value → Text → Prop where
  | plain {v : Value} {t : Text} (plain : v.IsPlain) (h : v.token .plain = .ok t) :
    Bears s isStrict v t
  | component {r : Ref} {c : Component} {u : Text} (there : s.component? r = some c)
    (instruction : c.instruction = .text u) : Bears s isStrict (.object r) u.strip.upper
  | label {r : Ref} {lab : Label} {us : List Text} (there : s.label? r = some lab)
    (ready : List.Forall₂ s.HasReady lab.components us) (noted : lab.noted isStrict = .ok ()) :
    Bears s isStrict (.object r) (Text.join "\n" us).strip.upper

open Zpl.Action

/-- Such a value is looked at without a change to any object. -/
theorem Bears.token_eq {v : Value} {t : Text} {around : Surroundings}
    (h : s.Bears around.isStrict v t) (hs : s.IsGenuine) :
    ∃ notes : List Event, (∀ e ∈ notes, e.isRoutine = true) ∧
      Action.token v around s = .ok t (s.noting notes) := by
  obtain ⟨fuel, hfuel⟩ := s.depth_eq
  have look (r : Ref) : Action.token (.object r) around s =
      (Writing.shownObject (Writing.within (fuel + 1)) [] r >>= fun t => pure t.strip.upper :
        Action Text) around s := by
    rw [Action.token_apply, reader, hfuel]
    rfl
  cases h with
  | plain plain h =>
    refine ⟨[], by simp, ?_⟩
    rw [Action.token_eq plain, h, noting_nil]
    rfl
  | @component r c u there instruction =>
    refine ⟨[], by simp, ?_⟩
    rw [look, noting_nil]
    refine bind_eq (bind_eq (Writing.thing_eq_ok (component?_eq_some_iff.1 there) around) ?_) rfl
    dsimp only
    rw [instruction]
    rfl
  | @label r lab us there ready noted =>
    obtain ⟨notes, routine, code⟩ := Writing.code_ready fuel [] hs there ready noted
    refine ⟨notes, routine, ?_⟩
    rw [look]
    refine bind_eq (bind_eq (Writing.thing_eq_ok (label?_eq_some_iff.1 there) around) ?_) rfl
    refine bind_eq (a := .text (Text.join "\n" us)) ?_ rfl
    rw [dispatch_of_unattached (hs r "get_label_code" (by decide))]
    exact bind_eq code rfl

/-- An object that is shown is there. If it is no component, and no label of ready-made
instructions, what it is shown as is marked. -/
theorem shown_cases {fuel : Nat} {inside : List Ref} {r : Ref} {u : Text} {around : Surroundings}
    (hs : s.IsGenuine) (h : ((Writing.within (fuel + 2) inside).shown r).outcome around s = .ok u) :
    (∃ x, s.thing? r = some x) ∧
      (s.Bears around.isStrict (.object r) u.strip.upper ∨ s.component? r = none ∧ u.IsMarked) := by
  have inner := Writing.marks_within (fuel + 1)
  obtain ⟨x, hx, h⟩ := exists_of_outcome_bind h
  have there : s.thing? r = some x := by
    have looks : (thing r).outcome around s = (demand (s.thing? r)).outcome around s := rfl
    rw [looks] at hx
    cases hr : s.thing? r <;> rw [hr] at hx <;> cases hx
    rfl
  refine ⟨⟨x, there⟩, ?_⟩
  rw [after_thing] at h
  have other (hx : ∀ c, x ≠ .component c) : s.component? r = none := by
    cases hc : s.component? r with
    | none => rfl
    | some c =>
      rw [component?_eq_some_iff, there] at hc
      exact absurd (Option.some.inj hc) (hx c)
  cases x with
  | component c =>
    rw [outcome_lift] at h
    exact .inl (.component (component?_eq_some_iff.2 there) (Writing.eq_of_textOf h))
  | label lab =>
    obtain ⟨coded, hcoded, h⟩ := exists_of_outcome_bind h
    rw [outcome_dispatch hs (by decide)] at hcoded
    obtain ⟨u', hcode, rest⟩ := exists_of_outcome_bind hcoded
    cases rest
    rw [outcome_lift] at h
    cases h
    by_cases marked : u.IsMarked
    · exact .inr ⟨other (fun c hc => by cases hc), marked⟩
    obtain ⟨us, ready, noted, rfl⟩ :=
      Writing.hasReady_of_code fuel inside hs (label?_eq_some_iff.2 there) hcode marked
    exact .inl (.label (label?_eq_some_iff.2 there) ready noted)
  | content v =>
    have marks := Writing.marks_quotedContent inner inside r v
    exact .inr ⟨other (fun c hc => by cases hc), marks around s u h⟩
  | view record side =>
    have marks := Writing.marks_quotedView (Writing.within (fuel + 1)) inside r (.view record side)
    exact .inr ⟨other (fun c hc => by cases hc), marks around s u h⟩
  | window record => exact .inr ⟨other (fun c hc => by cases hc), inner inside record around s u h⟩
  | set seats =>
    have marks := Writing.marks_quotedSet (Writing.within (fuel + 1)) inside r seats.members
    exact .inr ⟨other (fun c hc => by cases hc), marks around s u h⟩
  | method m =>
    have marks := Writing.marks_quotedMethod (Writing.within (fuel + 1) inside) (.method m) m
    exact .inr ⟨other (fun c hc => by cases hc), marks around s u h⟩
  | backend b =>
    have marks := Marks.pure (Writing.isMarked_objectText (.backend b))
    exact .inr ⟨other (fun c hc => by cases hc), marks around s u h⟩
  | printer behind =>
    have marks := Marks.pure (Writing.isMarked_objectText (.printer behind))
    exact .inr ⟨other (fun c hc => by cases hc), marks around s u h⟩
  | handler =>
    have marks := Marks.pure (Writing.isMarked_objectText .handler)
    exact .inr ⟨other (fun c hc => by cases hc), marks around s u h⟩

/-- A row, a list or a record with objects in it is quoted, and so names no color. -/
theorem choice?_of_quoted {sc : Scribe Action} (hsc : ∀ r, (sc.quoted r).Marks) {v : Value}
    (plain : ¬ v.IsPlain) (hv : ∀ r, v ≠ .object r) {t : Text} {around : Surroundings}
    (h : (v.token sc).outcome around s = .ok t) : choice? (α := Color) t = none := by
  have quoted : (v.quoted sc >>= fun u => pure u.strip.upper).outcome around s = .ok t := by
    cases v with
    | object r => exact absurd rfl (hv r)
    | tuple vs => exact h
    | list vs => exact h
    | record keys values => exact h
    | _ => exact absurd trivial plain
  obtain ⟨u, hu, rest⟩ := exists_of_outcome_bind quoted
  cases rest
  exact (Value.marks_quoted hsc v around s u hu).choice?_eq_none

/-- What names a color is known before anything is generated. If it is an object, it is there. -/
theorem token_cases {v : Value} {t : Text} {around : Surroundings} (hs : s.IsGenuine)
    (h : (Action.token v).outcome around s = .ok t) :
    (∀ r, v = .object r → ∃ x, s.thing? r = some x) ∧
      (s.Bears around.isStrict v t ∨ ¬ v.IsPlain ∧ choice? (α := Color) t = none ∧
        ∀ r, v = .object r → s.component? r = none) := by
  obtain ⟨fuel, hfuel⟩ := s.depth_eq
  rw [outcome_congr (Action.token_apply v around s), Store.reader, hfuel] at h
  by_cases plain : v.IsPlain
  · rw [Value.token_eq _ plain, outcome_lift] at h
    refine ⟨fun r hr => ?_, .inl (.plain plain h)⟩
    subst hr
    exact plain.elim
  by_cases isObject : ∃ r, v = .object r
  · obtain ⟨r, rfl⟩ := isObject
    obtain ⟨u, hu, rest⟩ := exists_of_outcome_bind h
    cases rest
    obtain ⟨there, shown⟩ := shown_cases hs hu
    refine ⟨fun q hq => Value.object.inj hq ▸ there, shown.imp_right fun ⟨hc, marked⟩ => ?_⟩
    exact ⟨plain, marked.choice?_eq_none, fun q hq => Value.object.inj hq ▸ hc⟩
  · have other (r : Ref) : v ≠ .object r := fun hr => isObject ⟨r, hr⟩
    have marks : ∀ r, ((Writing.within (fuel + 2) []).quoted r).Marks := Writing.marks_within _ []
    exact ⟨fun r hr => absurd hr (other r), .inr ⟨plain, choice?_of_quoted marks plain other h,
      fun r hr => absurd hr (other r)⟩⟩

/-- What a value bears only depends on labels and on ready-made instructions, and on the instruction
that it is itself. -/
theorem Bears.transfer {isStrict : Bool} {t : Store} {v : Value} {a : Text}
    (h : s.Bears isStrict v a)
    (hlabel : ∀ r l, s.label? r = some l → t.label? r = some l)
    (hready : ∀ r u, s.HasReady r u → t.HasReady r u)
    (hself : ∀ r c, v = .object r → s.component? r = some c →
      ∃ c', t.component? r = some c' ∧ c'.instruction = c.instruction) : t.Bears isStrict v a := by
  cases h with
  | plain plain h => exact .plain plain h
  | @component r c u there instruction =>
    obtain ⟨c', hc', same⟩ := hself r c rfl there
    exact .component hc' (same.trans instruction)
  | @label r lab us there ready noted => exact .label (hlabel r lab there) (ready.imp hready) noted

/-- What a value bears is the same where more objects are. -/
theorem Bears.mono {isStrict : Bool} {t : Store} {v : Value} {a : Text} (h : s.Bears isStrict v a)
    (things : ∀ r x, s.thing? r = some x → t.thing? r = some x) : t.Bears isStrict v a := by
  have components (r : Ref) (c : Component) (hc : s.component? r = some c) :
      t.component? r = some c :=
    component?_eq_some_iff.2 (things r _ (component?_eq_some_iff.1 hc))
  refine h.transfer (fun r l hl => ?_) (fun r u hr => ?_)
    fun r c _ hc => ⟨c, components r c hc, rfl⟩
  · exact label?_eq_some_iff.2 (things r _ (label?_eq_some_iff.1 hl))
  · obtain ⟨c, hc, rest⟩ := hr
    exact ⟨c, components r c hc, rest⟩

end Store

namespace Action

variable {around : Surroundings} {s : Store} {v : Value} {t : Text}

/-- What asking for the text of a value may generate: nothing if no object occurs in the value, and
if it is a component, not that one. -/
def Generable (v : Value) (r : Ref) : Prop := ¬ v.IsPlain ∧ v ≠ .object r

theorem regenerated_token (hs : s.IsGenuine) (h : (token v).outcome around s = .ok t) :
    s.Regenerated (Generable v) ((token v).after around s) := by
  rcases (Store.token_cases hs h).2 with bears | ⟨objects, -, unlike⟩
  · obtain ⟨notes, routine, same⟩ := bears.token_eq hs
    rw [after_eq_ok same]
    exact .noting s routine
  · have kept := (spells_token v).regenerates around s hs
    refine ⟨⟨fun r => (kept.things r).imp_right ?_, kept.length, kept.attached⟩, kept.nans,
      kept.notes⟩
    rintro ⟨-, c, w, hc, rest⟩
    refine ⟨⟨objects, fun self => ?_⟩, c, w, hc, rest⟩
    exact absurd (Store.component?_eq_some_iff.2 hc) (by simp [unlike r self])

end Action

end Zpl
