import Zpl.Proofs.Component.Placing
import Zpl.Proofs.Value.Numeral
import Zpl.Proofs.Value.Plain
import Zpl.Store.Attribute

/-!
# Setting checked attributes

A checked attribute looks at a value before it takes it. Whatever single value it is given, it takes
it in a canonical form, or it leaves the component as it is; and no other attribute changes. Two
kinds of values are looked at and cannot be dealt with: an endless number of dots passes for a size
but has no whole part, and a number with too many digits cannot be shown in a warning, or be read as
a token. On these, and on no others, setting an attribute fails, and then it changes nothing.

## Main definitions

* `Value.IsScalar` — nothing, a truth value, a number or a text.
* `Attribute.fault?` — what setting an attribute to such a value fails with, if it does.
* `Kind.Sets` — one attribute of a kind has another value, and all others are the same.
* `Action.Settled` — what can come of setting an attribute.

## Main results

* `Kind.faultOf_assign?` — the checks fail on the values that they cannot deal with.
* `Action.write_settles` — setting a checked attribute changes that attribute at most.
-/

namespace Zpl

/-! ### Single values -/

/-- Why a computation fails, if it does. -/
def faultOf {α : Type} : Except Fault α → Option Fault
  | .ok _ => none
  | .error fault => some fault

@[simp] theorem faultOf_ok {α : Type} (a : α) : faultOf (.ok a) = none := rfl

@[simp] theorem faultOf_error {α : Type} (fault : Fault) :
    faultOf (.error fault : Except Fault α) = some fault := rfl

@[simp] theorem faultOf_map {α β : Type} (f : α → β) (x : Except Fault α) :
    faultOf (f <$> x) = faultOf x := by
  cases x <;> rfl

/-- A computation in two parts, of which the second fails only if the first does. -/
theorem faultOf_bind {α β : Type} {x : Except Fault α} {f : α → Except Fault β}
    {fault? : Option Fault} (hx : faultOf x = fault?)
    (hf : ∀ a, fault? = none → faultOf (f a) = none) : faultOf (x >>= f) = fault? := by
  cases x with
  | ok a => exact (hf a hx.symm).trans hx
  | error fault => exact hx

namespace Value

variable {v : Value}

/-- Nothing, a truth value, a number or a text. -/
def IsScalar : Value → Prop
  | .none | .bool _ | .int _ | .float _ | .text _ => True
  | _ => False

theorem IsScalar.isPlain (h : v.IsScalar) : v.IsPlain := by
  cases v <;> trivial

/-- A number with too many digits cannot be shown. -/
def unwritable? : Value → Option Fault
  | .int n => if Decimal.isWritable n then Option.none else some .unwritable
  | _ => Option.none

/-- An endless number has no whole part. -/
def endless? : Value → Option Fault
  | .float (.infinity false) => some (.arithmetic .infinite)
  | _ => Option.none

/-- An endless number has no whole part, and a number below one is to be shown. -/
def endlessOrShort? : Value → Option Fault
  | .int n => if 1 ≤ n then Option.none else (Value.int n).unwritable?
  | v => v.endless?

theorem faultOf_write (n : Int) : faultOf (Decimal.write n) = (Value.int n).unwritable? := by
  rw [Decimal.write, unwritable?]
  split <;> rfl

/-- A single value can be shown unless it is a number with too many digits. -/
theorem faultOf_quoted (h : v.IsScalar) : faultOf (v.quoted .plain) = v.unwritable? := by
  cases v with
  | none => simp [quoted, unwritable?, pure, Except.pure]
  | bool b => cases b <;> simp [quoted, unwritable?, pure, Except.pure]
  | int n =>
    rw [quoted]
    exact faultOf_write n
  | float x => simp [quoted, unwritable?, pure, Except.pure]
  | text t => simp [quoted, unwritable?, pure, Except.pure]
  | _ => exact h.elim

theorem faultOf_shown (h : v.IsScalar) : faultOf (v.shown .plain) = v.unwritable? := by
  cases v with
  | text t => rfl
  | object r => exact h.elim
  | _ => exact faultOf_quoted h

/-- A single value is a token of some sort unless it is a number with too many digits. -/
theorem faultOf_token (h : v.IsScalar) : faultOf (v.token .plain) = v.unwritable? := by
  have shown := faultOf_shown h
  cases v with
  | none => rfl
  | _ => exact (faultOf_map (fun t : Text => t.strip.upper) _).trans shown

end Value

/-! ### What a check cannot deal with -/

namespace Judgement

variable {v : Value}

theorem faultOf_reject {α : Type} (h : v.IsScalar) (before after : Text) :
    faultOf (reject .plain before v after : Except Fault (Verdict α)) = v.unwritable? :=
  (faultOf_map (fun t => Verdict.rejected (before ++ t ++ after)) _).trans (Value.faultOf_quoted h)

/-- A number that compares with others has a whole part, unless it is endless. -/
theorem faultOf_acceptWhole {x : Binary64} {n : Int}
    (h : x.compareInt? n = some .gt ∨ x.compareInt? n = some .eq) :
    faultOf (acceptWhole (.float x)) = (Value.float x).endless? := by
  cases x with
  | nan payload => simp at h
  | infinity negative =>
    cases negative with
    | true => simp [Binary64.compareInt?] at h
    | false => rfl
  | finite negative m q => rfl

theorem endless?_eq_none {x : Binary64} {n : Int}
    (h : ¬ (x.compareInt? n = some .gt ∨ x.compareInt? n = some .eq)) :
    (Value.float x).endless? = none := by
  cases x with
  | infinity negative =>
    cases negative with
    | true => rfl
    | false => simp [Binary64.compareInt?] at h
  | _ => rfl

theorem faultOf_dots (h : v.IsScalar) (name : Text) :
    faultOf (dots .plain name v) = v.endless? := by
  cases v with
  | int n =>
    rw [dots, Value.dots?_int]
    dsimp only
    split <;> rfl
  | float x =>
    change faultOf (if Number.atLeast (.float x) 0 then _ else _) = _
    simp only [Number.atLeast, Number.compareInt?, Bool.or_eq_true, beq_iff_eq]
    split
    · rename_i enough
      exact faultOf_acceptWhole enough
    · rename_i few
      exact (endless?_eq_none few).symm
  | _ => exact faultOf_reject h _ _

theorem faultOf_thickness (h : v.IsScalar) : faultOf (thickness .plain v) = v.endless? := by
  cases v with
  | int n =>
    rw [thickness, Value.dots?_int]
    dsimp only
    split
    · rfl
    · split <;> rfl
  | float x =>
    change faultOf (if Number.isPositive (.float x) then _ else if Number.isZero (.float x) then _
      else _) = _
    simp only [Number.isPositive, Number.isZero, Number.compareInt?, beq_iff_eq]
    split
    · rename_i positive
      exact faultOf_acceptWhole (.inl positive)
    · split
      · rename_i zero
        cases x with
        | infinity negative => cases negative <;> cases zero
        | _ => rfl
      · rename_i above zero
        exact (endless?_eq_none (not_or.2 ⟨above, zero⟩)).symm
  | _ => exact faultOf_reject h _ _

theorem faultOf_positiveDots (h : v.IsScalar) (name : Text) :
    faultOf (positiveDots .plain name v) = v.endlessOrShort? := by
  cases v with
  | int n =>
    rw [positiveDots, Value.dots?_int]
    simp only [Number.atLeast_int, decide_eq_true_eq, Value.endlessOrShort?]
    split
    · rfl
    · exact faultOf_reject h _ _
  | float x =>
    change faultOf (if Number.atLeast (.float x) 1 then _ else _) = (Value.float x).endless?
    simp only [Number.atLeast, Number.compareInt?, Bool.or_eq_true, beq_iff_eq]
    split
    · rename_i enough
      exact faultOf_acceptWhole enough
    · rename_i few
      exact (faultOf_reject h _ _).trans (endless?_eq_none few).symm
  | _ => exact faultOf_reject h _ _

theorem faultOf_cornerRadius (h : v.IsScalar) :
    faultOf (cornerRadius .plain v) = v.unwritable? := by
  cases v with
  | int n =>
    rw [cornerRadius, Value.dots?_int]
    dsimp only
    split
    · rename_i within
      simp only [Number.atLeast_int, Number.atMost_int, maxCornerRadius, Bool.and_eq_true,
        decide_eq_true_eq] at within
      rw [Value.unwritable?, if_pos (Decimal.isWritable_of_small (by omega))]
      rfl
    · exact faultOf_reject h _ _
  | float x =>
    change faultOf (if Number.atLeast (.float x) 0 && Number.atMost (.float x) maxCornerRadius then
      _ else _) = _
    simp only [Number.atLeast, Number.atMost, Number.compareInt?, Bool.and_eq_true,
      Bool.or_eq_true, beq_iff_eq]
    split
    · rename_i within
      cases x with
      | infinity negative => cases negative <;> simp [Binary64.compareInt?] at within
      | _ => exact faultOf_acceptWhole within.1
    · exact faultOf_reject h _ _
  | _ => exact faultOf_reject h _ _

theorem faultOf_placement (h : v.IsScalar) : faultOf (placement .plain v) = v.unwritable? := by
  unfold placement
  split
  · rename_i p named
    have equal := List.find?_some named
    cases v with
    | int n =>
      rw [Value.same_int, decide_eq_true_eq] at equal
      subst equal
      cases p <;> rfl
    | _ => rfl
  · exact faultOf_reject h _ _

theorem faultOf_content (h : v.IsScalar) : faultOf (content .plain v) = v.unwritable? := by
  unfold content
  split
  · exact (faultOf_map Verdict.accepted _).trans (Value.faultOf_shown h)
  · rename_i empty
    cases v with
    | int n =>
      have nothing : n = 0 := by simpa [Value.truth] using empty
      subst nothing
      rfl
    | _ => rfl

theorem faultOf_color (h : v.IsScalar) : faultOf (color .plain v) = v.unwritable? := by
  refine faultOf_bind (Value.faultOf_token h) fun t writable => ?_
  split
  · rfl
  · exact (faultOf_reject h _ _).trans writable

theorem faultOf_slant (h : v.IsScalar) : faultOf (slant .plain v) = v.unwritable? := by
  refine faultOf_bind (Value.faultOf_token h) fun t writable => ?_
  split <;> rfl

theorem faultOf_mode (h : v.IsScalar) : faultOf (mode .plain v) = v.unwritable? := by
  refine faultOf_bind (Value.faultOf_token h) fun t writable => ?_
  split
  · rfl
  · exact (faultOf_reject h _ _).trans writable

theorem faultOf_orientation (h : v.IsScalar) : faultOf (orientation .plain v) = v.unwritable? := by
  refine faultOf_bind (Value.faultOf_token h) fun t writable => ?_
  split
  · rfl
  · exact (faultOf_reject h _ _).trans writable

/-! ### One verdict, whoever prints -/

section

variable {m : Type → Type} [Monad m] [LawfulMonad m] [MonadLiftT (Except Fault) m]
  [LawfulMonadLiftT (Except Fault) m]

theorem reject_eq {α : Type} (sc : Scribe m) (h : v.IsPlain) (before after : Text) :
    (reject sc before v after : m (Verdict α)) =
      liftM (reject .plain before v after : Except Fault (Verdict α)) := by
  rw [reject, reject, Value.quoted_eq sc v h]
  simp

theorem acceptWhole_eq (a : Number) :
    (acceptWhole a : m (Verdict Int)) = liftM (acceptWhole a : Except Fault (Verdict Int)) := by
  rw [acceptWhole, acceptWhole]
  simp

theorem dots_eq (sc : Scribe m) (h : v.IsPlain) (name : Text) :
    dots sc name v = (liftM (dots .plain name v) : m (Verdict Int)) := by
  unfold dots
  split
  · exact reject_eq sc h _ _
  · split
    · exact acceptWhole_eq _
    · simp

theorem thickness_eq (sc : Scribe m) (h : v.IsPlain) :
    thickness sc v = (liftM (thickness .plain v) : m (Verdict Int)) := by
  unfold thickness
  split
  · exact reject_eq sc h _ _
  · split
    · exact acceptWhole_eq _
    · split <;> simp

theorem positiveDots_eq (sc : Scribe m) (h : v.IsPlain) (name : Text) :
    positiveDots sc name v = (liftM (positiveDots .plain name v) : m (Verdict Int)) := by
  unfold positiveDots
  split
  · split
    · exact acceptWhole_eq _
    · exact reject_eq sc h _ _
  · exact reject_eq sc h _ _

theorem cornerRadius_eq (sc : Scribe m) (h : v.IsPlain) :
    cornerRadius sc v = (liftM (cornerRadius .plain v) : m (Verdict Int)) := by
  unfold cornerRadius
  split
  · split
    · exact acceptWhole_eq _
    · exact reject_eq sc h _ _
  · exact reject_eq sc h _ _

theorem color_eq (sc : Scribe m) (h : v.IsPlain) :
    color sc v = (liftM (color .plain v) : m (Verdict Color)) := by
  simp only [color, Value.token_eq sc h]
  rw [liftM_bind]
  congr 1
  funext t
  split
  · simp
  · exact reject_eq sc h _ _

theorem slant_eq (sc : Scribe m) (h : v.IsPlain) :
    slant sc v = (liftM (slant .plain v) : m (Verdict Slant)) := by
  simp only [slant, Value.token_eq sc h]
  rw [liftM_bind]
  congr 1
  funext t
  split <;> simp

theorem mode_eq (sc : Scribe m) (h : v.IsPlain) :
    mode sc v = (liftM (mode .plain v) : m (Verdict BarcodeMode)) := by
  simp only [mode, Value.token_eq sc h]
  rw [liftM_bind]
  congr 1
  funext t
  split
  · simp
  · exact reject_eq sc h _ _

theorem orientation_eq (sc : Scribe m) (h : v.IsPlain) :
    orientation sc v = (liftM (orientation .plain v) : m (Verdict Orientation)) := by
  simp only [orientation, Value.token_eq sc h]
  rw [liftM_bind]
  congr 1
  funext t
  split
  · simp
  · exact reject_eq sc h _ _

theorem placement_eq (sc : Scribe m) (h : v.IsPlain) :
    placement sc v = (liftM (placement .plain v) : m (Verdict TextPlacement)) := by
  unfold placement
  split
  · simp
  · exact reject_eq sc h _ _

theorem content_eq (sc : Scribe m) (h : v.IsPlain) :
    content sc v = (liftM (content .plain v) : m (Verdict Text)) := by
  unfold content
  rw [Value.truth_eq sc.facts h, Value.shown_eq sc h]
  change (if v.truth .empty then _ else _) = liftM (if v.truth .empty then _ else _)
  split <;> simp

theorem rawSize_eq (v : Value) :
    (rawSize v : m (Verdict Int)) = liftM (rawSize v : Except Fault (Verdict Int)) := by
  rw [rawSize, rawSize]
  simp

end

end Judgement

/-! ### Verdicts on a component -/

section

open Judgement

variable {m : Type → Type} [Monad m] [LawfulMonad m] [MonadLiftT (Except Fault) m]
  [LawfulMonadLiftT (Except Fault) m] {v : Value}

theorem settling_eq {α β : Type} (f : α → β) (judgement : Except Fault (Verdict α)) :
    settling f (liftM judgement : m (Verdict α)) =
      (settling f judgement).map fun verdict => (liftM verdict : m (Verdict β)) := by
  simp [settling]

theorem bind_settling_eq {α β : Type} (f : α → β)
    (judgement? : Option (Except Fault (Verdict α))) :
    (judgement?.map fun verdict => (liftM verdict : m (Verdict α))).bind (settling f) =
      (judgement?.bind (settling f)).map fun verdict => (liftM verdict : m (Verdict β)) := by
  cases judgement? with
  | none => rfl
  | some judgement => exact settling_eq f judgement

theorem TextLine.assign?_eq (sc : Scribe m) (h : v.IsPlain) (line : TextLine) (a : Attribute) :
    line.assign? sc v a =
      (line.assign? .plain v a).map fun verdict => (liftM verdict : m (Verdict TextLine)) := by
  cases a with
  | content => simp only [assign?, content_eq sc h, settling_eq]
  | fontSize => simp only [assign?, dots_eq sc h, settling_eq]
  | _ => rfl

theorem Barcode.assign?_eq (sc : Scribe m) (h : v.IsPlain) (b : Barcode) (a : Attribute) :
    b.assign? sc v a =
      (b.assign? .plain v a).map fun verdict => (liftM verdict : m (Verdict Barcode)) := by
  cases a with
  | moduleWidth => simp only [assign?, positiveDots_eq sc h, settling_eq]
  | barHeight => simp only [assign?, positiveDots_eq sc h, settling_eq]
  | placement => simp only [assign?, placement_eq sc h, settling_eq]
  | mode => simp only [assign?, mode_eq sc h, settling_eq]
  | orientation => simp only [assign?, orientation_eq sc h, settling_eq]
  | _ => rfl

theorem Shape.assign?_eq (sc : Scribe m) (h : v.IsPlain) (form : Shape) (a : Attribute) :
    form.assign? sc v a =
      (form.assign? .plain v a).map fun verdict => (liftM verdict : m (Verdict Shape)) := by
  cases a with
  | width => simp only [assign?, dots_eq sc h, settling_eq]
  | height => simp only [assign?, dots_eq sc h, settling_eq]
  | thickness => simp only [assign?, thickness_eq sc h, settling_eq]
  | color => simp only [assign?, color_eq sc h, settling_eq]
  | cornerRadius =>
    simp only [assign?, cornerRadius_eq sc h, settling_eq]
    split <;> rfl
  | slant =>
    simp only [assign?, slant_eq sc h, settling_eq]
    split <;> rfl
  | _ => rfl

/-- What is made of a plain value is the same for everybody. -/
theorem Kind.assign?_eq (sc : Scribe m) (h : v.IsPlain) (k : Kind) (a : Attribute) :
    k.assign? sc a v =
      (k.assign? .plain a v).map fun verdict => (liftM verdict : m (Verdict Kind)) := by
  cases k with
  | raw size =>
    cases a with
    | size => simp only [assign?, rawSize_eq (m := m), settling_eq]
    | _ => rfl
  | text line => simp only [assign?, line.assign?_eq sc h, bind_settling_eq]
  | barcode b => simp only [assign?, b.assign?_eq sc h, bind_settling_eq]
  | shape form => simp only [assign?, form.assign?_eq sc h, bind_settling_eq]

end

/-- What setting an attribute to a single value fails with, if it does. Sizes cannot be endless,
numbers with too many digits cannot be shown or read as tokens, and the size of a ready-made
instruction is whatever can be converted to a whole number. -/
def Attribute.fault? (a : Attribute) (v : Value) : Option Fault :=
  match a with
  | .size => faultOf v.toInt
  | .width | .height | .thickness | .fontSize => v.endless?
  | .moduleWidth | .barHeight => v.endlessOrShort?
  | .content | .placement | .mode | .orientation | .color | .cornerRadius | .slant =>
    v.unwritable?

section

open Judgement

variable {a : Attribute} {v : Value}

theorem faultOf_settling {α β : Type} {f : α → β} {judgement : Except Fault (Verdict α)}
    {verdict : Except Fault (Verdict β)} (h : settling f judgement = some verdict) :
    faultOf verdict = faultOf judgement := by
  cases h
  exact faultOf_map _ _

theorem TextLine.faultOf_assign? (hv : v.IsScalar) {line : TextLine}
    {verdict : Except Fault (Verdict TextLine)} (h : line.assign? .plain v a = some verdict) :
    faultOf verdict = a.fault? v := by
  cases a with
  | content => exact (faultOf_settling h).trans (faultOf_content hv)
  | fontSize => exact (faultOf_settling h).trans (faultOf_dots hv _)
  | _ => cases h

theorem Barcode.faultOf_assign? (hv : v.IsScalar) {b : Barcode}
    {verdict : Except Fault (Verdict Barcode)} (h : b.assign? .plain v a = some verdict) :
    faultOf verdict = a.fault? v := by
  cases a with
  | moduleWidth => exact (faultOf_settling h).trans (faultOf_positiveDots hv _)
  | barHeight => exact (faultOf_settling h).trans (faultOf_positiveDots hv _)
  | placement => exact (faultOf_settling h).trans (faultOf_placement hv)
  | mode => exact (faultOf_settling h).trans (faultOf_mode hv)
  | orientation => exact (faultOf_settling h).trans (faultOf_orientation hv)
  | _ => cases h

theorem Shape.faultOf_assign? (hv : v.IsScalar) {form : Shape}
    {verdict : Except Fault (Verdict Shape)} (h : form.assign? .plain v a = some verdict) :
    faultOf verdict = a.fault? v := by
  cases a with
  | width => exact (faultOf_settling h).trans (faultOf_dots hv _)
  | height => exact (faultOf_settling h).trans (faultOf_dots hv _)
  | thickness => exact (faultOf_settling h).trans (faultOf_thickness hv)
  | color => exact (faultOf_settling h).trans (faultOf_color hv)
  | cornerRadius =>
    simp only [assign?] at h
    split at h
    · exact (faultOf_settling h).trans (faultOf_cornerRadius hv)
    · cases h
  | slant =>
    simp only [assign?] at h
    split at h
    · exact (faultOf_settling h).trans (faultOf_slant hv)
    · cases h
  | _ => cases h

/-- The checks of an attribute fail on the values that they cannot deal with, and on no others. -/
theorem Kind.faultOf_assign? (hv : v.IsScalar) {k : Kind} {verdict : Except Fault (Verdict Kind)}
    (h : k.assign? .plain a v = some verdict) : faultOf verdict = a.fault? v := by
  cases k with
  | raw size =>
    cases a with
    | size => exact (faultOf_settling h).trans (faultOf_map _ _)
    | _ => cases h
  | text line =>
    obtain ⟨judgement, hline, h⟩ := Option.bind_eq_some_iff.1 h
    exact (faultOf_settling h).trans (line.faultOf_assign? hv hline)
  | barcode b =>
    obtain ⟨judgement, hb, h⟩ := Option.bind_eq_some_iff.1 h
    exact (faultOf_settling h).trans (b.faultOf_assign? hv hb)
  | shape form =>
    obtain ⟨judgement, hform, h⟩ := Option.bind_eq_some_iff.1 h
    exact (faultOf_settling h).trans (form.faultOf_assign? hv hform)

end

/-! ### One attribute at most -/

/-- One attribute of a kind has another value, and all others are the same. -/
inductive Kind.Sets : Attribute → Kind → Kind → Prop
  | size (m n : Int) : Sets .size (.raw m) (.raw n)
  | content (line : TextLine) (t : Text) :
    Sets .content (.text line) (.text { line with content := t })
  | fontSize (line : TextLine) (n : Int) :
    Sets .fontSize (.text line) (.text { line with fontSize := n })
  | moduleWidth (b : Barcode) (n : Int) :
    Sets .moduleWidth (.barcode b) (.barcode { b with moduleWidth := n })
  | barHeight (b : Barcode) (n : Int) :
    Sets .barHeight (.barcode b) (.barcode { b with barHeight := n })
  | placement (b : Barcode) (p : TextPlacement) (given : Value) :
    Sets .placement (.barcode b) (.barcode { b with placement := p, placementGiven := given })
  | mode (b : Barcode) (mode : BarcodeMode) :
    Sets .mode (.barcode b) (.barcode { b with mode := mode })
  | orientation (b : Barcode) (o : Orientation) :
    Sets .orientation (.barcode b) (.barcode { b with orientation := o })
  | width (form : Shape) (n : Int) :
    Sets .width (.shape form) (.shape { form with width := .int n })
  | height (form : Shape) (n : Int) :
    Sets .height (.shape form) (.shape { form with height := .int n })
  | thickness (form : Shape) (n : Int) :
    Sets .thickness (.shape form) (.shape { form with thickness := n })
  | color (form : Shape) (color : Color) :
    Sets .color (.shape form) (.shape { form with color := color })
  | cornerRadius (form : Shape) (n : Int) :
    Sets .cornerRadius (.shape form) (.shape { form with figure := .rectangle n })
  | slant (form : Shape) (slant : Slant) :
    Sets .slant (.shape form) (.shape { form with figure := .diagonal slant })

section

variable {a : Attribute} {v : Value}

theorem accepted_of_settling {α β : Type} {f : α → β} {judgement : Except Fault (Verdict α)} {b : β}
    (h : settling f judgement = some (.ok (.accepted b))) :
    ∃ x, judgement = .ok (.accepted x) ∧ f x = b := by
  cases judgement with
  | error fault => cases h
  | ok verdict =>
    cases verdict with
    | accepted x =>
      cases h
      exact ⟨x, rfl, rfl⟩
    | ignored => cases h
    | rejected message => cases h

/-- What an attribute accepts is another value for it. -/
theorem Kind.sets_of_assign? {k k' : Kind}
    (h : k.assign? .plain a v = some (.ok (.accepted k'))) : k.Sets a k' := by
  cases k with
  | raw size =>
    cases a with
    | size =>
      obtain ⟨n, -, rfl⟩ := accepted_of_settling h
      exact .size _ _
    | _ => cases h
  | text line =>
    obtain ⟨judgement, hline, h⟩ := Option.bind_eq_some_iff.1 h
    obtain ⟨line', rfl, rfl⟩ := accepted_of_settling h
    cases a with
    | content => obtain ⟨t, -, rfl⟩ := accepted_of_settling hline; exact .content _ _
    | fontSize => obtain ⟨n, -, rfl⟩ := accepted_of_settling hline; exact .fontSize _ _
    | _ => cases hline
  | barcode b =>
    obtain ⟨judgement, hb, h⟩ := Option.bind_eq_some_iff.1 h
    obtain ⟨b', rfl, rfl⟩ := accepted_of_settling h
    cases a with
    | moduleWidth => obtain ⟨n, -, rfl⟩ := accepted_of_settling hb; exact .moduleWidth _ _
    | barHeight => obtain ⟨n, -, rfl⟩ := accepted_of_settling hb; exact .barHeight _ _
    | placement => obtain ⟨p, -, rfl⟩ := accepted_of_settling hb; exact .placement _ _ _
    | mode => obtain ⟨mode, -, rfl⟩ := accepted_of_settling hb; exact .mode _ _
    | orientation => obtain ⟨o, -, rfl⟩ := accepted_of_settling hb; exact .orientation _ _
    | _ => cases hb
  | shape form =>
    obtain ⟨judgement, hform, h⟩ := Option.bind_eq_some_iff.1 h
    obtain ⟨form', rfl, rfl⟩ := accepted_of_settling h
    cases a with
    | width => obtain ⟨n, -, rfl⟩ := accepted_of_settling hform; exact .width _ _
    | height => obtain ⟨n, -, rfl⟩ := accepted_of_settling hform; exact .height _ _
    | thickness => obtain ⟨n, -, rfl⟩ := accepted_of_settling hform; exact .thickness _ _
    | color => obtain ⟨color, -, rfl⟩ := accepted_of_settling hform; exact .color _ _
    | cornerRadius =>
      simp only [Shape.assign?] at hform
      split at hform
      · obtain ⟨n, -, rfl⟩ := accepted_of_settling hform
        exact .cornerRadius _ _
      · cases hform
    | slant =>
      simp only [Shape.assign?] at hform
      split at hform
      · obtain ⟨way, -, rfl⟩ := accepted_of_settling hform
        exact .slant _ _
      · cases hform
    | _ => cases hform

/-- A kind has the attributes that go by a name with it. -/
theorem Kind.assign?_of_validated? {m : Type → Type} [Monad m] [MonadLiftT (Except Fault) m]
    {k : Kind} {name : String} (h : k.validated? name = some a) (sc : Scribe m) :
    ∃ verdict, k.assign? sc a v = some verdict := by
  unfold validated? at h
  split at h <;> cases h <;> exact ⟨_, rfl⟩

end

/-! ### Warnings -/

/-- A component can warn: its name can be shown, and whoever is told listens. -/
structure Component.CanWarn (s : Store) (c : Component) : Prop where
  isPlain : c.id.IsPlain
  shown : ∃ t, c.id.shown .plain = .ok t
  listener : c.listener = .none ∨ s.isHandler c.listener = true

namespace Action

open Edit

variable {around : Surroundings} {s : Store} {r : Ref} {c : Component}

theorem shown_eq_ok {v : Value} (hv : v.IsPlain) {t : Text} (ht : v.shown .plain = .ok t) :
    shown v around s = .ok t s := by
  rw [shown_eq hv, ht]
  rfl

/-- Whoever is told of a warning takes note of it. -/
theorem listener_eq_ok {t : Store} (can : c.CanWarn t) (r : Ref) (message : Text)
    (around : Surroundings) :
    ∃ events, (match c.listener with
      | .none => pure ()
      | listener => do
        if (← get).isHandler listener then
          issue (Issuing.emit (.warning c.kind.name c.id (.text message)))
        else
          let _ ← invoke listener { inRow := [.object r, .text message] } : Action Unit) around t =
      .ok () { t with events := t.events ++ events } := by
  rcases can.listener with nobody | hears
  · rw [nobody]
    refine ⟨[], ?_⟩
    rw [List.append_nil]
    rfl
  · refine ⟨[.warning c.kind.name c.id (.text message)], ?_⟩
    cases hlistener : c.listener with
    | object q =>
      rw [hlistener] at hears
      refine bind_eq rfl ?_
      rw [if_pos hears]
      rfl
    | _ =>
      rw [hlistener] at hears
      cases hears

/-- A warning changes nothing, apart from being heard. -/
theorem warn_eq_ok (hc : s.component? r = some c) (can : c.CanWarn s) (message : Text)
    (around : Surroundings) :
    ∃ events, warn r message around s = .ok () { s with events := s.events ++ events } := by
  let note (tag : Text) : Event :=
    .log .warning .component (c.kind.name ++ tag ++ ": " ++ message)
  have heard (tag : Text) := listener_eq_ok (t := { s with events := s.events ++ [note tag] })
    ⟨can.isPlain, can.shown, can.listener⟩ r message around
  obtain ⟨id, hid⟩ := can.shown
  by_cases named : c.id.truth s.directory = true
  · obtain ⟨events, told⟩ := heard ("[" ++ id ++ "]")
    refine ⟨note ("[" ++ id ++ "]") :: events, bind_eq (component_eq_ok hc around) ?_⟩
    refine bind_eq rfl ?_
    rw [if_pos named]
    refine bind_eq (shown_eq_ok can.isPlain hid) (bind_eq rfl (bind_eq rfl (told.trans ?_)))
    simp
  · obtain ⟨events, told⟩ := heard []
    refine ⟨note [] :: events, bind_eq (component_eq_ok hc around) ?_⟩
    refine bind_eq rfl ?_
    rw [if_neg named]
    refine bind_eq rfl (bind_eq rfl (told.trans ?_))
    simp

/-- What can come of setting an attribute of the component `r` to a value. -/
inductive Settled (s : Store) (r : Ref) (c : Component) (a : Attribute) (v : Value) :
    EStateM.Result Fault Store Unit → Prop
  | accepted {kind : Kind} (judged : c.kind.assign? .plain a v = some (.ok (.accepted kind)))
      (sets : c.kind.Sets a kind) (able : a.fault? v = none) :
    Settled s r c a v (.ok () (s.put r (.component { c with kind := kind })))
  | refused (judged : ∀ kind, c.kind.assign? .plain a v ≠ some (.ok (.accepted kind)))
      (able : a.fault? v = none) (events : List Event) :
    Settled s r c a v (.ok () { s with events := s.events ++ events })
  | failed {fault : Fault} (unable : a.fault? v = some fault) : Settled s r c a v (.error fault s)

/-- Setting a checked attribute to a single value changes that attribute at most: a value that is
accepted takes the place of the old one, and any other leaves the store as it is. It fails on the
values that the checks of the attribute cannot deal with, and on no others. -/
theorem write_settles (hc : s.component? r = some c) {name : String} {a : Attribute}
    (hname : c.kind.validated? name = some a) {v : Value} (hv : v.IsScalar) (can : c.CanWarn s)
    (around : Surroundings) : Settled s r c a v (write r name v around s) := by
  have there : thing r around s = .ok (.component c) s := by
    have reads : thing r around s = demand (s.thing? r) around s := rfl
    rw [reads, Store.component?_eq_some_iff.1 hc]
    rfl
  obtain ⟨judgement, judged⟩ := Kind.assign?_of_validated? hname .plain
  have writes : write r name v around s =
      (liftM judgement >>= settle r : Action Unit) around s := by
    refine bind_eq there ?_
    have checked : validated? (.component c) name = some a := hname
    rw [checked]
    refine bind_eq (component_eq_ok hc around) (bind_eq rfl ?_)
    rw [Kind.assign?_eq _ hv.isPlain, judged]
    rfl
  have able := Kind.faultOf_assign? hv judged
  rw [writes]
  cases judgement with
  | error fault => exact .failed able.symm
  | ok verdict =>
    have settles : (liftM (.ok verdict : Except Fault (Verdict Kind)) >>= settle r : Action Unit)
        around s = settle r verdict around s := rfl
    rw [settles]
    cases verdict with
    | accepted kind =>
      rw [settle, modifyComponent_eq_ok hc]
      exact .accepted judged (Kind.sets_of_assign? judged) able.symm
    | ignored =>
      have stays : settle r .ignored around s = .ok () { s with events := s.events ++ [] } := by
        rw [List.append_nil]
        rfl
      rw [stays]
      exact .refused (by simp [judged]) able.symm []
    | rejected message =>
      obtain ⟨events, hwarn⟩ := warn_eq_ok hc can message around
      rw [settle, hwarn]
      exact .refused (by simp [judged]) able.symm events

/-- The width of a rectangle is no text, so it stays what it is. -/
theorem write_settles_text :
    let c : Component := { kind := .shape { figure := .rectangle 0, width := 300 } }
    let s : Store := { things := [.component c] }
    ∃ events, write 0 "width" (.text "ten") (.within {} s.depth) s =
      .ok () { s with events := events } := by
  intro c s
  have can : c.CanWarn s := ⟨trivial, ⟨_, rfl⟩, .inl rfl⟩
  have scalar : (Value.text "ten").IsScalar := trivial
  have settled : Settled s 0 c .width (.text "ten")
      (write 0 "width" (.text "ten") (.within {} s.depth) s) :=
    write_settles rfl rfl scalar can _
  generalize write 0 "width" (.text "ten") (.within {} s.depth) s = result at settled ⊢
  cases settled with
  | accepted judged => cases judged
  | refused _ _ events => exact ⟨events, rfl⟩
  | failed unable => cases unable

/-- An endless width passes for a number that is not below zero, but it has no whole part. -/
theorem write_endless :
    let c : Component := { kind := .shape { figure := .rectangle 0, width := 300 } }
    let s : Store := { things := [.component c] }
    write 0 "width" (.float (.infinity false)) (.within {} s.depth) s =
      .error (.arithmetic .infinite) s :=
  rfl

end Action

end Zpl
