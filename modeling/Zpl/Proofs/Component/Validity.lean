import Zpl.Proofs.Spelling
import Zpl.Proofs.Value.Whole

/-!
# What checks let through

A checked attribute is set to a canonical form of what is given, or it stays as it is. Here each
check is read as a promise on what it accepts. The promises on numbers are about the number before
its fraction is dropped, so they have to survive that; infinities and not-a-number never get there.

From the promises follows what every check of a component maintains, whatever the component was
before: `Component.IsSound` says so in terms of what is stored, and `Component.IsValid` in terms of
what the attributes read as.

## Main definitions

* `Action.Judges` — what holds of everything that a judgement accepts.
* `Kind.IsSound`, `Component.IsSound` — what checks maintain.
* `Component.IsValid` — every checked attribute reads as one of the values that it is meant to have.

## Main results

* `Kind.assign?_judges` — what an assignment accepts is sound if the component was.
* `Component.IsSound.isValid` — what is sound reads as valid.
-/

namespace Zpl

/-! ### What a verdict lets through -/

namespace Action

variable {α β : Type} {P : α → Prop}

/-- A judgement prints at most, and `P` holds of what it accepts. -/
structure Judges (judgement : Action (Verdict α)) (P : α → Prop) : Prop where
  regenerates : judgement.Regenerates
  accepts : ∀ around s a, judgement.outcome around s = .ok (.accepted a) → P a

namespace Judges

theorem ignored : (pure .ignored : Action (Verdict α)).Judges P :=
  ⟨.pure _, by simp⟩

theorem accepted {a : α} (h : P a) : (pure (.accepted a) : Action (Verdict α)).Judges P := by
  refine ⟨.pure _, fun _ _ b hb => ?_⟩
  cases hb
  exact h

/-- What goes before a judgement prints at most. -/
theorem bind {x : Action β} {f : β → Action (Verdict α)} (hx : x.Regenerates)
    (hf : ∀ b, (f b).Judges P) : (x >>= f).Judges P := by
  refine ⟨hx.bind fun b => (hf b).regenerates, fun around s a ha => ?_⟩
  rw [outcome_bind] at ha
  split at ha
  · exact (hf _).accepts _ _ _ ha
  · simp at ha

/-- A verdict on a part is one on the whole. -/
theorem map {Q : β → Prop} {f : α → β} {judgement : Action (Verdict α)} (h : judgement.Judges P)
    (hf : ∀ a, P a → Q (f a)) : (Verdict.map f <$> judgement).Judges Q := by
  rw [map_eq_pure_bind]
  refine ⟨h.regenerates.bind fun _ => .pure _, fun around s b hb => ?_⟩
  rw [outcome_bind] at hb
  split at hb
  · rename_i verdict hverdict
    cases verdict with
    | accepted a =>
      cases hb
      exact hf a (h.accepts _ _ _ hverdict)
    | ignored => cases hb
    | rejected _ => cases hb
  · simp at hb

end Judges

end Action

namespace Judgement

open Zpl.Action

variable {sc : Scribe Action}

theorem reject_judges {α : Type} {P : α → Prop} (hsc : sc.Regenerates) (before : Text) (v : Value)
    (after : Text) : (reject sc before v after).Judges P := by
  refine ⟨(Value.regenerates_quoted hsc v).bind fun _ => .pure _, fun around s a ha => ?_⟩
  rw [reject, outcome_bind] at ha
  split at ha <;> cases ha

theorem acceptWhole_judges {P : Int → Prop} {a : Number} (h : ∀ n, a.truncate = .ok n → P n) :
    (acceptWhole a : Action (Verdict Int)).Judges P := by
  refine ⟨(Regenerates.lift _).bind fun _ => .pure _, fun around s n hn => ?_⟩
  rw [acceptWhole, outcome_bind] at hn
  split at hn
  · rename_i m hm
    cases hn
    have hm := (outcome_lift (liftArithmetic a.truncate) around s).symm.trans hm
    cases htruncate : a.truncate with
    | ok k =>
      rw [htruncate] at hm
      cases hm
      exact h _ htruncate
    | error fault =>
      rw [htruncate] at hm
      cases hm
  · simp at hn

theorem dots_judges (hsc : sc.Regenerates) (name : Text) (v : Value) :
    (dots sc name v).Judges (0 ≤ ·) := by
  unfold dots
  split
  · exact reject_judges hsc _ _ _
  · split
    · rename_i enough
      exact acceptWhole_judges fun n => Number.le_truncate (by decide) enough
    · exact .ignored

theorem positiveDots_judges (hsc : sc.Regenerates) (name : Text) (v : Value) :
    (positiveDots sc name v).Judges (1 ≤ ·) := by
  unfold positiveDots
  split
  · split
    · rename_i enough
      exact acceptWhole_judges fun n => Number.le_truncate (by decide) enough
    · exact reject_judges hsc _ _ _
  · exact reject_judges hsc _ _ _

theorem cornerRadius_judges (hsc : sc.Regenerates) (v : Value) :
    (cornerRadius sc v).Judges fun n => 0 ≤ n ∧ n ≤ maxCornerRadius := by
  unfold cornerRadius
  split
  · split
    · rename_i within
      obtain ⟨low, high⟩ := Bool.and_eq_true_iff.1 within
      exact acceptWhole_judges fun n hn =>
        ⟨Number.le_truncate (by decide) low hn, Number.truncate_le (by decide) high hn⟩
    · exact reject_judges hsc _ _ _
  · exact reject_judges hsc _ _ _

/-- Every thickness that is accepted is one; what it is does not matter here. -/
theorem thickness_judges (hsc : sc.Regenerates) (v : Value) :
    (thickness sc v).Judges fun _ => True := by
  unfold thickness
  split
  · exact reject_judges hsc _ _ _
  · split
    · exact acceptWhole_judges fun _ _ => trivial
    · split
      · exact .accepted trivial
      · exact .ignored

theorem placement_judges (hsc : sc.Regenerates) (v : Value) :
    (placement sc v).Judges fun p => TextPlacement.ofValue? v = some p := by
  unfold placement
  split
  · rename_i named
    exact .accepted named
  · exact reject_judges hsc _ _ _

theorem rawSize_judges (v : Value) : (rawSize v : Action (Verdict Int)).Judges (0 ≤ ·) := by
  refine .bind (.lift _) fun n => .accepted ?_
  exact Int.le_max_left 0 n

theorem content_judges (hsc : sc.Regenerates) (v : Value) :
    (content sc v).Judges fun _ => True := by
  unfold content
  split
  · exact .bind (Value.regenerates_shown hsc v) fun _ => .accepted trivial
  · exact .ignored

/-! A token stands for one of a few choices, so nothing is left to say of what is accepted. -/

theorem color_judges (hsc : sc.Regenerates) (v : Value) : (color sc v).Judges fun _ => True := by
  refine .bind (Value.regenerates_token hsc v) fun t => ?_
  split
  · exact .accepted trivial
  · exact reject_judges hsc _ _ _

theorem slant_judges (hsc : sc.Regenerates) (v : Value) : (slant sc v).Judges fun _ => True := by
  refine .bind (Value.regenerates_token hsc v) fun t => ?_
  split
  · exact .accepted trivial
  · exact .ignored

theorem mode_judges (hsc : sc.Regenerates) (v : Value) : (mode sc v).Judges fun _ => True := by
  refine .bind (Value.regenerates_token hsc v) fun t => ?_
  split
  · exact .accepted trivial
  · exact reject_judges hsc _ _ _

theorem orientation_judges (hsc : sc.Regenerates) (v : Value) :
    (orientation sc v).Judges fun _ => True := by
  refine .bind (Value.regenerates_token hsc v) fun t => ?_
  split
  · exact .accepted trivial
  · exact reject_judges hsc _ _ _

end Judgement

/-! ### What the checks maintain -/

namespace Kind

/-- What every checked attribute of a kind keeps to. -/
def IsSound : Kind → Prop
  | .raw size => 0 ≤ size
  | .text line => 0 ≤ line.fontSize
  | .barcode b => 1 ≤ b.moduleWidth ∧ 1 ≤ b.barHeight ∧
      TextPlacement.ofValue? b.placementGiven = some b.placement
  | .shape s =>
    match s.figure with
    | .rectangle radius => 0 ≤ radius ∧ radius ≤ Judgement.maxCornerRadius
    | _ => True

/-- The alignments that a kind of component records. -/
def alignments : Kind → List Alignment
  | .raw _ => Tokened.all
  | .text _ => [.left, .center, .right, .justified]
  | .barcode _ => [.left, .center, .right, .bottom]
  | .shape _ => [.left, .center, .right, .bottom]

theorem figure_name_ne (f : Figure) :
    f.name ≠ "RawInstruction" ∧ f.name ≠ "Text" ∧ f.name ≠ "Barcode" := by
  cases f <;> simp [Figure.name]

/-- The kinds of one name are aligned alike. -/
theorem alignments_of_name {k k' : Kind} (h : k'.name = k.name) :
    k'.alignments = k.alignments := by
  cases k <;> cases k' <;>
    first
    | rfl
    | exact absurd h (figure_name_ne _).1
    | exact absurd h (figure_name_ne _).2.1
    | exact absurd h.symm (figure_name_ne _).1
    | exact absurd h.symm (figure_name_ne _).2.1
    | simp [name] at h

theorem left_mem_alignments (k : Kind) : Alignment.left ∈ k.alignments := by
  cases k <;> simp [alignments, Tokened.all]

end Kind

/-! ### What assignments keep -/

section

open Zpl.Action Judgement

variable {sc : Scribe Action} {a : Attribute} {v : Value}

theorem TextLine.assign?_judges (hsc : sc.Regenerates) {line : TextLine} (hl : 0 ≤ line.fontSize)
    {judgement : Action (Verdict TextLine)} (h : line.assign? sc v a = some judgement) :
    judgement.Judges fun line' => 0 ≤ line'.fontSize := by
  cases a <;> cases h
  case content => exact (content_judges hsc v).map fun _ _ => hl
  case fontSize => exact (dots_judges hsc _ v).map fun _ hn => hn

theorem Barcode.assign?_judges (hsc : sc.Regenerates) {b : Barcode} (hb : (Kind.barcode b).IsSound)
    {judgement : Action (Verdict Barcode)} (h : b.assign? sc v a = some judgement) :
    judgement.Judges fun b' => (Kind.barcode b').IsSound := by
  obtain ⟨width, height, placed⟩ := hb
  cases a <;> cases h
  case moduleWidth =>
    exact (positiveDots_judges hsc _ v).map fun _ hn => ⟨hn, height, placed⟩
  case barHeight => exact (positiveDots_judges hsc _ v).map fun _ hn => ⟨width, hn, placed⟩
  case placement => exact (placement_judges hsc v).map fun _ hp => ⟨width, height, hp⟩
  case mode => exact (mode_judges hsc v).map fun _ _ => ⟨width, height, placed⟩
  case orientation => exact (orientation_judges hsc v).map fun _ _ => ⟨width, height, placed⟩

theorem Shape.assign?_judges (hsc : sc.Regenerates) {s : Shape} (hs : (Kind.shape s).IsSound)
    {judgement : Action (Verdict Shape)} (h : s.assign? sc v a = some judgement) :
    judgement.Judges fun s' => (Kind.shape s').IsSound ∧ s'.figure.name = s.figure.name := by
  -- Only two attributes touch the figure, and they keep it a figure of the same sort.
  cases a with
  | width => cases h; exact (dots_judges hsc _ v).map fun _ _ => ⟨hs, rfl⟩
  | height => cases h; exact (dots_judges hsc _ v).map fun _ _ => ⟨hs, rfl⟩
  | thickness => cases h; exact (thickness_judges hsc v).map fun _ _ => ⟨hs, rfl⟩
  | color => cases h; exact (color_judges hsc v).map fun _ _ => ⟨hs, rfl⟩
  | cornerRadius =>
    simp only [assign?] at h
    split at h
    · rename_i figure
      cases h
      exact (cornerRadius_judges hsc v).map fun _ hn => ⟨hn, by rw [figure]; rfl⟩
    · simp at h
  | slant =>
    simp only [assign?] at h
    split at h
    · rename_i figure
      cases h
      exact (slant_judges hsc v).map fun _ _ => ⟨trivial, by rw [figure]; rfl⟩
    · simp at h
  | _ => simp [assign?] at h

/-- Whatever is assigned to a sound kind, what is accepted is sound and of the same name. -/
theorem Kind.assign?_judges (hsc : sc.Regenerates) {k : Kind} (hk : k.IsSound)
    {judgement : Action (Verdict Kind)} (h : k.assign? sc a v = some judgement) :
    judgement.Judges fun k' => k'.IsSound ∧ k'.name = k.name := by
  cases k with
  | raw size =>
    cases a <;> cases h
    exact (rawSize_judges v).map fun _ hn => ⟨hn, rfl⟩
  | text line =>
    obtain ⟨_, hassign, h⟩ := Option.bind_eq_some_iff.1 h
    cases h
    exact (line.assign?_judges hsc hk hassign).map fun _ hl => ⟨hl, rfl⟩
  | barcode b =>
    obtain ⟨_, hassign, h⟩ := Option.bind_eq_some_iff.1 h
    cases h
    exact (b.assign?_judges hsc hk hassign).map fun _ hb => ⟨hb, rfl⟩
  | shape s =>
    obtain ⟨_, hassign, h⟩ := Option.bind_eq_some_iff.1 h
    cases h
    exact (s.assign?_judges hsc hk hassign).map fun _ hs => hs

end

/-! ### What attributes read as -/

/-- A whole number that is not below a least one. -/
def Value.IsFrom (least : Int) (v : Value) : Prop := ∃ n, v = .int n ∧ least ≤ n

/-- One of a few tokens. -/
def Value.IsAmong (tokens : List Text) (v : Value) : Prop := ∃ t ∈ tokens, v = .text t

namespace Component

/-- What the checks maintain of a component. -/
structure IsSound (c : Component) : Prop where
  kind : c.kind.IsSound
  alignment : ∃ a ∈ c.kind.alignments, c.alignment = .text (token a)

/-- An attribute reads as a value of which `P` holds. -/
def Shows (c : Component) (name : String) (P : Value → Prop) : Prop :=
  ∃ v, c.fields.lookup name = some (.ok v) ∧ P v

/-- Every checked attribute reads as one of the values that it is meant to have. The placement that
a barcode prints the flags of is the one whose number was given. -/
def IsValid (c : Component) : Prop :=
  match c.kind with
  | .raw _ => c.Shows "component_size" (Value.IsFrom 0)
  | .text _ =>
    c.Shows "font_size" (Value.IsFrom 0) ∧
    c.Shows "alignment" (Value.IsAmong ["L", "C", "R", "J"])
  | .barcode b =>
    c.Shows "module_width" (Value.IsFrom 1) ∧
    c.Shows "bar_height" (Value.IsFrom 1) ∧
    c.Shows "mode" (Value.IsAmong ["N", "U", "A", "D"]) ∧
    c.Shows "orientation" (Value.IsAmong ["N", "R", "I", "B"]) ∧
    c.Shows "alignment" (Value.IsAmong ["L", "C", "R", "B"]) ∧
    c.Shows "text_placement" (fun v => TextPlacement.ofValue? v = some b.placement) ∧
    c.Shows "component_size" (Value.IsFrom 1)
  | .shape s =>
    c.Shows "color" (Value.IsAmong ["B", "W"]) ∧
    c.Shows "alignment" (Value.IsAmong ["L", "C", "R", "B"]) ∧
    match s.figure with
    | .rectangle _ => c.Shows "corner_radius" fun v => ∃ n, v = .int n ∧ 0 ≤ n ∧ n ≤ 8
    | .ellipse => True
    | .diagonal _ => c.Shows "orientation" (Value.IsAmong ["R", "L"])

/-- A token is one of the tokens of the choices that it is one of. -/
theorem isAmong_token {α : Type} [Tokened α] {a : α} {choices : List α} (h : a ∈ choices) :
    Value.IsAmong (choices.map token) (.text (token a)) :=
  ⟨token a, List.mem_map_of_mem h, rfl⟩

/-- Bars are at least one dot high, whatever is printed below them. -/
theorem footprint_barcode {b : Barcode} (h : 1 ≤ b.barHeight) : 1 ≤ b.footprint := by
  unfold Barcode.footprint textBelowDots
  split <;> omega

theorem IsSound.isValid {c : Component} (h : c.IsSound) : c.IsValid := by
  obtain ⟨id, x, y, labelWidth, labelHeight, alignment, instruction, listener, kind⟩ := c
  obtain ⟨sound, a, ha, rfl⟩ := h
  cases kind with
  | raw size => exact ⟨_, rfl, size, rfl, sound⟩
  | text line => exact ⟨⟨_, rfl, line.fontSize, rfl, sound⟩, _, rfl, isAmong_token ha⟩
  | barcode b =>
    obtain ⟨width, height, placed⟩ := sound
    have mode : b.mode ∈ [.plain, .uccCase, .automatic, .new] := by cases b.mode <;> decide
    have orientation : b.orientation ∈ [.normal, .rotated, .inverted, .bottomUp] := by
      cases b.orientation <;> decide
    exact ⟨⟨_, rfl, b.moduleWidth, rfl, width⟩, ⟨_, rfl, b.barHeight, rfl, height⟩,
      ⟨_, rfl, isAmong_token mode⟩, ⟨_, rfl, isAmong_token orientation⟩,
      ⟨_, rfl, isAmong_token ha⟩, ⟨_, rfl, placed⟩,
      ⟨_, rfl, b.footprint, rfl, footprint_barcode height⟩⟩
  | shape s =>
    have color : s.color ∈ [.black, .white] := by cases s.color <;> decide
    refine ⟨⟨_, rfl, isAmong_token color⟩, ⟨_, rfl, isAmong_token ha⟩, ?_⟩
    obtain ⟨figure, width, height, thickness, color⟩ := s
    cases figure with
    | rectangle radius => exact ⟨_, rfl, radius, rfl, sound⟩
    | ellipse => trivial
    | diagonal slant =>
      have way : slant ∈ [.right, .left] := by cases slant <;> decide
      exact ⟨_, rfl, isAmong_token way⟩

end Component

end Zpl
