import Mathlib.Algebra.Order.Group.Unbundled.Int
import Zpl.Proofs.Component.Alignment

/-!
# Centering

What is centered has the same gap on either side, if the difference between its canvas and itself is
even. Otherwise one dot is left over, and which side gets it is a matter of rounding: the gap on the
left is half of the difference, rounded toward zero, so that the dot goes to the right. Rounding
toward zero commutes with a change of sign, which rounding down does not. So the gaps of something
that is too wide for its canvas are those of something that is too narrow by as much, negated.

Only the width of the canvas and the width of the component have a part in it. Their heights may be
anything, and the data of a barcode may be whatever has a length.

## Main definitions

* `IsTruncatedQuotient` — what it means that a quotient is rounded toward zero.
* `IsBalanced` — what it means that two gaps share out a difference evenly.
* `Component.Spans` — the width of a canvas and the width of what is centered on it.

## Main results

* `Number.truncDiv_eq_ok_iff` — division of integers answers the quotient rounded toward zero, which
  is the only one.
* `IsTruncatedQuotient.isBalanced` — half of a difference balances it.
* `Action.centered_gaps` — the division and what comes of a request to be centered.
-/

namespace Zpl

/-! ### Quotients rounded toward zero -/

/-- The integer `q` is the quotient of `v` and `d` rounded toward zero: what it leaves of `v` is
smaller than `d` in magnitude, and is zero or has the sign of `v`. -/
structure IsTruncatedQuotient (v d q : Int) : Prop where
  small : |v - q * d| < |d|
  signed : v - q * d = 0 ∨ (v - q * d).sign = v.sign

namespace IsTruncatedQuotient

variable {v d p q : Int}

/-- There is such a quotient by every divisor but zero. -/
theorem tdiv (v : Int) {d : Int} (hd : d ≠ 0) : IsTruncatedQuotient v d (v.tdiv d) := by
  have rest : v - v.tdiv d * d = v.tmod d := by
    rw [Int.tmod_def, Int.mul_comm]
  constructor
  · rw [rest, Int.abs_eq_natAbs, Int.abs_eq_natAbs, Int.natAbs_tmod, Int.ofNat_lt]
    exact Nat.mod_lt _ (Int.natAbs_pos.2 hd)
  · rw [rest, Int.sign_tmod]
    by_cases h : d ∣ v
    · exact .inl (Int.tmod_eq_zero_of_dvd h)
    · exact .inr (if_neg h)

/-- The opposite of the dividend has the opposite quotient. -/
theorem neg (h : IsTruncatedQuotient v d q) : IsTruncatedQuotient (-v) d (-q) := by
  have rest : -v - -q * d = -(v - q * d) := by
    rw [Int.neg_mul]
    omega
  constructor
  · rw [rest, abs_neg]
    exact h.small
  · rw [rest, Int.neg_eq_zero, Int.sign_neg, Int.sign_neg, Int.neg_inj]
    exact h.signed

/-- So does the opposite of the divisor. -/
theorem neg_divisor (h : IsTruncatedQuotient v d q) : IsTruncatedQuotient v (-d) (-q) := by
  have rest : v - -q * -d = v - q * d := by
    rw [Int.neg_mul_neg]
  constructor
  · rw [rest, abs_neg]
    exact h.small
  · rw [rest]
    exact h.signed

/-- What is left of a dividend is on the same side of zero. -/
theorem side (h : IsTruncatedQuotient v d q) :
    (0 ≤ v → 0 ≤ v - q * d) ∧ (v ≤ 0 → v - q * d ≤ 0) := by
  rcases h.signed with exact | same
  · rw [exact]
    exact ⟨fun _ => le_rfl, fun _ => le_rfl⟩
  · constructor
    · intro hv
      exact Int.sign_nonneg_iff.1 (same ▸ Int.sign_nonneg_iff.2 hv)
    · intro hv
      exact Int.sign_nonpos_iff.1 (same ▸ Int.sign_nonpos_iff.2 hv)

theorem natAbs_lt (h : IsTruncatedQuotient v d q) : (v - q * d).natAbs < d.natAbs := by
  have small := h.small
  rwa [Int.abs_eq_natAbs, Int.abs_eq_natAbs, Int.ofNat_lt] at small

/-- There is only one such quotient: what two of them leave differs by a multiple of the divisor,
but by less than the divisor itself. -/
theorem unique (hp : IsTruncatedQuotient v d p) (hq : IsTruncatedQuotient v d q) : p = q := by
  have multiple : (v - q * d) - (v - p * d) = (p - q) * d := by
    rw [Int.sub_mul]
    omega
  have close : ((p - q) * d).natAbs < d.natAbs := by
    rw [← multiple]
    have := hp.natAbs_lt
    have := hq.natAbs_lt
    have := hp.side
    have := hq.side
    omega
  have nothing : (p - q) * d = 0 :=
    Int.eq_zero_of_dvd_of_natAbs_lt_natAbs (Int.dvd_mul_left _ _) close
  have hd : d ≠ 0 := by
    rintro rfl
    exact absurd close (Nat.not_lt_zero _)
  exact Int.sub_eq_zero.1 ((Int.mul_eq_zero.1 nothing).resolve_right hd)

end IsTruncatedQuotient

/-- Division of integers answers the quotient rounded toward zero. -/
theorem Number.truncDiv_eq_ok_iff {v d q : Int} (hd : d ≠ 0) :
    truncDiv (.int v) (.int d) = .ok (.int q) ↔ IsTruncatedQuotient v d q := by
  rw [truncDiv_int v hd]
  constructor
  · intro h
    cases h
    exact .tdiv v hd
  · intro h
    rw [h.unique (.tdiv v hd)]

/-! ### Gaps -/

/-- The gaps on both sides of what is centered share out a difference evenly: they do not have
opposite signs, and the one on the right is as large as the one on the left, or larger by a dot. -/
structure IsBalanced (difference left right : Int) : Prop where
  sum : left + right = difference
  sided : (0 ≤ left ∧ 0 ≤ right) ∨ (left ≤ 0 ∧ right ≤ 0)
  excess : |right| - |left| = 0 ∨ |right| - |left| = 1

/-- Half of a difference, rounded toward zero, balances it. -/
theorem IsTruncatedQuotient.isBalanced {difference left : Int}
    (h : IsTruncatedQuotient difference 2 left) :
    IsBalanced difference left (difference - left) := by
  have small : (difference - left * 2).natAbs < 2 := h.natAbs_lt
  obtain ⟨above, below⟩ := h.side
  constructor
  · omega
  · omega
  · rw [Int.abs_eq_natAbs, Int.abs_eq_natAbs]
    omega

/-! ### Requests to be centered -/

/-- The canvas of a shape or a barcode is `outer` dots wide, and the component itself is `inner` dots
wide. A shape goes by its width, and a barcode by the length that it estimates, where nothing was
put in the place of the method that does. -/
def Component.Spans (c : Component) (s : Store) (r : Ref) (outer inner : Int) : Prop :=
  c.labelWidth.integer? = some outer ∧
  match c.kind with
  | .shape form => form.width = .int inner
  | .barcode b =>
    s.attached.lookup (r, "get_barcode_length") = none ∧
      b.printedLength s.directory = .ok inner
  | _ => False

namespace Edit

open Zpl.Action

variable {s : Store} {r : Ref} {comp : Component} {outer inner : Int}

/-- A shape or a barcode is centered by these widths, whatever else there is to it. -/
theorem alters_center (hc : s.component? r = some comp) (h : comp.Spans s r outer inner)
    (around : Surroundings) :
    (setAlignment r "C").Alters around s r comp
      { comp with x := .int ((outer - inner).tdiv 2), alignment := "C" } := by
  have hr := Store.lt_length_of_component? hc
  obtain ⟨houter, hinner⟩ := h
  have placed : (centeringGap comp.labelWidth (.int inner) >>= fun x => do
      modifyComponent r fun c => { c with x := x }
      recordAlignment r .center).Alters around s r comp
        { comp with x := .int ((outer - inner).tdiv 2), alignment := "C" } :=
    .value_bind (centeringGap_of_integer? houter inner _ _)
      (.bind (.modifyComponent hr _) (.modifyComponent hr _))
  have meant : alignmentOf "C" around (s.put r (.component comp)) = _ :=
    alignmentOf_token .center around _
  refine .component_bind hr ?_
  -- The centered component keeps its kind, by which only the request is to be taken apart.
  generalize ({ comp with x := _, alignment := _ } : Component) = centered at placed ⊢
  cases hk : comp.kind with
  | raw size =>
    rw [hk] at hinner
    exact hinner.elim
  | text line =>
    rw [hk] at hinner
    exact hinner.elim
  | shape form =>
    rw [hk] at hinner
    refine .component_bind hr (.value_bind meant ?_)
    dsimp only
    rw [hinner]
    exact placed
  | barcode b =>
    rw [hk] at hinner
    obtain ⟨unattached, length⟩ := hinner
    have told := printedLength_eq_ok hc hk unattached length around
    rw [← Store.put_component_self hc] at told
    exact .component_bind hr (.value_bind meant (.value_bind told placed))

end Edit

namespace Action

/-- Integers are divided with rounding toward zero. By every divisor but zero there is a quotient,
what it leaves is smaller than the divisor in magnitude and is zero or has the sign of the dividend,
and to negate either operand is to negate the quotient.

So a shape or a barcode that is asked to be centered has balanced gaps. Its position is half of what
its canvas is wider than itself, rounded toward zero, and nothing else changes but the alignment on
record. The gaps on the left and on the right add up to the difference, they do not have opposite
signs, and the one on the right is as large as the one on the left or larger by a dot. None of this
depends on whether the component fits on its canvas. -/
theorem centered_gaps :
    (∀ v d : Int, d ≠ 0 → ∃ q : Int,
      Number.truncDiv (.int v) (.int d) = .ok (.int q) ∧ IsTruncatedQuotient v d q ∧
      Number.truncDiv (.int (-v)) (.int d) = .ok (.int (-q)) ∧
      Number.truncDiv (.int v) (.int (-d)) = .ok (.int (-q))) ∧
    ∀ (s : Store) (r : Ref) (comp : Component) (outer inner : Int) (given : Call)
      (c : Circumstances),
      s.component? r = some comp → s.attached.lookup (r, "set_alignment") = none →
      comp.Spans s r outer inner → Component.alignmentSignature.bind given = .ok ["C"] →
      ∃ x : Int,
        (call (.object r) "set_alignment" given).attempt c s =
          (.ok .none, s.put r (.component { comp with x := .int x, alignment := "C" })) ∧
        Number.truncDiv (.int (outer - inner)) 2 = .ok (.int x) ∧
        IsBalanced (outer - inner) x (outer - inner - x) := by
  constructor
  · intro v d hd
    have law := IsTruncatedQuotient.tdiv v hd
    refine ⟨v.tdiv d, (Number.truncDiv_eq_ok_iff hd).2 law, law, ?_, ?_⟩
    · exact (Number.truncDiv_eq_ok_iff hd).2 law.neg
    · exact (Number.truncDiv_eq_ok_iff (Int.neg_ne_zero.2 hd)).2 law.neg_divisor
  · intro s r comp outer inner given c hc unattached spans hbind
    have half := IsTruncatedQuotient.tdiv (outer - inner) (d := 2) (by decide)
    have altered := (Edit.alters_center hc spans (.inside c s)).eq_ok hc
    have answered := attempt_setAlignment hc unattached hbind c
    rw [outcome_eq_ok altered, after_eq_ok altered] at answered
    exact ⟨(outer - inner).tdiv 2, answered, (Number.truncDiv_eq_ok_iff (by decide)).2 half,
      half.isBalanced⟩

/-- A rectangle and a barcode are wider than their canvases, by 41 dots and by 67. -/
theorem centered_gaps_oversized :
    let plate : Component := {
      labelWidth := 100, kind := .shape { figure := .rectangle 0, width := 141 } }
    let code : Component := { labelWidth := 101, kind := .barcode { data := "A1" } }
    let s : Store := { things := [.component plate, .component code] }
    Number.truncDiv 7 (-2 : Int) = .ok (-3 : Int) ∧ IsTruncatedQuotient 7 (-2) (-3) ∧
    ((call (.object 0) "set_alignment" { inRow := ["C"] }).attempt {} s).2.component? 0 =
      some { plate with x := .int (-20), alignment := "C" } ∧
    IsBalanced (-41) (-20) (-21) ∧
    ((call (.object 1) "set_alignment" { named := [("alignment", "C")] }).attempt {} s).2.component?
      1 = some { code with x := .int (-33), alignment := "C" } ∧
    IsBalanced (-67) (-33) (-34) := by
  intro plate code s
  obtain ⟨division, centering⟩ := centered_gaps
  obtain ⟨q, divided, law, -⟩ := division 7 (-2) (by decide)
  obtain rfl : -3 = q := Number.int.inj (Except.ok.inj divided)
  have wide : plate.Spans s 0 100 141 := ⟨rfl, rfl⟩
  have long : code.Spans s 1 101 168 := ⟨rfl, rfl, rfl⟩
  obtain ⟨x, put, half, gaps⟩ :=
    centering s 0 plate 100 141 { inRow := ["C"] } {} rfl rfl wide rfl
  obtain rfl : -20 = x := Number.int.inj (Except.ok.inj half)
  obtain ⟨y, put', half', gaps'⟩ :=
    centering s 1 code 101 168 { named := [("alignment", "C")] } {} rfl rfl long rfl
  obtain rfl : -33 = y := Number.int.inj (Except.ok.inj half')
  refine ⟨divided, law, ?_, gaps, ?_, gaps'⟩
  · rw [put]
    rfl
  · rw [put']
    rfl

end Action

end Zpl
