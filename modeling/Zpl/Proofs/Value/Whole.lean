import Zpl.Number
import Zpl.Proofs.Outcome

/-!
# Whole parts

A bound that is a whole number and not below zero survives when the fraction of a number is dropped;
infinities and not-a-number have no whole part at all.

Dividing and rounding down gives a whole number, also where the numbers are binary64 values and the
quotient is put together from rounded steps. So a quotient above zero is one at least.

## Main definitions

* `Binary64.IsWhole`, `Number.IsWhole` — a number without a fraction, or none that is finite.

## Main results

* `Number.le_truncate`, `Number.truncate_le` — bounds survive the loss of a fraction.
* `Binary64.isWhole_ofRatio` — rounding leaves whole numbers whole.
* `Number.isWhole_floorDiv` — a quotient rounded down is whole.
* `Number.one_le_truncate` — a whole number above zero is one at least.
-/

namespace Zpl

/-! ### Bounds -/

namespace Binary64

/-- Comparing with an integer compares the numerators over the denominator of the exponent. -/
theorem compareScaled_int (m p n : Int) :
    compareScaled m p n 0 = compare (m * powNum p) (n * powDen p) := by
  by_cases hp : 0 ≤ p
  · have hmin : min p 0 = 0 := by omega
    have hden : (-p).toNat = 0 := by omega
    simp [compareScaled, powNum, powDen, hmin, hden]
  · have hmin : min p 0 = p := by omega
    have hnum : p.toNat = 0 := by omega
    simp [compareScaled, powNum, powDen, hmin, hnum]

theorem powDen_pos (p : Int) : 0 < powDen p := Nat.pow_pos (by decide)

/-- What is at least an integer, and that is not below zero, is so without its fraction. -/
theorem le_truncate {x : Binary64} {k n : Int} (hk : 0 ≤ k)
    (h : x.compareInt? k = some .gt ∨ x.compareInt? k = some .eq) (hn : x.truncate? = some n) :
    k ≤ n := by
  cases x with
  | nan _ => simp [truncate?] at hn
  | infinity _ => simp [truncate?] at hn
  | finite negative m p =>
    simp only [truncate?, Option.some.injEq] at hn
    subst hn
    have order : k * powDen p ≤ signed negative m * powNum p := by
      simp only [compareInt?, compareScaled_int, Option.some.injEq, Int.compare_eq_gt,
        Int.compare_eq_eq] at h
      omega
    have denominator : (0 : Int) < powDen p := by exact_mod_cast powDen_pos p
    cases negative with
    | false =>
      simp only [signed, Bool.false_eq_true, if_false] at order ⊢
      push_cast
      exact Int.le_ediv_of_mul_le denominator order
    | true =>
      -- A negative number that is at least `k` is zero, and so is `k`.
      have above : (0 : Int) ≤ k * powDen p := Int.mul_nonneg hk (Int.le_of_lt denominator)
      simp only [signed, if_true, Int.neg_mul] at order ⊢
      have nothing : m * powNum p = 0 := by
        have : ((m * powNum p : Nat) : Int) ≤ 0 := by push_cast; omega
        omega
      have zero : k ≤ 0 := by
        refine Int.le_of_mul_le_mul_right ?_ denominator
        have : ((m * powNum p : Nat) : Int) = 0 := by rw [nothing]; rfl
        push_cast at this
        omega
      simpa [nothing] using zero

/-- What is at most an integer, and that is not below zero, is so without its fraction. -/
theorem truncate_le {x : Binary64} {k n : Int} (hk : 0 ≤ k)
    (h : x.compareInt? k = some .lt ∨ x.compareInt? k = some .eq) (hn : x.truncate? = some n) :
    n ≤ k := by
  cases x with
  | nan _ => simp [truncate?] at hn
  | infinity _ => simp [truncate?] at hn
  | finite negative m p =>
    simp only [truncate?, Option.some.injEq] at hn
    subst hn
    have order : signed negative m * powNum p ≤ k * powDen p := by
      simp only [compareInt?, compareScaled_int, Option.some.injEq, Int.compare_eq_lt,
        Int.compare_eq_eq] at h
      omega
    have denominator : (0 : Int) < powDen p := by exact_mod_cast powDen_pos p
    cases negative with
    | false =>
      simp only [signed, Bool.false_eq_true, if_false] at order ⊢
      push_cast
      exact Int.ediv_le_of_le_mul denominator order
    | true =>
      simp only [signed, if_true]
      exact Int.le_trans (Int.neg_nonpos_of_nonneg (Int.natCast_nonneg _)) hk

end Binary64

namespace Number

theorem le_truncate {a : Number} {k n : Int} (hk : 0 ≤ k) (h : a.atLeast k = true)
    (hn : a.truncate = .ok n) : k ≤ n := by
  cases a with
  | int m => simp_all
  | float x =>
    simp only [atLeast, compareInt?, Bool.or_eq_true, beq_iff_eq] at h
    simp only [truncate] at hn
    split at hn
    · rename_i htruncate
      cases hn
      exact Binary64.le_truncate hk h htruncate
    · simp at hn

theorem truncate_le {a : Number} {k n : Int} (hk : 0 ≤ k) (h : a.atMost k = true)
    (hn : a.truncate = .ok n) : n ≤ k := by
  cases a with
  | int m => simp_all
  | float x =>
    simp only [atMost, compareInt?, Bool.or_eq_true, beq_iff_eq] at h
    simp only [truncate] at hn
    split at hn
    · rename_i htruncate
      cases hn
      exact Binary64.truncate_le hk h htruncate
    · simp at hn

end Number

/-! ### Whole numbers -/

namespace Binary64

/-- The denominator of the exponent divides the numerator; infinities and not-a-number have
none. -/
def IsWhole : Binary64 → Prop
  | .finite _ m q => powDen q ∣ m * powNum q
  | _ => True

theorem powDen_of_nonneg {q : Int} (h : 0 ≤ q) : powDen q = 1 := by
  have : (-q).toNat = 0 := by omega
  rw [powDen, this, Nat.pow_eq, Nat.pow_zero]

theorem powNum_of_nonpos {q : Int} (h : q ≤ 0) : powNum q = 1 := by
  have : q.toNat = 0 := by omega
  rw [powNum, this, Nat.pow_eq, Nat.pow_zero]

/-- Without a negative exponent there is no fraction. -/
theorem isWhole_of_nonneg (negative : Bool) (m : Nat) {q : Int} (h : 0 ≤ q) :
    (finite negative m q).IsWhole := by
  rw [IsWhole, powDen_of_nonneg h]
  exact Nat.one_dvd _

theorem isWhole_zero (negative : Bool) : (zero negative).IsWhole := by
  rw [zero, IsWhole, Nat.zero_mul]
  exact Nat.dvd_zero _

/-- One more in a negative exponent is a factor of two. -/
theorem powDen_pred {q : Int} (h : q < 0) : powDen q = 2 * powDen (q + 1) := by
  have : (-q).toNat = (-(q + 1)).toNat + 1 := by omega
  rw [powDen, powDen, this, Nat.mul_comm]
  rfl

theorem roundDiv_mul_self (n : Nat) {den : Nat} (h : 0 < den) : roundDiv (n * den) den = n := by
  simp [roundDiv, Nat.mul_div_cancel n h, h]

/-- What is left when a mantissa is brought back under its bound is whole, if the mantissa was. -/
theorem isWhole_carried (negative : Bool) {m : Nat} {q : Int} (h : powDen q ∣ m * powNum q) :
    (finite negative (m / 2) (q + 1)).IsWhole ∨ m % 2 = 1 := by
  by_cases hq : 0 ≤ q
  · exact .inl (isWhole_of_nonneg _ _ (by omega))
  · have hq : q < 0 := Int.not_le.1 hq
    rw [powDen_pred hq, powNum_of_nonpos (Int.le_of_lt hq), Nat.mul_one] at h
    obtain ⟨n, rfl⟩ := h
    left
    rw [Nat.mul_assoc, Nat.mul_div_cancel_left _ (by decide : 0 < 2)]
    exact Nat.dvd_mul_right_of_dvd (Nat.dvd_mul_right _ _) _

/-- Rounding leaves whole numbers whole. -/
theorem isWhole_ofRatio (negative : Bool) {num den : Nat} (hden : 0 < den) (h : den ∣ num) :
    (ofRatio negative num den).IsWhole := by
  obtain ⟨n, rfl⟩ := h
  unfold ofRatio
  split
  · exact isWhole_zero negative
  · dsimp only
    generalize max (ratioLog2 (den * n) den - 52) minExponent = q
    -- The mantissa is exact where the exponent leaves room for a fraction.
    have mantissa : powDen q ∣ roundDiv (den * n * powDen q) (den * powNum q) * powNum q := by
      by_cases hq : 0 ≤ q
      · rw [powDen_of_nonneg hq]
        exact Nat.one_dvd _
      · rw [powNum_of_nonpos (Int.le_of_lt (Int.not_le.1 hq)), Nat.mul_one, Nat.mul_one,
          Nat.mul_assoc, Nat.mul_comm den, roundDiv_mul_self _ hden]
        exact Nat.dvd_mul_left _ _
    generalize roundDiv (den * n * powDen q) (den * powNum q) = m at mantissa ⊢
    by_cases carries : m = mantissaBound
    · have whole := (isWhole_carried negative mantissa).resolve_right (by rw [carries]; decide)
      rw [if_pos carries]
      dsimp only
      split
      · trivial
      · exact whole
    · rw [if_neg carries]
      dsimp only
      split
      · trivial
      · exact mantissa

theorem isWhole_ofInt (n : Int) : (ofInt n).IsWhole :=
  isWhole_ofRatio _ (by decide) (Nat.one_dvd _)

theorem isWhole_floor (x : Binary64) : x.floor.IsWhole := by
  cases x with
  | nan _ => trivial
  | infinity _ => trivial
  | finite negative m q =>
    rw [floor]
    split
    · rename_i h
      exact isWhole_of_nonneg _ _ h
    · dsimp only
      split
      · exact isWhole_zero _
      · exact isWhole_ofInt _

/-- A whole number is still one in terms of a smaller unit. -/
theorem powDen_dvd_scaled {m : Nat} {p e : Int} (h : powDen p ∣ m * powNum p) (he : e ≤ p)
    (hneg : e ≤ 0) : powDen e ∣ m * powNum (p - e) := by
  by_cases hp : 0 ≤ p
  · have : (p - e).toNat = p.toNat + (-e).toNat := by omega
    rw [powDen, powNum, this, Nat.pow_eq, Nat.pow_eq, Nat.pow_add]
    exact Nat.dvd_mul_left_of_dvd (Nat.dvd_mul_left _ _) _
  · have hp : p ≤ 0 := Int.le_of_lt (Int.not_le.1 hp)
    rw [powNum_of_nonpos hp, Nat.mul_one] at h
    have : (-e).toNat = (-p).toNat + (p - e).toNat := by omega
    rw [powDen, powNum, this, Nat.pow_eq, Nat.pow_eq, Nat.pow_add]
    exact Nat.mul_dvd_mul_right h _

/-- The sum of whole numbers is whole, rounding included. -/
theorem isWhole_add {x y : Binary64} (hx : x.IsWhole) (hy : y.IsWhole) : (add x y).IsWhole := by
  cases x with
  | nan _ => trivial
  | infinity _ =>
    cases y with
    | infinity _ =>
      rw [add]
      split <;> trivial
    | _ => trivial
  | finite a m p =>
    cases y with
    | nan _ => trivial
    | infinity _ => trivial
    | finite b n q =>
      simp only [add]
      generalize he : min p q = e
      rw [ofSigned]
      split
      · exact isWhole_zero _
      · refine isWhole_ofRatio _ (powDen_pos e) ?_
        by_cases hneg : 0 ≤ e
        · rw [powDen_of_nonneg hneg]
          exact Nat.one_dvd _
        · have hneg : e ≤ 0 := Int.le_of_lt (Int.not_le.1 hneg)
          rw [powNum_of_nonpos hneg, Nat.mul_one, ← Int.ofNat_dvd_left]
          have left := powDen_dvd_scaled hx (he ▸ Int.min_le_left p q) hneg
          have right := powDen_dvd_scaled hy (he ▸ Int.min_le_right p q) hneg
          exact Int.dvd_add (dvd_signed a left) (dvd_signed b right)
where
  dvd_signed (negative : Bool) {m d k : Nat} (h : d ∣ m * k) :
      (d : Int) ∣ signed negative m * k := by
    have natural : (d : Int) ∣ (m : Int) * k := by exact_mod_cast h
    cases negative with
    | false => exact natural
    | true =>
      rw [signed, if_pos rfl, Int.neg_mul]
      exact Int.dvd_neg.2 natural

/-- A quotient rounded down is whole. -/
theorem isWhole_floorDiv (x y : Binary64) : (floorDiv x y).IsWhole := by
  unfold floorDiv
  extract_lets r quotient lowered whole
  split
  · exact isWhole_zero _
  · split
    · exact isWhole_add (isWhole_floor _) (isWhole_ofInt 1)
    · exact isWhole_floor _

/-- A whole number above zero is one at least. -/
theorem one_le_truncate {x : Binary64} (h : x.IsWhole) (positive : x.compareInt? 0 = some .gt)
    {n : Int} (hn : x.truncate? = some n) : 1 ≤ n := by
  cases x with
  | nan _ => simp [truncate?] at hn
  | infinity _ => simp [truncate?] at hn
  | finite negative m q =>
    simp only [compareInt?, compareScaled_int, Option.some.injEq, Int.compare_eq_gt,
      Int.zero_mul] at positive
    simp only [truncate?, Option.some.injEq] at hn
    have numerator : (0 : Int) ≤ (m * powNum q : Nat) := Int.natCast_nonneg _
    push_cast at numerator
    cases negative with
    | true =>
      rw [signed, if_pos rfl, Int.neg_mul] at positive
      omega
    | false =>
      simp only [signed, Bool.false_eq_true, if_false] at positive hn
      have above : 0 < m * powNum q := by exact_mod_cast positive
      have one : 0 < m * powNum q / powDen q := Nat.div_pos (Nat.le_of_dvd above h) (powDen_pos q)
      omega

end Binary64

namespace Number

/-- A number without a fraction, or none that is finite. -/
def IsWhole : Number → Prop
  | .int _ => True
  | .float x => x.IsWhole

/-- A quotient rounded down is whole. -/
theorem isWhole_floorDiv {a b c : Number} (h : a.floorDiv b = .ok c) : c.IsWhole := by
  have floats (x y : Except ArithmeticFault Binary64)
      (h : (do
        let x ← x
        let y ← y
        if y.isZero then throw .divisionByZero else return .float (x.floorDiv y)) =
          (.ok c : Except ArithmeticFault Number)) : c.IsWhole := by
    obtain ⟨x, -, h⟩ := exists_of_bind_eq_ok h
    obtain ⟨y, -, h⟩ := exists_of_bind_eq_ok h
    split at h
    · cases h
    · cases h
      exact Binary64.isWhole_floorDiv x y
  cases a with
  | int m =>
    cases b with
    | int n =>
      have ints : floorDiv (.int m) (.int n) =
          if n = 0 then .error .divisionByZero else .ok (.int (m.fdiv n)) := rfl
      rw [ints] at h
      split at h <;> cases h
      trivial
    | float _ => exact floats _ _ h
  | float _ => exact floats _ _ h

/-- A whole number above zero is one at least. -/
theorem one_le_truncate {a : Number} (h : a.IsWhole) (positive : a.isPositive = true) {n : Int}
    (hn : a.truncate = .ok n) : 1 ≤ n := by
  cases a with
  | int m =>
    cases hn
    rw [isPositive_int, decide_eq_true_iff] at positive
    exact positive
  | float x =>
    simp only [truncate] at hn
    split at hn
    · rename_i htruncate
      cases hn
      exact Binary64.one_le_truncate h (beq_iff_eq.1 positive) htruncate
    · cases hn

end Number

end Zpl
