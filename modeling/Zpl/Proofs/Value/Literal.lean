import Mathlib.Data.List.TakeWhile
import Mathlib.Tactic.IntervalCases
import Zpl.Proofs.Value.Numeral

/-!
# Reading back what was written

The digits that a number is written with, in base ten or sixteen, spell that number. They still do
after zeros in front, and letters among them may be large or small. In base ten a literal has no
zeros in front, which is no loss, as no number but zero is written with one.

## Main definitions

* `Numeral.Spells` — digits of a base that come to a number.

## Main results

* `Numeral.spells_toDigits` — the digits of a number spell it.
* `Numeral.readLiteral_decimal` — a number written in base ten is read.
* `Numeral.readLiteral_hexadecimal` — so is one in base sixteen after its mark.
-/

namespace Zpl.Numeral

variable {base n : Nat} {c mark : Char} {cs ds : List Char}

/-- Some digits of a base spell a number. -/
structure Spells (base n : Nat) (ds : List Char) : Prop where
  nonempty : ds ≠ []
  digits : ∀ c ∈ ds, isDigitOf base c = true
  value : digitsValue base ds = n

/-! ### Digits -/

theorem digitValue?_digitChar {d : Nat} (h : d < 16) : digitValue? d.digitChar = some d := by
  interval_cases d <;> rfl

/-- A letter stands for the same digit whether it is large or small. -/
theorem digitValue?_toLower (c : Char) : digitValue? c.toLower = digitValue? c := by
  delta Char.toLower
  split
  · rename_i h
    have above : 65 ≤ c.toNat := UInt32.le_iff_toNat_le.1 h.1
    have below : c.toNat ≤ 90 := UInt32.le_iff_toNat_le.1 h.2
    obtain ⟨n, hn⟩ : ∃ n, c.toNat = n := ⟨_, rfl⟩
    obtain rfl : c = Char.ofNat n := by rw [← hn, Char.ofNat_toNat]
    rw [hn] at above below
    interval_cases n <;> rfl
  · rfl

theorem isDigitOf_toLower (base : Nat) (c : Char) :
    isDigitOf base c.toLower = isDigitOf base c := by
  rw [isDigitOf, isDigitOf, digitValue?_toLower]

theorem isDigitOf_digitChar {d : Nat} (hd : d < base) (hbase : base ≤ 16) :
    isDigitOf base d.digitChar = true := by
  rw [isDigitOf, digitValue?_digitChar (hd.trans_le hbase)]
  exact decide_eq_true hd

/-- Digits are letters and figures, and neither blanks nor signs. -/
theorem bounds_of_isDigitOf (h : isDigitOf base c = true) :
    0x30 ≤ c.toNat ∧ c.toNat ≤ 0x7A ∧ c ≠ '_' := by
  have value : digitValue? c ≠ none := by
    intro none
    rw [isDigitOf, none] at h
    cases h
  have order (a b : Char) : a ≤ b ↔ a.toNat ≤ b.toNat := UInt32.le_iff_toNat_le
  have mark : c.toNat = 0x5F ↔ c = '_' := Char.toNat_inj (d := '_')
  simp only [digitValue?, order, Char.reduceToNat] at value
  split_ifs at value
  all_goals first | exact absurd rfl value | rw [Ne, ← mark]; omega

/-! ### What digits spell -/

theorem digitsValue_concat (base : Nat) (ds : List Char) (c : Char) :
    digitsValue base (ds ++ [c]) = digitsValue base ds * base + (digitValue? c).getD 0 := by
  simp [digitsValue]

/-- A number spelled by its digits: all but the last one spell what is left of it. -/
theorem Spells.concat (h : Spells base n ds) {d : Nat} (hd : d < base) (hbase : base ≤ 16) :
    Spells base (n * base + d) (ds ++ [d.digitChar]) where
  nonempty := by simp
  digits := List.forall_mem_append.2
    ⟨h.digits, List.forall_mem_singleton.2 (isDigitOf_digitChar hd hbase)⟩
  value := by
    rw [digitsValue_concat, h.value, digitValue?_digitChar (hd.trans_le hbase), Option.getD_some]

theorem spells_digitChar {d : Nat} (hd : d < base) (hbase : base ≤ 16) :
    Spells base d [d.digitChar] where
  nonempty := by simp
  digits := List.forall_mem_singleton.2 (isDigitOf_digitChar hd hbase)
  value := by simp [digitsValue, digitValue?_digitChar (hd.trans_le hbase)]

/-- The digits of a number spell it. -/
theorem spells_toDigits (hbase : 1 < base) (hle : base ≤ 16) (n : Nat) :
    Spells base n (Nat.toDigits base n) := by
  induction n using Nat.strong_induction_on with
  | _ n ih =>
    rcases Nat.lt_or_ge n base with small | large
    · rw [Nat.toDigits_of_lt_base small]
      exact spells_digitChar small hle
    · rw [Nat.toDigits_of_base_le hbase large]
      have left := ih (n / base) (Nat.div_lt_self (by omega) hbase)
      have spelled := left.concat (Nat.mod_lt n (by omega)) hle
      rwa [Nat.div_add_mod'] at spelled

/-- Zeros in front do not count. -/
theorem Spells.pad (h : Spells base n ds) (hbase : 0 < base) (zeros : Nat) :
    Spells base n (List.replicate zeros '0' ++ ds) := by
  induction zeros with
  | zero => exact h
  | succ zeros ih =>
    refine ⟨by simp [List.replicate_succ], ?_, ?_⟩
    · rw [List.replicate_succ, List.cons_append, List.forall_mem_cons]
      exact ⟨decide_eq_true hbase, ih.digits⟩
    · have padded := ih.value
      simp only [digitsValue] at padded ⊢
      simpa [List.replicate_succ, digitValue?] using padded

/-- Letters may be large or small. -/
theorem Spells.of_toLower (h : Spells base n (ds.map Char.toLower)) : Spells base n ds where
  nonempty := by simpa using h.nonempty
  digits := by simpa [isDigitOf_toLower] using h.digits
  value := by simpa [digitsValue, List.foldl_map, digitValue?_toLower] using h.value

/-- A number other than zero is not written with a zero in front. -/
theorem head?_toDigits_ne_zero (hn : 0 < n) : (Nat.toDigits 10 n).head? ≠ some '0' := by
  induction n using Nat.strong_induction_on with
  | _ n ih =>
    rcases Nat.lt_or_ge n 10 with small | large
    · interval_cases n <;> decide
    · rw [Nat.toDigits_of_base_le (by decide) large,
        List.head?_append, Option.or_eq_left_of_isSome (by simp [Nat.toDigits_ne_nil])]
      exact ih (n / 10) (by omega) (by omega)

/-! ### Reading digits -/

theorem underscoresSeparate_of_forall (h : ∀ c ∈ cs, c ≠ '_') : underscoresSeparate cs = true := by
  induction cs with
  | nil => rfl
  | cons c cs ih =>
    obtain ⟨hc, hcs⟩ := List.forall_mem_cons.1 h
    rw [underscoresSeparate]
    · exact ih hcs
    · rintro rfl
      exact absurd rfl hc
    · rintro cs rfl
      exact absurd rfl hc

/-- Digits that spell a number are read as that number, in base ten if they are not too many. -/
theorem Spells.readDigits_eq (h : Spells base n ds)
    (few : base = 10 → ds.length ≤ Decimal.maxDigits) {mustBeZero : Bool}
    (zero : mustBeZero = true → n = 0) (bad : Fault) :
    readDigits base mustBeZero ds bad = .ok n := by
  have plain : ∀ c ∈ ds, c ≠ '_' := fun c hc => (bounds_of_isDigitOf (h.digits c hc)).2.2
  have run : (ds.takeWhile fun c => isDigitOf base c || c == '_') = ds :=
    List.takeWhile_eq_self_iff.2 fun c hc => by simp [h.digits c hc]
  have digits : ds.filter (· != '_') = ds :=
    List.filter_eq_self.2 fun c hc => by simpa using plain c hc
  have head : (ds.head? == some '_') = false := by
    cases ds with
    | nil => rfl
    | cons c cs => simpa using plain c List.mem_cons_self
  have notTooMany : ¬(base = 10 ∧ Decimal.maxDigits < ds.length) := fun many =>
    absurd (few many.1) (not_le.2 many.2)
  have fits : ¬(mustBeZero && n != 0) = true := by
    simpa using zero
  rw [readDigits]
  simp [run, digits, head, h.value, underscoresSeparate_of_forall plain, h.nonempty, notTooMany,
    fits, pure, Except.pure]

/-! ### Reading literals -/

/-- Figures and letters are no blanks. -/
theorem dropWhile_isSpace (h : ∀ c ∈ cs, 0x30 ≤ c.toNat) : cs.dropWhile isSpace = cs := by
  cases cs with
  | nil => rfl
  | cons c cs =>
    have large := h c List.mem_cons_self
    have blank : c ≠ ' ' := by
      rintro rfl
      exact absurd large (by decide)
    have late : ¬c.toNat ≤ 0xD := by omega
    exact List.dropWhile_cons_of_neg (by simp [isSpace, blank, late])

/-- Figures and letters of ASCII are read as they stand. -/
theorem trimmed_ofChars (h : ∀ c ∈ cs, 0x30 ≤ c.toNat ∧ c.toNat ≤ 0x7A) :
    trimmed (Text.ofChars cs) = cs := by
  have same : (Text.ofChars cs).map asciiForm = cs := by
    rw [Text.ofChars, List.map_map, List.map_congr_left (g := id) fun c hc => ?_, List.map_id]
    have ascii : c.toNat < 0x7F := by
      have := (h c hc).2
      omega
    simp [asciiForm, CodePoint.code, ascii, Char.ofNat_toNat]
  have low : ∀ c ∈ cs, 0x30 ≤ c.toNat := fun c hc => (h c hc).1
  have back : ∀ c ∈ cs.reverse, 0x30 ≤ c.toNat := fun c hc => low c (List.mem_reverse.1 hc)
  rw [trimmed, same, dropWhile_isSpace low, dropWhile_isSpace back, List.reverse_reverse]

/-- A literal of digits after their announcement is read as the number that the digits spell. -/
theorem readLiteral_of_spells (hds : Spells base n ds)
    (hcs : ∀ c ∈ cs, 0x30 ≤ c.toNat ∧ c.toNat ≤ 0x7A) {mustBeZero : Bool}
    (announced : announcedBase cs = (base, ds, mustBeZero))
    (few : base = 10 → ds.length ≤ Decimal.maxDigits) (zero : mustBeZero = true → n = 0) :
    readLiteral (Text.ofChars cs) = .ok n := by
  have unsigned : splitSign cs = (false, cs) := by
    unfold splitSign
    split
    · exact absurd (hcs '-' List.mem_cons_self).1 (by decide)
    · exact absurd (hcs '+' List.mem_cons_self).1 (by decide)
    · rfl
  simp [readLiteral, readIntWith, trimmed_ofChars hcs, unsigned, announced,
    hds.readDigits_eq few zero, bind, Except.bind, pure, Except.pure]

/-- A number written in base ten is read as that number. -/
theorem readLiteral_decimal (h : Decimal.isWritable n = true) :
    readLiteral (Text.ofNat n) = .ok n := by
  have spelled : Spells 10 n (Nat.toDigits 10 n) := spells_toDigits (by decide) (by decide) n
  have few : (Nat.toDigits 10 n).length ≤ Decimal.maxDigits := of_decide_eq_true h
  have bounds : ∀ c ∈ Nat.toDigits 10 n, 0x30 ≤ c.toNat ∧ c.toNat ≤ 0x7A := fun c hc =>
    let ⟨low, high, _⟩ := bounds_of_isDigitOf (spelled.digits c hc)
    ⟨low, high⟩
  rcases n.eq_zero_or_pos with rfl | hn
  · exact readLiteral_of_spells spelled bounds rfl (fun _ => few) fun _ => rfl
  · have announced : announcedBase (Nat.toDigits 10 n) = (10, Nat.toDigits 10 n, false) := by
      have head := head?_toDigits_ne_zero hn
      generalize Nat.toDigits 10 n = cs at head
      unfold announcedBase
      split
      · exact absurd rfl head
      · exact absurd rfl head
      · rfl
    exact readLiteral_of_spells spelled bounds announced (fun _ => few) nofun

/-- So is a number in base sixteen after its mark. -/
theorem readLiteral_hexadecimal (hmark : mark = 'x' ∨ mark = 'X') (h : Spells 16 n ds) :
    readLiteral (Text.ofChars ('0' :: mark :: ds)) = .ok n := by
  have bounds := fun c hc => bounds_of_isDigitOf (h.digits c hc)
  have announced : announcedBase ('0' :: mark :: ds) = (16, ds, false) := by
    rw [announcedBase, if_pos hmark]
    · rintro rest rfl
      exact absurd rfl (bounds '_' List.mem_cons_self).2.2
  refine readLiteral_of_spells h (fun c hc => ?_) announced nofun nofun
  rcases List.mem_cons.1 hc with rfl | hc
  · decide
  rcases List.mem_cons.1 hc with rfl | hc
  · rcases hmark with rfl | rfl <;> decide
  · exact ⟨(bounds c hc).1, (bounds c hc).2.1⟩

end Zpl.Numeral
