import Mathlib.Tactic.IntervalCases
import Zpl.Proofs.Text.Encoding

/-!
# Decoding what was encoded

The bytes of a text are those of its characters in a row, and each character begins with a byte that
says how many follow. So whatever stands behind it, a decoder finds the same character first. What
is joined from the bytes of several texts decodes to the texts in a row.

## Main results

* `Utf8.decodeFrom_char` — the bytes of a character are read as that character.
* `Utf8.decode_bytes` — the bytes of a text decode to the text.
-/

namespace Zpl

namespace CodePoint

/-- The code point with the number of a character is the character. -/
theorem ofCode_toNat (c : Char) : ofCode c.toNat = .scalar c := by
  have valid : c.toNat.isValidChar := c.valid
  rw [ofCode, ofCode?, dif_pos valid]
  rfl

end CodePoint

namespace Utf8

/-! ### First bytes -/

theorem lead?_of_one {n : Nat} (h : n < 0x80) :
    lead? (UInt8.ofNat n) = some { bits := n, tails := 0 } := by
  have small : (UInt8.ofNat n).toNat = n := by
    rw [UInt8.toNat_ofNat']
    omega
  rw [lead?, small]
  simp only [h, if_true]

theorem lead?_of_two {n : Nat} (hlow : 2 ≤ n) (hhigh : n < 0x20) :
    lead? (UInt8.ofNat (n + 0xC0)) = some { bits := n, tails := 1 } := by
  interval_cases n <;> rfl

theorem lead?_of_three {n : Nat} (h : n < 0x10) :
    lead? (UInt8.ofNat (n + 0xE0)) = some {
      bits := n, tails := 2, low := if n = 0 then 0xA0 else 0x80
      high := if n = 0xD then 0x9F else 0xBF } := by
  interval_cases n <;> rfl

theorem lead?_of_four {n : Nat} (h : n < 5) :
    lead? (UInt8.ofNat (n + 0xF0)) = some {
      bits := n, tails := 3, low := if n = 0 then 0x90 else 0x80
      high := if n = 4 then 0x8F else 0xBF } := by
  interval_cases n <;> rfl

/-! ### Further bytes -/

theorem toNat_tail {n : Nat} (h : n < 0x40) : (UInt8.ofNat (n + 0x80)).toNat = n + 0x80 := by
  rw [UInt8.toNat_ofNat']
  omega

/-- A further byte adds six bits. -/
theorem readTails_cons {bits low high tails seen n : Nat} {rest : List UInt8} (hn : n < 0x40)
    (hlow : low ≤ n + 0x80) (hhigh : n + 0x80 ≤ high) :
    readTails bits low high (tails + 1) seen (UInt8.ofNat (n + 0x80) :: rest) =
      readTails (bits * 64 + n) 0x80 0xBF tails (seen + 1) rest := by
  rw [readTails, toNat_tail hn, if_pos ⟨hlow, hhigh⟩, Nat.add_sub_cancel]

/-- The bytes of a sequence that was read are passed over. -/
theorem decodeFrom_skip (position : Nat) (tails rest : List UInt8) :
    decodeFrom position tails.length (tails ++ rest) =
      decodeFrom (position + tails.length) 0 rest := by
  induction tails generalizing position with
  | nil => rfl
  | cons b tails ih =>
    rw [List.length_cons, List.cons_append, decodeFrom, ih, Nat.add_right_comm, Nat.add_assoc]

/-- A sequence that is read stands for a code point. -/
theorem decodeFrom_cons {lead : Lead} {b : UInt8} {tails rest : List UInt8} {n : Nat}
    (hlead : lead? b = some lead) (htails : tails.length = lead.tails)
    (hread : readTails lead.bits lead.low lead.high lead.tails 1 (tails ++ rest) = .ok n)
    (position : Nat) :
    decodeFrom position 0 (b :: tails ++ rest) =
      (decodeFrom (position + (b :: tails).length) 0 rest).map (CodePoint.ofCode n :: ·) := by
  have skips := decodeFrom_skip (position + 1) tails rest
  rw [List.length_cons, Nat.add_comm tails.length, ← Nat.add_assoc, ← skips, htails]
  rw [List.cons_append, decodeFrom]
  simp only [hlead, hread]
  cases decodeFrom (position + 1) lead.tails (tails ++ rest) <;> rfl

/-! ### Characters -/

/-- The bytes of a character are read as that character, whatever follows them. -/
theorem decodeFrom_char (c : Char) (rest : List UInt8) (position : Nat) :
    decodeFrom position 0 (String.utf8EncodeChar c ++ rest) =
      (decodeFrom (position + (String.utf8EncodeChar c).length) 0 rest).map
        (CodePoint.scalar c :: ·) := by
  have valid : c.toNat < 0xD800 ∨ 0xDFFF < c.toNat ∧ c.toNat < 0x110000 := c.valid
  rw [← CodePoint.ofCode_toNat]
  have number : c.val.toNat = c.toNat := rfl
  rw [String.utf8EncodeChar, number]
  generalize c.toNat = v at valid
  -- The cases are those of the encoder: one, two, three or four bytes.
  split
  case isTrue one =>
    exact decodeFrom_cons (lead?_of_one (by omega)) rfl rfl position
  split
  case isTrue two =>
    refine decodeFrom_cons (lead?_of_two (by omega) (by omega)) rfl ?_ position
    dsimp only
    rw [List.singleton_append, readTails_cons (by omega) (by omega) (by omega), readTails]
    exact congrArg Except.ok (by omega)
  split
  case isTrue three =>
    refine decodeFrom_cons (lead?_of_three (by omega)) rfl ?_ position
    dsimp only
    have low : (if v / 4096 % 16 = 0 then 0xA0 else 0x80) ≤ v / 64 % 64 + 0x80 := by
      split <;> omega
    have high : v / 64 % 64 + 0x80 ≤ (if v / 4096 % 16 = 0xD then 0x9F else 0xBF) := by
      split <;> omega
    rw [List.cons_append, List.singleton_append, readTails_cons (by omega) low high,
      readTails_cons (by omega) (by omega) (by omega), readTails]
    exact congrArg Except.ok (by omega)
  case isFalse four =>
    refine decodeFrom_cons (lead?_of_four (by omega)) rfl ?_ position
    dsimp only
    have low : (if v / 262144 % 8 = 0 then 0x90 else 0x80) ≤ v / 4096 % 64 + 0x80 := by
      split <;> omega
    have high : v / 4096 % 64 + 0x80 ≤ (if v / 262144 % 8 = 4 then 0x8F else 0xBF) := by
      split <;> omega
    rw [List.cons_append, List.cons_append, List.singleton_append,
      readTails_cons (by omega) low high, readTails_cons (by omega) (by omega) (by omega),
      readTails_cons (by omega) (by omega) (by omega), readTails]
    exact congrArg Except.ok (by omega)

theorem decodeFrom_bytes {t : Text} (h : t.HasEncoding) (position : Nat) :
    decodeFrom position 0 t.bytes = .ok t := by
  induction t generalizing position with
  | nil => rfl
  | cons c t ih =>
    obtain ⟨hc, ht⟩ := List.forall_mem_cons.1 h
    cases c with
    | surrogate n => cases hc
    | scalar c =>
      have bytes : Text.bytes (.scalar c :: t) = String.utf8EncodeChar c ++ Text.bytes t :=
        rfl
      rw [bytes, decodeFrom_char, ih ht]
      rfl

/-- The bytes of a text decode to the text. -/
theorem decode_bytes {t : Text} (h : t.HasEncoding) : decode t.bytes = .ok t :=
  decodeFrom_bytes h 0

end Utf8

end Zpl
