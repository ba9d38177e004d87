/-!
# Binary floating point, exactly

Dot counts may be fractional. A fractional count is a binary64 value, kept as the integers it
stands for: a sign, a mantissa and a power of two. Each operation computes the exact result and
rounds it once, to the nearest value and to an even mantissa on a tie.

## Main definitions

* `Binary64` — not-a-number, an infinity, or `± m · 2 ^ q`.
* `Binary64.ofRatio` — the value nearest to a quotient of natural numbers.
* `Binary64.add`, `sub`, `mul`, `div`, `floorDiv` — the exact result, rounded once. `floorDiv` is
  put together from rounded steps, and so it is not always the floor of the exact quotient.
* `Binary64.compare?`, `compareInt?` — the order; not-a-number is ordered with nothing.
* `Binary64.truncate?` — the integer part.
-/

namespace Zpl

/-- A binary64 value. `finite negative m q` is `m · 2 ^ q`, negated when `negative` holds; the
operations below only build mantissas under `2 ^ 53` and exponents from `-1074` to `971`. What is
not a number carries a payload, which no operation looks at: it tells where the value comes from,
and is zero in the results of arithmetic. -/
inductive Binary64 where
  | nan (payload : Nat)
  | infinity (negative : Bool)
  | finite (negative : Bool) (mantissa : Nat) (exponent : Int)
  deriving DecidableEq, Repr

namespace Binary64

/-- The least exponent: all values are multiples of `2 ^ -1074`. -/
def minExponent : Int := -1074

/-- The greatest exponent of a value with a full mantissa. -/
def maxExponent : Int := 971

/-- The least number that is too large for a mantissa. -/
def mantissaBound : Nat := 0x20000000000000

/-- Zero with a given sign. -/
def zero (negative : Bool) : Binary64 := .finite negative 0 minExponent

/-! ### Rounding -/

/-- The quotient of two natural numbers rounded to the nearest integer, a tie to the even one. -/
def roundDiv (num den : Nat) : Nat :=
  let q := num / den
  let r := num % den
  if 2 * r < den then q
  else if den < 2 * r then q + 1
  else if q % 2 = 0 then q else q + 1

/-- `2 ^ q` as a quotient: its numerator. -/
def powNum (q : Int) : Nat := Nat.pow 2 q.toNat

/-- `2 ^ q` as a quotient: its denominator. -/
def powDen (q : Int) : Nat := Nat.pow 2 (-q).toNat

/-- The exponent `k` with `2 ^ k ≤ num / den < 2 ^ (k + 1)`. -/
def ratioLog2 (num den : Nat) : Int :=
  let k : Int := (num.log2 : Int) - den.log2
  if powNum k * den ≤ num * powDen k then k else k - 1

/-- The value nearest to `num / den`, with a given sign; past the largest one it is infinity. -/
def ofRatio (negative : Bool) (num den : Nat) : Binary64 :=
  if num = 0 then zero negative
  else
    let q := max (ratioLog2 num den - 52) minExponent
    let m := roundDiv (num * powDen q) (den * powNum q)
    let (m, q) := if m = mantissaBound then (m / 2, q + 1) else (m, q)
    if maxExponent < q then .infinity negative else .finite negative m q

/-- The value nearest to `m · 2 ^ q`. -/
def ofDyadic (negative : Bool) (m : Nat) (q : Int) : Binary64 :=
  ofRatio negative (m * powNum q) (powDen q)

/-- The value nearest to an integer. -/
def ofInt (n : Int) : Binary64 := ofRatio (n < 0) n.natAbs 1

/-! ### Parts -/

def isNegative : Binary64 → Bool
  | .nan _ => false
  | .infinity negative => negative
  | .finite negative _ _ => negative

def isZero : Binary64 → Bool
  | .finite _ m _ => m == 0
  | _ => false

/-- The mantissa with its sign. -/
def signed (negative : Bool) (m : Nat) : Int := if negative then -m else m

def neg : Binary64 → Binary64
  | .nan payload => .nan payload
  | .infinity negative => .infinity !negative
  | .finite negative m q => .finite (!negative) m q

def abs : Binary64 → Binary64
  | .nan payload => .nan payload
  | .infinity _ => .infinity false
  | .finite _ m q => .finite false m q

/-! ### Order -/

/-- Compares `s · 2 ^ p` with `t · 2 ^ q`. -/
def compareScaled (s : Int) (p : Int) (t : Int) (q : Int) : Ordering :=
  compare (s * powNum (p - min p q)) (t * powNum (q - min p q))

def compare? : Binary64 → Binary64 → Option Ordering
  | .nan _, _ => none
  | _, .nan _ => none
  | .infinity a, .infinity b => some (compare (signed a 1) (signed b 1))
  | .infinity a, .finite _ _ _ => some (if a then .lt else .gt)
  | .finite _ _ _, .infinity b => some (if b then .gt else .lt)
  | .finite a m p, .finite b n q => some (compareScaled (signed a m) p (signed b n) q)

/-- Comparison with an integer, which need not be a binary64 value itself. -/
def compareInt? : Binary64 → Int → Option Ordering
  | .nan _, _ => none
  | .infinity a, _ => some (if a then .lt else .gt)
  | .finite a m p, n => some (compareScaled (signed a m) p n 0)

/-! ### Arithmetic -/

/-- The value nearest to `s · 2 ^ q`; `negativeZero` is the sign of a zero result. -/
def ofSigned (negativeZero : Bool) (s : Int) (q : Int) : Binary64 :=
  if s = 0 then zero negativeZero else ofDyadic (s < 0) s.natAbs q

/-- Addition. Opposite infinities have no sum, and a zero sum is negative only between negative
zeros. -/
def add : Binary64 → Binary64 → Binary64
  | .nan _, _ => .nan 0
  | _, .nan _ => .nan 0
  | .infinity a, .infinity b => if a = b then .infinity a else .nan 0
  | .infinity a, .finite _ _ _ => .infinity a
  | .finite _ _ _, .infinity b => .infinity b
  | .finite a m p, .finite b n q =>
    let e := min p q
    ofSigned (a && b) (signed a m * powNum (p - e) + signed b n * powNum (q - e)) e

def sub (x y : Binary64) : Binary64 := add x y.neg

/-- Multiplication. Zero times infinity is not a number. -/
def mul : Binary64 → Binary64 → Binary64
  | .nan _, _ => .nan 0
  | _, .nan _ => .nan 0
  | .infinity a, .infinity b => .infinity (a != b)
  | .infinity a, .finite b n _ => if n = 0 then .nan 0 else .infinity (a != b)
  | .finite a m _, .infinity b => if m = 0 then .nan 0 else .infinity (a != b)
  | .finite a m p, .finite b n q => ofDyadic (a != b) (m * n) (p + q)

/-- Division. A quotient by zero is an infinity, except that zero by zero is not a number. -/
def div : Binary64 → Binary64 → Binary64
  | .nan _, _ => .nan 0
  | _, .nan _ => .nan 0
  | .infinity _, .infinity _ => .nan 0
  | .infinity a, .finite b _ _ => .infinity (a != b)
  | .finite a _ _, .infinity b => zero (a != b)
  | .finite a m p, .finite b n q =>
    if n = 0 then (if m = 0 then .nan 0 else .infinity (a != b))
    else ofRatio (a != b) (m * powNum (p - q)) (n * powDen (p - q))

/-- The exact remainder of a division truncated toward zero; it has the sign of the dividend. -/
def remainder : Binary64 → Binary64 → Binary64
  | .nan _, _ => .nan 0
  | _, .nan _ => .nan 0
  | .infinity _, _ => .nan 0
  | .finite a m p, .infinity _ => .finite a m p
  | .finite a m p, .finite _ n q =>
    if n = 0 then .nan 0
    else
      let e := min p q
      ofDyadic a ((m * powNum (p - e)) % (n * powNum (q - e))) e

/-- The greatest integral value at or below a value. -/
def floor : Binary64 → Binary64
  | .finite a m q =>
    if 0 ≤ q then .finite a m q
    else
      let n := (signed a m).fdiv (powDen q)
      if n = 0 then zero a else ofInt n
  | x => x

/-- Floored division. The remainder is exact; the quotient of what it leaves is rounded, lowered
by one where remainder and divisor differ in sign, and moved to the nearest integer below. -/
def floorDiv (x y : Binary64) : Binary64 :=
  let r := remainder x y
  let quotient := div (sub x r) y
  let lowered :=
    if !r.isZero && (y.compareInt? 0 == some .lt) != (r.compareInt? 0 == some .lt) then
      sub quotient (ofInt 1)
    else quotient
  if lowered.isZero then
    zero (div x y).isNegative
  else
    let whole := floor lowered
    if (sub lowered whole).compare? (.finite false 1 (-1)) == some .gt then add whole (ofInt 1)
    else whole

/-- The integer part; an infinity and not-a-number have none. -/
def truncate? : Binary64 → Option Int
  | .finite a m q => some (signed a (m * powNum q / powDen q))
  | _ => none

@[simp] theorem neg_neg (x : Binary64) : x.neg.neg = x := by
  cases x <;> simp [neg]

@[simp] theorem abs_neg (x : Binary64) : x.neg.abs = x.abs := by
  cases x <;> rfl

@[simp] theorem compareInt?_nan (payload : Nat) (n : Int) :
    compareInt? (.nan payload) n = none := rfl

/-- A rounded quotient is within half a unit of the exact one. -/
theorem roundDiv_near (num den : Nat) (h : 0 < den) :
    2 * (roundDiv num den * den) ≤ 2 * num + den ∧
      2 * num ≤ 2 * (roundDiv num den * den) + den := by
  have e : den * (num / den) + num % den = num := Nat.div_add_mod num den
  have l : num % den < den := Nat.mod_lt _ h
  have hq : num / den * den = den * (num / den) := Nat.mul_comm ..
  have hq1 : (num / den + 1) * den = den * (num / den) + den := by rw [Nat.add_mul, hq]; simp
  unfold roundDiv
  simp only
  split
  · omega
  · split
    · omega
    · split <;> omega

end Binary64

end Zpl
