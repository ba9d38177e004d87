import Zpl.Text.Basic

/-!
# Classes of code points

A class of code points is written as the ascending list of the numbers at which membership
changes, starting from "outside" below the first. A standard's property then takes two numbers for
each of its ranges.
-/

namespace Zpl

/-- A set of code points given by the numbers at which membership changes. -/
structure CodeClass where
  boundaries : List Nat

namespace CodeClass

/-- Membership: an odd number of boundaries lies at or below the code. -/
def containsCode (s : CodeClass) (n : Nat) : Bool := go s.boundaries false
where
  go : List Nat → Bool → Bool
    | [], inside => inside
    | b :: bs, inside => if n < b then inside else go bs !inside

def contains (s : CodeClass) (c : CodePoint) : Bool := s.containsCode c.code

/-- A class of one range holds the codes of that range. -/
theorem containsCode_range (a b n : Nat) :
    (CodeClass.mk [a, b]).containsCode n = decide (a ≤ n ∧ n < b) := by
  simp only [containsCode, containsCode.go]
  split
  · simp; omega
  · split <;> simp <;> omega

end CodeClass

end Zpl
