import Zpl.Text.Utf8
import Zpl.Value.Basic

/-!
# Faults

What can go wrong, by cause. A fault ends the operation that meets it; what the operation did
before stays done. Faults from outside — a printer link, a file — arrive as an `Incident`, and a
print call reports every fault of the link as a `PrintFault`.

## Main definitions

* `FaultClass` — the classes by which faults are told apart.
* `Incident` — a failure reported from outside, with its class and what was said about it.
* `PrintFault` — why a document did not reach the printer, and which printer.
* `Fault` — everything that ends an operation.
* `Fault.IsDerived` — whether a fault is of a class, or of one that is derived from it.
-/

namespace Zpl

/-! ### Incidents -/

/-- The classes by which faults are told apart. -/
inductive FaultClass where
  /-- What a program can handle; all else is a request to leave the program. -/
  | exception
  /-- Errors of the operating system, and of links. -/
  | osError
  | connectionRefusedError
  | connectionResetError
  | brokenPipeError
  | timeoutError
  | fileNotFoundError
  | permissionError
  /-- Errors of a USB device. -/
  | usbError
  | valueError
  | unicodeError
  | typeError
  | keyError
  | notImplementedError
  deriving DecidableEq, Repr

namespace FaultClass

/-- The classes above a class, from the nearest one on. -/
def above : FaultClass → List FaultClass
  | .exception => []
  | .connectionRefusedError | .connectionResetError | .brokenPipeError | .timeoutError
  | .fileNotFoundError | .permissionError | .usbError => [.osError, .exception]
  | .unicodeError => [.valueError, .exception]
  | .osError | .valueError | .typeError | .keyError | .notImplementedError => [.exception]

/-- A class is another one, or below it. -/
def IsBelow (c base : FaultClass) : Prop := c = base ∨ base ∈ c.above

instance (c base : FaultClass) : Decidable (c.IsBelow base) :=
  inferInstanceAs (Decidable (c = base ∨ base ∈ c.above))

@[simp] theorem isBelow_refl (c : FaultClass) : c.IsBelow c := .inl rfl

/-- What is above a class that is above another one is above that one as well. -/
theorem above_subset {c base : FaultClass} (h : base ∈ c.above) : base.above ⊆ c.above := by
  cases c <;> simp only [above, List.mem_cons, List.not_mem_nil, or_false] at h
  case osError | valueError | typeError | keyError | notImplementedError => subst h; simp [above]
  all_goals rcases h with rfl | rfl <;> simp [above]

theorem IsBelow.trans {b c d : FaultClass} (hbc : b.IsBelow c) (hcd : c.IsBelow d) :
    b.IsBelow d := by
  rcases hbc with rfl | hc
  · exact hcd
  · rcases hcd with rfl | hd
    · exact .inr hc
    · exact .inr (above_subset hc hd)

end FaultClass

/-- How an incident's arguments read as one text. -/
inductive Wording where
  | plain
  /-- A single argument is quoted. -/
  | key
  /-- Error number, explanation and up to two file names. -/
  | system
  /-- Codec, text, range and reason. -/
  | encode
  /-- Codec, bytes, range and reason. -/
  | decode
  /-- Text, range and reason. -/
  | substitute
  /-- A message, and where in which file it applies. -/
  | source
  deriving DecidableEq, Repr

/-- A class of incidents. It has a name, and may be derived from several others, directly or over
classes in between. -/
structure IncidentClass where
  name : String
  /-- The classes it is derived from, as far as faults are told apart by them. -/
  bases : List FaultClass := [.exception]
  wording : Wording := .plain
  name_ne : name ≠ "" := by decide
  deriving DecidableEq, Repr

/-- A failure reported from outside. -/
structure Incident where
  kind : IncidentClass
  args : List Value
  /-- How it reads as a text, if its class does not leave that to the arguments. -/
  words? : Option Text := none
  deriving Repr

/-! ### Printing -/

/-- Which part of printing failed. -/
inductive PrintStage where
  /-- Not told. -/
  | printing
  /-- The printer could not be reached, or dropped the link. -/
  | connection
  /-- The settings are incomplete or wrong. -/
  | configuration
  /-- The document could not be delivered. -/
  | job
  deriving DecidableEq, Repr

/-! ### Faults -/

mutual

/-- Why a document did not reach the printer: which part of printing failed, at which printer, and
the fault that was met on the way, if that was another one. A fault that is told of from outside
may have anything for its message and its printer. -/
structure PrintFault where
  stage : PrintStage
  message : Value
  target : Value := .none
  cause : Option Fault := none
  /-- The class of the fault, if it is one of its own below that of the stage. -/
  special? : Option IncidentClass := none

/-- Everything that ends an operation. -/
inductive Fault where
  /-- An operation met a value of a kind that it is not defined for, or the wrong arguments. -/
  | wrongType
  /-- As `wrongType`; `told` says what does not fit. -/
  | unsuited (told : Text)
  /-- Two or three margins were given, where one or four are wanted. -/
  | marginCount
  /-- A value of the named kind cannot be called. -/
  | notCallable (kind : String)
  /-- A value of the named kind cannot count steps. -/
  | notCounting (kind : String)
  | missingAttribute
  /-- An object of the named kind lacks an attribute that an operation calls. -/
  | lacksAttribute (kind name : String)
  /-- A record has no entry of a key; `quoted` is the key as a diagnostic shows it. -/
  | missingKey (quoted : Text)
  /-- A place lies outside a sequence, which is named by its kind if it has a name. -/
  | indexOutOfRange (sequence : Option String)
  /-- A number is too large to tell a place in a sequence. -/
  | indexTooLarge
  /-- Nothing can be taken out of an empty list. -/
  | emptyList
  /-- A value is no item of a list; `quoted` is the value as a diagnostic shows it, if it does. -/
  | notListed (quoted : Option Text)
  | arithmetic (fault : ArithmeticFault)
  /-- A text is no integer in the given base; `shown` is the text as a diagnostic shows it. -/
  | badInteger (base : Nat) (shown : Text)
  | tooManyDigits (count : Nat)
  /-- A whole number has too many digits to be written. -/
  | unwritable
  /-- A text is no number. -/
  | badNumber (shown : Text)
  /-- A value of the named kind has no hexadecimal form. -/
  | noHexForm (kind : String)
  | byteOutOfRange
  | negativeCount
  /-- Nothing is covered in steps of zero. -/
  | zeroStep
  /-- A number of repetitions is too large to count anything. -/
  | countTooLarge
  /-- A text would repeat into more characters than can be counted. -/
  | textTooLong
  /-- Bytes would repeat into more of them than can be counted. -/
  | bytesTooLong
  /-- More bytes are asked for at once than can be counted. -/
  | jobTooLong
  /-- A result is too large to be stored. -/
  | outOfMemory
  /-- Objects contain each other without end. -/
  | tooDeep
  /-- Two values contain others without end, and no difference is met. -/
  | endlessComparison
  | encoding (fault : Utf8.EncodeFault)
  | decoding (fault : Utf8.DecodeFault)
  | notImplemented
  | print (fault : PrintFault)
  | incident (incident : Incident)

end

deriving instance Repr for PrintFault, Fault

namespace Fault

/-- The classes that the class of a fault is derived from, as far as faults are told apart by
them. -/
def bases : Fault → List FaultClass
  | .wrongType | .unsuited _ | .marginCount | .notCallable _ | .notCounting _ => [.typeError]
  | .missingKey _ => [.keyError]
  | .notListed _ | .arithmetic .notANumber | .badInteger .. | .tooManyDigits _ | .unwritable
  | .badNumber _ | .noHexForm _ | .byteOutOfRange | .negativeCount | .zeroStep => [.valueError]
  | .encoding _ | .decoding _ => [.unicodeError]
  | .notImplemented => [.notImplementedError]
  | .missingAttribute | .lacksAttribute .. | .indexOutOfRange _ | .indexTooLarge | .emptyList
  | .arithmetic _ | .countTooLarge | .textTooLong | .bytesTooLong | .jobTooLong | .outOfMemory
  | .tooDeep | .endlessComparison => [.exception]
  | .print fault => .exception :: fault.special?.elim [] (·.bases)
  | .incident i => i.kind.bases

/-- A fault is of a class, or of one that is derived from it. -/
def IsDerived (fault : Fault) (base : FaultClass) : Prop := ∃ c ∈ fault.bases, c.IsBelow base

instance (fault : Fault) (base : FaultClass) : Decidable (fault.IsDerived base) :=
  inferInstanceAs (Decidable (∃ c ∈ fault.bases, c.IsBelow base))

theorem IsDerived.trans {fault : Fault} {c base : FaultClass} (h : fault.IsDerived c)
    (below : c.IsBelow base) : fault.IsDerived base := by
  obtain ⟨b, hb, hc⟩ := h
  exact ⟨b, hb, hc.trans below⟩

end Fault

/-- The result of an arithmetic operation, its failure turned into a fault. -/
def liftArithmetic {α : Type} : Except ArithmeticFault α → Except Fault α
  | .ok a => .ok a
  | .error fault => .error (.arithmetic fault)

@[simp] theorem liftArithmetic_ok {α : Type} (a : α) : liftArithmetic (.ok a) = .ok a := rfl

end Zpl
