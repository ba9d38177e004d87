import Zpl.Fault.Incident

/-!
# Faults as they are reported

A fault is reported by the name of its class and, where the class alone does not say it all, by a
text.

## Main definitions

* `Fault.name` — the class that a fault is reported as.
* `Fault.text` — what is said about it.
* `PrintFault.text` — a fault of printing, after the printer it is about.
-/

namespace Zpl

/-- A fault of printing as one text: the printer it is about, if it names one, and the message. A
message that stands alone has to be text. -/
def PrintFault.text (p : PrintFault) : Except Fault Text :=
  if p.target.truth .empty then do
    let target ← p.target.shown .plain
    let message ← p.message.shown .plain
    return target ++ ": " ++ message
  else
    match p.message with
    | .text t => .ok t
    | _ => .error .wrongType

/-- The class that a fault of printing is reported as. -/
def PrintFault.name (p : PrintFault) : String := p.special?.elim p.stage.name (·.name)

namespace ArithmeticFault

def name : ArithmeticFault → String
  | .tooLarge => "OverflowError"
  | .divisionByZero => "ZeroDivisionError"
  | .notANumber => "ValueError"
  | .infinite => "OverflowError"

def text : ArithmeticFault → Text
  | .tooLarge => "int too large to convert to float"
  | .divisionByZero => "division by zero"
  | .notANumber => "cannot convert float NaN to integer"
  | .infinite => "cannot convert float infinity to integer"

end ArithmeticFault

namespace Fault

/-- The class that a fault is reported as. -/
def name : Fault → String
  | .wrongType => "TypeError"
  | .unsuited _ => "TypeError"
  | .marginCount => "TypeError"
  | .notCallable _ => "TypeError"
  | .notCounting _ => "TypeError"
  | .missingAttribute => "AttributeError"
  | .lacksAttribute .. => "AttributeError"
  | .missingKey _ => "KeyError"
  | .indexOutOfRange _ => "IndexError"
  | .indexTooLarge => "IndexError"
  | .emptyList => "IndexError"
  | .notListed _ => "ValueError"
  | .arithmetic fault => fault.name
  | .badInteger .. => "ValueError"
  | .tooManyDigits _ => "ValueError"
  | .unwritable => "ValueError"
  | .badNumber _ => "ValueError"
  | .noHexForm _ => "ValueError"
  | .byteOutOfRange => "ValueError"
  | .negativeCount => "ValueError"
  | .zeroStep => "ValueError"
  | .countTooLarge => "OverflowError"
  | .textTooLong => "OverflowError"
  | .bytesTooLong => "OverflowError"
  | .jobTooLong => "OverflowError"
  | .outOfMemory => "MemoryError"
  | .tooDeep => "RecursionError"
  | .endlessComparison => "RecursionError"
  | .encoding _ => "UnicodeEncodeError"
  | .decoding _ => "UnicodeDecodeError"
  | .notImplemented => "NotImplementedError"
  | .print fault => fault.name
  | .incident i => i.kind.name

/-- What is said about a fault. -/
def text : Fault → Text
  | .wrongType => []
  | .unsuited told => told
  | .marginCount => "set_margins() takes either 1 or 4 values"
  | .notCallable kind => "'" ++ kind ++ "' object is not callable"
  | .notCounting kind => "'" ++ kind ++ "' object cannot be interpreted as an integer"
  | .missingAttribute => []
  | .lacksAttribute kind name => "'" ++ kind ++ "' object has no attribute '" ++ name ++ "'"
  | .missingKey quoted => quoted
  | .indexOutOfRange (some sequence) => sequence ++ " index out of range"
  | .indexOutOfRange none => "index out of range"
  | .indexTooLarge => "cannot fit 'int' into an index-sized integer"
  | .emptyList => "pop from empty list"
  | .notListed (some quoted) => quoted ++ " is not in list"
  | .notListed none => "list.remove(x): x not in list"
  | .arithmetic fault => fault.text
  | .badInteger base shown =>
    "invalid literal for int() with base " ++ Text.ofNat base ++ ": " ++ shown
  | .tooManyDigits count =>
    "Exceeds the limit (4300 digits) for integer string conversion: value has "
      ++ Text.ofNat count ++ " digits; use sys.set_int_max_str_digits() to increase the limit"
  | .unwritable =>
    "Exceeds the limit (4300 digits) for integer string conversion; "
      ++ "use sys.set_int_max_str_digits() to increase the limit"
  | .badNumber shown => "could not convert string to float: " ++ shown
  | .noHexForm kind => "Unknown format code 'x' for object of type '" ++ kind ++ "'"
  | .byteOutOfRange => "bytes must be in range(0, 256)"
  | .negativeCount => "negative count"
  | .zeroStep => "range() arg 3 must not be zero"
  | .countTooLarge => "cannot fit 'int' into an index-sized integer"
  | .textTooLong => "repeated string is too long"
  | .bytesTooLong => "repeated bytes are too long"
  | .jobTooLong => "byte string is too large"
  | .outOfMemory => []
  | .tooDeep => "maximum recursion depth exceeded"
  | .endlessComparison => "maximum recursion depth exceeded in comparison"
  | .encoding fault =>
    let first := if fault.stop = fault.start + 1 then some fault.first else none
    Incident.encodeText "utf-8" fault.start fault.stop first "surrogates not allowed"
  | .decoding fault =>
    let first := if fault.stop = fault.start + 1 then some fault.byte else none
    Incident.decodeText "utf-8" fault.start fault.stop first fault.cause.reason
  | .notImplemented => []
  | .print fault => ((fault.text).toOption).getD []
  | .incident i => i.text

end Fault

end Zpl
