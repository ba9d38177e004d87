import Zpl.Fault.Incident
import Zpl.Signature
import Zpl.Text.Codec

/-!
# Encoding and decoding by name

A text is encoded, and bytes are decoded, by a codec and by a policy that go by names. The policy is
asked for only once something has no encoding, or encodes nothing.

## Main definitions

* `Coding.encoded` — the bytes of a text.
* `Coding.decoded` — the text of some bytes.
-/

namespace Zpl.Coding

/-- Which of the two directions is taken. -/
inductive Direction where
  | encoding
  | decoding
  deriving DecidableEq, Repr

namespace Direction

def method : Direction → String
  | .encoding => "encode"
  | .decoding => "decode"

def noun : Direction → String
  | .encoding => "encoding"
  | .decoding => "decoding"

end Direction

def signature : Signature :=
  { parameters := [{ name := "encoding", default? := some (.text "utf-8") },
      { name := "errors", default? := some (.text "strict") }] }

/-- A name that the value of a parameter is. -/
def nameOf (direction : Direction) (parameter : String) (v : Value) : Except Fault Text :=
  match v with
  | .text t =>
    match Utf8.firstSurrogates 0 t with
    | some fault => .error (.encoding fault)
    | none =>
      if t.contains (.scalar '\x00') then
        .error (Incident.refusal "ValueError" "embedded null character")
      else .ok t
  | v =>
    .error (.unsuited (Text.ofString (direction.method ++ "() argument '" ++ parameter
      ++ "' must be str, not " ++ v.kindName .empty)))

/-- The codec of a name. -/
def codecOf (direction : Direction) (name : Text) : Except Fault Codec :=
  match Codec.named name with
  | .codec codec => .ok codec
  | .binary =>
    .error (Incident.refusal "LookupError" (Text.toString ("'" ++ name
      ++ "' is not a text encoding; use codecs." ++ Text.ofString direction.method
      ++ "() to handle arbitrary codecs")))
  | .unknown =>
    .error (Incident.refusal "LookupError" (Text.toString ("unknown encoding: " ++ name)))

/-- What is said of a failure. Of a codec that is not at hand the name is told. -/
def told (direction : Direction) (name : Text) (kind : String) (message : Text) : Text :=
  if Codec.isCommon name then message
  else
    Text.ofString direction.noun ++ " with '" ++ name ++ "' codec failed (" ++ Text.ofString kind
      ++ ": " ++ message ++ ")"

/-- A failure with a message of its own. -/
def refusal (direction : Direction) (name : Text) (kind : String) (message : Text) : Fault :=
  Incident.refusal kind (Text.toString (told direction name kind message))

/-- The fault that no policy goes by a name. -/
def unknownPolicy (direction : Direction) (name policy : Text) : Fault :=
  refusal direction name "LookupError" ("unknown error handler name '" ++ policy ++ "'")

/-- The fault that a codec gives up for. `subject` is what was encoded or decoded. -/
def faultOf (direction : Direction) (name : Text) (subject : Value) : CodecObstacle → Fault
  | .fault fault =>
    .incident {
      kind :=
        match direction with
        | .encoding => IncidentClass.named "UnicodeEncodeError"
        | .decoding => IncidentClass.named "UnicodeDecodeError"
      args := [.text fault.codec, (fault.within.map Value.bytes).getD subject,
        .int fault.start, .int fault.stop, .text fault.reason] }
  | .helpless =>
    .unsuited (told direction name "TypeError"
      "don't know how to handle UnicodeDecodeError in error callback")
  | .defective => refusal direction name "RuntimeError" "internal codec error"
  | .differing message bytes again =>
    .incident {
      kind := IncidentClass.named "UnicodeError"
      args := [.text message, .bytes bytes, .bytes again] }
  | .refused message => refusal direction name "UnicodeError" message

/-- What a codec answers, or the fault that it gives up for. A policy that is unknown is told of
once something depends on it. -/
def settled {α : Type} (direction : Direction) (name policy : Text) (subject : Value)
    (run : CodecPolicy → Except CodecObstacle α) : Except Fault α :=
  let policy? := CodecPolicy.ofName? policy
  match run (policy?.getD .refuse), policy? with
  | .ok a, _ => .ok a
  | .error (.fault _), none => .error (unknownPolicy direction name policy)
  | .error obstacle, _ => .error (faultOf direction name subject obstacle)

/-- The bytes of a text. -/
def encoded (t : Text) (name policy : Value) : Except Fault Value := do
  let name ← nameOf .encoding "encoding" name
  let policy ← nameOf .encoding "errors" policy
  let codec ← codecOf .encoding name
  let bytes ← settled .encoding name policy (.text t) fun p => codec.encode policy p t
  return .bytes bytes

/-- The text of some bytes. -/
def decoded (bs : List UInt8) (name policy : Value) : Except Fault Value := do
  let name ← nameOf .decoding "encoding" name
  let policy ← nameOf .decoding "errors" policy
  if bs.isEmpty then return .text []
  else
    let codec ← codecOf .decoding name
    let t ← settled .decoding name policy (.bytes bs) fun p => codec.decode policy p bs
    return .text t

end Zpl.Coding
