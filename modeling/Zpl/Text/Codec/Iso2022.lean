import Zpl.Text.Codec.CharacterSet

/-!
# Codecs with escape sequences

ISO 2022 encodes a text by bytes of ASCII. An escape sequence designates the character set that the
bytes after it belong to; at the end of the text that is ASCII again. The codecs for Japanese
designate their sets in the first place. The one for Korean designates its set in the second place
once, and control characters shift between the two places. A third place is only there for single
characters.

## Main definitions

* `Iso2022` — the codecs.
* `Iso2022.encoder`, `Iso2022.reader` — the two directions.
-/

namespace Zpl

/-- The codecs. -/
inductive Iso2022 where
  | japanese
  /-- With JIS X 0212. -/
  | supplemented
  /-- With further sets of Europe, China and Korea. -/
  | international
  /-- With JIS X 0213. -/
  | jisX0213 (form : JisX0213.Form)
  /-- With narrow syllables. -/
  | extended
  | korean
  deriving DecidableEq, Repr

namespace Iso2022

open CodeTable (byte)

/-- The name of a codec in diagnostics. -/
def codecName : Iso2022 → Text
  | .japanese => "iso2022_jp"
  | .supplemented => "iso2022_jp_1"
  | .international => "iso2022_jp_2"
  | .jisX0213 .first => "iso2022_jp_3"
  | .jisX0213 .revised => "iso2022_jp_2004"
  | .extended => "iso2022_jp_ext"
  | .korean => "iso2022_kr"

/-- The sets of a codec in the order in which a character is looked for. -/
def sets : Iso2022 → List CharacterSet
  | .japanese => [.jisX0208, .roman, .jisX0208Early]
  | .supplemented => [.jisX0208, .jisX0212, .roman, .jisX0208Early]
  | .international =>
    [.jisX0208, .jisX0212, .ksX1001, .gb2312, .roman, .jisX0208Early, .latin, .greek]
  | .jisX0213 .first => [.jisX0208, .jisX0213EarlyFirst, .jisX0213EarlySecond]
  | .jisX0213 .revised => [.jisX0208, .jisX0213First, .jisX0213Second]
  | .extended => [.jisX0208, .jisX0212, .roman, .katakana, .jisX0208Early]
  | .korean => [.ksX1001]

/-- The set in which pairs of characters are looked for before anything else. -/
def pairSet? : Iso2022 → Option CharacterSet
  | .jisX0213 .first => some .jisX0213EarlyFirst
  | .jisX0213 .revised => some .jisX0213First
  | _ => none

/-- Whether control characters shift between two places. -/
def shifts (codec : Iso2022) : Bool := codec = .korean

/-- Whether there is a third place for single characters. -/
def hasThird (codec : Iso2022) : Bool := codec = .international

/-! ### Places -/

/-- The places to which sets are designated. -/
inductive Place where
  | first
  | second
  | third
  deriving DecidableEq, Repr

/-- What is designated, and how bytes are taken. -/
structure State where
  first : CharacterSet := .ascii
  second : CharacterSet := .ascii
  third : CharacterSet := .ascii
  /-- Whether bytes belong to the set in the second place. -/
  isShifted : Bool := false
  /-- Whether an escape sequence of another standard is going on. -/
  isForeign : Bool := false
  deriving DecidableEq, Repr

namespace State

/-- The set that bytes belong to. -/
def current (s : State) : CharacterSet := if s.isShifted then s.second else s.first

def designate (s : State) (place : Place) (set : CharacterSet) : State :=
  match place with
  | .first => { s with first := set }
  | .second => { s with second := set }
  | .third => { s with third := set }

/-- A set that was designated is in its place. -/
theorem first_designate (s : State) (set : CharacterSet) :
    (s.designate .first set).first = set := rfl

end State

/-! ### Control characters -/

def escape : UInt8 := 0x1B

/-- Shifts to the second place. -/
def shiftOut : UInt8 := 0x0E

/-- Shifts to the first place. -/
def shiftIn : UInt8 := 0x0F

def newline : UInt8 := 0x0A

/-- The byte of an ASCII character. -/
def sign (c : Char) : UInt8 := byte c.toNat

/-- Whether a byte ends an escape sequence. -/
def isFinal (b : UInt8) : Bool := 0x40 ≤ b && b ≤ 0x5A

/-! ### Encoding -/

/-- The escape sequence that designates a set. -/
def sequenceFor (place : Place) (set : CharacterSet) : List UInt8 :=
  let width := if set.isWide then [sign '$'] else []
  let target :=
    match place with
    | .first => if set = .jisX0208 then [] else [sign '(']
    | .second => [sign ')']
    | .third => [sign '.']
  [escape] ++ width ++ target ++ [sign set.mark]

/-- What brings ASCII back. -/
def backToAscii (s : State) : List UInt8 :=
  (if s.isShifted then [shiftIn] else [])
    ++ (if s.first = .ascii then [] else sequenceFor .first .ascii)

/-- What goes before a character of a set, and the state behind it. -/
def announce (codec : Iso2022) (s : State) (set : CharacterSet) : List UInt8 × State :=
  if codec.shifts then
    ((if s.second = set then [] else sequenceFor .second set)
        ++ (if s.isShifted then [] else [shiftOut]),
      { s with second := set, isShifted := true })
  else (if s.first = set then [] else sequenceFor .first set, { s with first := set })

/-- The first of some sets that has a character, and its bytes. -/
def findIn (c : CodePoint) : List CharacterSet → Option (CharacterSet × List UInt8)
  | [] => none
  | set :: others =>
    match c with
    | .scalar c =>
      match set.table.bytes? c with
      | some bytes => some (set, bytes)
      | none => findIn (.scalar c) others
    | .surrogate _ => none

/-- The set, and the bytes in it, of a character with the one that follows. -/
def pairIn? (codec : Iso2022) (c : CodePoint) (next? : Option CodePoint) :
    Option (CharacterSet × List UInt8) := do
  let set ← codec.pairSet?
  let next ← next?
  let bytes ← set.table.pairBytes? c next
  return (set, bytes)

/-- The bytes of a code point, given the one that follows. -/
def step? (codec : Iso2022) (s : State) (c : CodePoint) (next? : Option CodePoint) :
    Option (Coded State) :=
  if c.code < 0x80 then
    some { bytes := backToAscii s ++ [byte c.code],
           state := { s with first := .ascii, isShifted := false } }
  else
    match codec.pairIn? c next? with
    | some (set, bytes) =>
      let (before, s) := codec.announce s set
      some { bytes := before ++ bytes, isPair := true, state := s }
    | none =>
      (findIn c codec.sets).map fun (set, bytes) =>
        let (before, s) := codec.announce s set
        { bytes := before ++ bytes, state := s }

def encoder (codec : Iso2022) : StreamEncoder State where
  codec := codec.codecName
  start := {}
  step? := codec.step?
  finish := backToAscii

/-! ### Decoding -/

/-- Where an escape sequence ends. -/
inductive Ending where
  /-- It takes so many bytes. -/
  | after (length : Nat)
  | missing
  | tooFar

/-- The longest escape sequence has one byte less. -/
def bound : Nat := 16

/-- Where an escape sequence ends, from a byte on. An announcement that a set was revised stands
before an escape sequence of its own. -/
def endingFrom (codec : Iso2022) (bs : List UInt8) (n : Nat) : Ending :=
  if bound ≤ n then .tooFar
  else
    match bs[n]? with
    | none => .missing
    | some b =>
      if isFinal b then .after (n + 1)
      else if !codec.shifts && b = sign '&' && bs[n + 1]? = some (sign '@') then
        endingFrom codec bs (n + 3)
      else endingFrom codec bs (n + 1)
termination_by bound - n

/-- The set of a codec that has a mark. -/
def setOf? (codec : Iso2022) (isWide : Bool) (mark : UInt8) : Option CharacterSet :=
  (CharacterSet.ascii :: codec.sets).find? fun set => set.isWide == isWide && sign set.mark == mark

/-- The place that a byte of an escape sequence tells. -/
def placeOf? (codec : Iso2022) (isWide : Bool) (b : UInt8) : Option Place :=
  if b = sign '(' then some .first
  else if b = sign ')' then some .second
  else if b = sign '.' && codec.hasThird && !isWide then some .third
  else none

/-- What an escape sequence designates, and where. -/
def designation? (codec : Iso2022) (bs : List UInt8) : Option (Place × CharacterSet) :=
  match bs with
  | [_, kind, mark] =>
    if kind = sign '$' then (codec.setOf? true mark).map fun set => (.first, set)
    else do
      let place ← codec.placeOf? false kind
      let set ← codec.setOf? false mark
      return (place, set)
  | [_, width, kind, mark] => do
    if width = sign '$' then
      let place ← codec.placeOf? true kind
      let set ← codec.setOf? true mark
      return (place, set)
    else none
  | [_, _, _, inner, width, mark] =>
    if inner = escape ∧ width = sign '$' ∧ mark = sign 'B' then
      (codec.setOf? true mark).map fun set => (.first, set)
    else none
  | _ => none

/-- A part that encodes nothing. -/
def broken (s : State) (length : Nat) : Except CodecObstacle (Piece × State) :=
  .ok (.broken length CodecFault.illegal, s)

/-- A part that encodes nothing because the bytes end with it. -/
def unfinished (s : State) (bs : List UInt8) : Except CodecObstacle (Piece × State) :=
  .ok (.broken bs.length CodecFault.incomplete, s)

/-- What an escape sequence does. -/
def designated (codec : Iso2022) (s : State) (bs : List UInt8) :
    Except CodecObstacle (Piece × State) :=
  match codec.endingFrom bs 1 with
  | .missing => unfinished s bs
  | .tooFar => broken s 1
  | .after length =>
    match codec.designation? (bs.take length) with
    | some (place, set) => .ok (.read length [], s.designate place set)
    | none => broken s length

/-- A single character of the set in the third place. -/
def singled (s : State) (bs : List UInt8) : Except CodecObstacle (Piece × State) :=
  match bs[2]? with
  | none => unfinished s bs
  | some b =>
    match s.third.single? b with
    | .character c => .ok (.point 3 c, s)
    | .none => broken s 3
    | .unsuited => .error .defective

/-- What an escape character in front begins. -/
def escaped (codec : Iso2022) (s : State) (bs : List UInt8) :
    Except CodecObstacle (Piece × State) :=
  match bs[1]? with
  | none => unfinished s bs
  | some kind =>
    if [sign '(', sign ')', sign '$', sign '.', sign '&'].contains kind then codec.designated s bs
    else if codec.hasThird && kind = sign 'N' then singled s bs
    else .ok (.point 1 (CodePoint.ofCode escape.toNat), { s with isForeign := true })

/-- What bytes encode in front, and the state behind it. -/
def front (codec : Iso2022) (s : State) (bs : List UInt8) :
    Except CodecObstacle (Piece × State) :=
  match bs with
  | [] => unfinished s []
  | b :: _ =>
    let passed : Piece := .point 1 (CodePoint.ofCode b.toNat)
    if s.isForeign then .ok (passed, { s with isForeign := !isFinal b })
    else if b = escape then codec.escaped s bs
    else if codec.shifts && b = shiftIn then .ok (.read 1 [], { s with isShifted := false })
    else if codec.shifts && b = shiftOut then .ok (.read 1 [], { s with isShifted := true })
    else if b = newline then .ok (passed, { s with isShifted := false })
    else if b < 0x20 then .ok (passed, s)
    else if 0x80 ≤ b then broken s 1
    else if s.current = .ascii then .ok (passed, s)
    else
      let together := bs.take s.current.width
      if together.length < s.current.width then unfinished s bs
      else
        match s.current.table.text? together with
        | some t => .ok (.read s.current.width t, s)
        | none => broken s s.current.width

def reader (codec : Iso2022) : StreamReader State where
  codec := codec.codecName
  start := {}
  front := codec.front

end Iso2022

end Zpl
