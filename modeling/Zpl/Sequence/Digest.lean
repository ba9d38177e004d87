/-!
# Digests of bytes

A digest is a word that tells most rows of bytes apart. The bytes are taken eight at a time, the
lowest first, and mixed into four words; how many there are goes into the last eight.

## Main definitions

* `Mixture` — the four words.
* `Digest.ofBytes` — the digest of some bytes.

## Main statements

* `Mixture.absorbAll_append` — what is absorbed in two parts is absorbed at once.
* `Digest.length_words` — eight bytes make a word, and the others are left.
-/

namespace Zpl

/-- Four words into which bytes are mixed. -/
structure Mixture where
  a : UInt64
  b : UInt64
  c : UInt64
  d : UInt64
  deriving Repr

namespace Mixture

/-- The words before there are any bytes. -/
def start : Mixture :=
  { a := 0x736F6D6570736575, b := 0x646F72616E646F6D, c := 0x6C7967656E657261,
    d := 0x7465646279746573 }

/-- A word with its bits moved around in a circle. -/
def turned (w : UInt64) (n : UInt64) : UInt64 := w <<< n ||| w >>> (64 - n)

/-- Half of a round: two of the words take up another one each. -/
def halfRound (s t : UInt64) (m : Mixture) : Mixture :=
  let a := m.a + m.b
  let c := m.c + m.d
  { a := turned a 32, b := turned m.b s ^^^ a, c := c, d := turned m.d t ^^^ c }

/-- The words with two of them in each other's place. -/
def swapped (m : Mixture) : Mixture := { m with a := m.c, c := m.a }

/-- One round of mixing. -/
def round (m : Mixture) : Mixture := ((m.halfRound 13 16).swapped.halfRound 17 21).swapped

/-- Takes up a word. -/
def absorb (m : Mixture) (w : UInt64) : Mixture :=
  let mixed := round { m with d := m.d ^^^ w }
  { mixed with a := mixed.a ^^^ w }

/-- Takes up words one after the other. -/
def absorbAll (m : Mixture) (ws : List UInt64) : Mixture := ws.foldl absorb m

/-- What is absorbed in two parts is absorbed at once. -/
theorem absorbAll_append (m : Mixture) (vs ws : List UInt64) :
    m.absorbAll (vs ++ ws) = (m.absorbAll vs).absorbAll ws := by
  simp [absorbAll]

/-- The word that is left in the end. -/
def settled (m : Mixture) : UInt64 :=
  let mixed := (round { m with c := m.c ^^^ 0xFF }).round.round
  mixed.a ^^^ mixed.b ^^^ (mixed.c ^^^ mixed.d)

end Mixture

namespace Digest

/-- The word of some bytes, the lowest first. -/
def wordOf (bytes : List UInt8) : UInt64 :=
  bytes.foldr (fun byte w => w <<< 8 ||| byte.toUInt64) 0

/-- The words of some bytes, eight for each, and then the bytes that are left. -/
def words : List UInt8 → List UInt64 × List UInt8
  | a :: b :: c :: d :: e :: f :: g :: h :: rest =>
    let (ws, left) := words rest
    (wordOf [a, b, c, d, e, f, g, h] :: ws, left)
  | left => ([], left)

/-- Eight bytes make a word, and the others are left. -/
theorem length_words (bytes : List UInt8) :
    8 * (words bytes).1.length + (words bytes).2.length = bytes.length := by
  fun_induction words bytes with
  | case1 a b c d e f g h rest ws left hwords ih =>
    simp only [hwords] at ih
    simp only [List.length_cons]
    omega
  | case2 left short => simp

/-- The digest of some bytes. No bytes have none to speak of. -/
def ofBytes (bytes : List UInt8) : UInt64 :=
  if bytes.isEmpty then 0
  else
    let (ws, left) := words bytes
    let last := UInt64.ofNat bytes.length <<< 56 ||| wordOf left
    (Mixture.start.absorbAll (ws ++ [last])).settled

end Digest

end Zpl
