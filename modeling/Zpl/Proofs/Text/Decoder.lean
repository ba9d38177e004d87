import Zpl.Component.Token

/-!
# Reading texts back

A text that is put together from parts can be read part by part, if it is clear where each part
ends. A decoder reads one part and leaves the rest. A whole number ends at the first code point that
is no digit, so it is read together with the text that stops it; a payload, in which anything may
occur, ends where a known ending of the whole text begins.

## Main definitions

* `Decoder` — reads a part of a text.
* `Decoder.Reads` — a decoder reads a certain text as a certain value, whatever follows.
* `Decoder.Decodes` — the same for a text that nothing follows.

## Main results

* `Decoder.Reads.bind`, `Decoder.Decodes.bind` — parts are read one after the other.
* `Decoder.reads_number` — a whole number is read as itself.
-/

namespace Zpl

/-- Reads a part of a text, and leaves the rest. -/
abbrev Decoder := StateT Text Option

namespace Decoder

variable {α β : Type}

/-- Reads a given text. -/
def literal (t : Text) : Decoder Unit := fun rest =>
  if t.isPrefixOf rest then some ((), rest.drop t.length) else none

/-- Reads as many code points as there are in a code. -/
def code : Decoder Text := fun rest => some (rest.take 2, rest.drop 2)

/-- Reads one of some values, each of which has a text of its own. -/
def oneOf (as : List α) (text : α → Text) : Decoder α := fun rest =>
  as.findSome? fun a =>
    if (text a).isPrefixOf rest then some (a, rest.drop (text a).length) else none

/-- Reads all up to a given ending. -/
def payload (ending : Text) : Decoder Text := fun rest =>
  if ending.isSuffixOf rest then some (rest.take (rest.length - ending.length), []) else none

/-- The character of a decimal digit. -/
def digit? : CodePoint → Option Char
  | .scalar c => if c.isDigit then some c else none
  | .surrogate _ => none

/-- The leading digits of a text. -/
def digits (t : Text) : List Char := (t.takeWhile fun c => (digit? c).isSome).filterMap digit?

/-- Reads a natural number. -/
def natural : Decoder Nat := fun rest =>
  some (Nat.ofDigitChars 10 (digits rest) 0, rest.dropWhile fun c => (digit? c).isSome)

/-- Reads a whole number. -/
def integer : Decoder Int := fun rest =>
  match rest with
  | .scalar '-' :: rest => (natural rest).map fun (n, rest) => (-(n : Int), rest)
  | rest => (natural rest).map fun (n, rest) => (n, rest)

/-- Reads a whole number and the text that stops it. -/
def number (stop : Text) : Decoder Int := do
  let n ← integer
  literal stop
  return n

/-! ### Reading what was written -/

/-- A decoder reads a text as a value, whatever follows. -/
def Reads (p : Decoder α) (t : Text) (a : α) : Prop := ∀ rest, p (t ++ rest) = some (a, rest)

/-- A decoder reads a text as a value, if nothing follows. -/
def Decodes (p : Decoder α) (t : Text) (a : α) : Prop := p t = some (a, [])

theorem Reads.pure (a : α) : Reads (pure a) [] a := fun _ => rfl

theorem Reads.bind {p : Decoder α} {f : α → Decoder β} {t u : Text} {a : α} {b : β}
    (hp : Reads p t a) (hf : Reads (f a) u b) : Reads (p >>= f) (t ++ u) b := by
  intro rest
  have first : p (t ++ u ++ rest) = some (a, u ++ rest) := by rw [List.append_assoc, hp]
  have runs : (p >>= f) (t ++ u ++ rest) =
      (p (t ++ u ++ rest)).bind fun (a, rest) => f a rest := rfl
  rw [runs, first]
  exact hf rest

theorem Decodes.bind {p : Decoder α} {f : α → Decoder β} {t u : Text} {a : α} {b : β}
    (hp : Reads p t a) (hf : Decodes (f a) u b) : Decodes (p >>= f) (t ++ u) b := by
  have runs : (p >>= f) (t ++ u) = (p (t ++ u)).bind fun (a, rest) => f a rest := rfl
  rw [Decodes, runs, hp]
  exact hf

theorem Decodes.map {p : Decoder α} {t : Text} {a : α} (h : Decodes p t a) (f : α → β) :
    Decodes (p >>= fun a => Pure.pure (f a)) t (f a) := by
  have runs : (p >>= fun a => Pure.pure (f a) : Decoder β) t =
      (p t).bind fun (a, rest) => some (f a, rest) := rfl
  rw [Decodes, runs, h]
  rfl

theorem reads_literal (t : Text) : Reads (literal t) t () := by
  intro rest
  simp [literal]

theorem reads_code {t : Text} (h : t.length = 2) : Reads code t t := by
  intro rest
  rw [code, List.take_left' h, List.drop_left' h]

theorem decodes_payload (t ending : Text) : Decodes (payload ending) (t ++ ending) t := by
  have ends : ending.isSuffixOf (t ++ ending) = true := by
    rw [List.isSuffixOf_iff_suffix]
    exact List.suffix_append t ending
  simp [Decodes, payload, ends]

/-! ### Choices -/

/-- One of some values is read, if their texts are different and equally long. -/
theorem reads_oneOf {as : List α} {text : α → Text} {a : α} (ha : a ∈ as)
    (hlength : ∀ b ∈ as, (text b).length = (text a).length)
    (hdistinct : ∀ b ∈ as, text b = text a → b = a) : Reads (oneOf as text) (text a) a := by
  intro rest
  simp only [oneOf]
  induction as with
  | nil => simp at ha
  | cons b as ih =>
    obtain ⟨hb, has⟩ := List.forall_mem_cons.1 hlength
    obtain ⟨hba, hrest⟩ := List.forall_mem_cons.1 hdistinct
    rw [List.findSome?_cons]
    by_cases hprefix : text b <+: text a ++ rest
    · have same : text b <+: text a :=
        List.prefix_of_prefix_length_le hprefix (List.prefix_append _ _) (Nat.le_of_eq hb)
      obtain rfl := hba (same.eq_of_length hb)
      simp
    · have hne : a ≠ b := by
        rintro rfl
        exact hprefix (List.prefix_append _ _)
      rw [if_neg (by rwa [List.isPrefixOf_iff_prefix])]
      exact ih ((List.mem_cons.1 ha).resolve_left hne) has hrest

/-- A choice is read by its token, if tokens are single code points. -/
theorem reads_token [Tokened α] (hchoice : ∀ a : α, choice? (token a) = some a)
    (hlength : ∀ a : α, (token a).length = 1) (a : α) :
    Reads (oneOf Tokened.all token) (token a) a := by
  refine reads_oneOf (List.mem_of_find?_eq_some (hchoice a)) (fun b _ => ?_) fun b _ h => ?_
  · rw [hlength, hlength]
  · have same := hchoice b
    rw [h, hchoice] at same
    exact (Option.some.inj same).symm

/-! ### Whole numbers -/

theorem digit?_of_mem_ofNat {n : Nat} {c : CodePoint} (h : c ∈ Text.ofNat n) :
    (digit? c).isSome = true := by
  obtain ⟨d, hd, rfl⟩ := List.mem_map.1 h
  simp [digit?, Nat.isDigit_of_mem_toDigits (by decide) (by decide) hd]

theorem filterMap_digit?_ofChars {cs : List Char} (h : ∀ c ∈ cs, c.isDigit = true) :
    (Text.ofChars cs).filterMap digit? = cs := by
  induction cs with
  | nil => rfl
  | cons c cs ih =>
    obtain ⟨hc, hcs⟩ := List.forall_mem_cons.1 h
    have first : digit? (.scalar c) = some c := by simp [digit?, hc]
    rw [Text.ofChars, List.map_cons, List.filterMap_cons_some first]
    exact congrArg (c :: ·) (ih hcs)

/-- A natural number is read up to what is no digit. -/
theorem natural_ofNat (n : Nat) {rest : Text} (h : ∀ c ∈ rest.head?, digit? c = none) :
    natural (Text.ofNat n ++ rest) = some (n, rest) := by
  have stops : rest.takeWhile (fun c => (digit? c).isSome) = [] ∧
      rest.dropWhile (fun c => (digit? c).isSome) = rest := by
    cases rest with
    | nil => exact ⟨rfl, rfl⟩
    | cons c rest => simp [h c rfl]
  have all : ∀ c ∈ Text.ofNat n, (digit? c).isSome = true := fun _ => digit?_of_mem_ofNat
  rw [natural, digits, List.takeWhile_append_of_pos all, List.dropWhile_append_of_pos all, stops.1,
    stops.2, List.append_nil, Text.ofNat, filterMap_digit?_ofChars fun c hc =>
      Nat.isDigit_of_mem_toDigits (by decide) (by decide) hc, Nat.ofDigitChars_ten_toDigits]

/-- A minus sign is no digit, so a number without a sign is not taken for one with a sign. -/
theorem head?_ofNat (n : Nat) : (Text.ofNat n).head? ≠ some (.scalar '-') := by
  intro h
  have minus := digit?_of_mem_ofNat (List.mem_of_head? h)
  simp [digit?] at minus

theorem integer_ofInt (n : Int) {rest : Text} (h : ∀ c ∈ rest.head?, digit? c = none) :
    integer (Text.ofInt n ++ rest) = some (n, rest) := by
  have reads := natural_ofNat n.natAbs h
  unfold Text.ofInt
  split
  · rw [List.cons_append, integer, reads]
    simp only [Option.map_some, Option.some.injEq, Prod.mk.injEq, and_true]
    omega
  · obtain ⟨c, cs, hcs⟩ := List.exists_cons_of_ne_nil (l := Text.ofNat n.natAbs) (by
      simp [Text.ofNat, Text.ofChars, Nat.toDigits_ne_nil])
    have minus := head?_ofNat n.natAbs
    rw [hcs] at reads minus ⊢
    rw [List.cons_append] at reads ⊢
    unfold integer
    split
    · rename_i heq
      exact absurd (congrArg some (List.cons.inj heq).1) minus
    · rw [reads]
      simp only [Option.map_some, Option.some.injEq, Prod.mk.injEq, and_true]
      omega

/-- A whole number is read up to the text that stops it. -/
theorem reads_number (n : Int) {stop : Text} {c : CodePoint} (hstop : stop.head? = some c)
    (hc : digit? c = none) : Reads (number stop) (Text.ofInt n ++ stop) n := by
  intro rest
  have first : integer (Text.ofInt n ++ (stop ++ rest)) = some (n, stop ++ rest) := by
    refine integer_ofInt n fun d hd => ?_
    rw [List.head?_append, hstop] at hd
    obtain rfl : c = d := by simpa using hd
    exact hc
  have runs : number stop (Text.ofInt n ++ stop ++ rest) =
      (integer (Text.ofInt n ++ (stop ++ rest))).bind fun (n, rest) =>
        (literal stop >>= fun _ => pure n : Decoder Int) rest := by
    rw [List.append_assoc]
    rfl
  rw [runs, first]
  have second := Reads.bind (f := fun _ => Pure.pure n) (reads_literal stop) (.pure n)
  rw [List.append_nil] at second
  exact second rest

end Decoder

end Zpl
