import Mathlib.Data.List.Forall2
import Zpl.Command

/-!
# What texts contribute to the commands of a document

A printer reads a document command by command, each of which a caret introduces. What a text
contributes to the commands does not depend on what follows, as long as the text does not end within
a code. This is what `Emits` says. A text without carets contributes nothing, and a command whose
parameters have none contributes its code.

## Main definitions

* `Text.commandCodes` — the codes that carets introduce.
* `Text.Emits` — the codes that a text contributes, whatever follows.

## Main results

* `Text.Emits.join` — texts with a separator in between.
* `Command.emits_renderAll` — commands in a row.
-/

namespace Zpl

namespace Text

/-- The codes that carets introduce, in order. -/
def commandCodes : Text → List Text
  | [] => []
  | c :: rest => if c = .scalar '^' then rest.take 2 :: commandCodes rest else commandCodes rest

/-- No code point of a text is a caret. -/
def IsCaretFree (t : Text) : Prop := ∀ c ∈ t, c ≠ .scalar '^'

instance (t : Text) : Decidable t.IsCaretFree :=
  inferInstanceAs (Decidable (∀ c ∈ t, c ≠ .scalar '^'))

/-- No code point of a text introduces a command, and all of them have an encoding. -/
def IsPlain (t : Text) : Prop := ∀ c ∈ t, c ≠ .scalar '^' ∧ c.isSurrogate = false

instance (t : Text) : Decidable t.IsPlain :=
  inferInstanceAs (Decidable (∀ c ∈ t, c ≠ .scalar '^' ∧ c.isSurrogate = false))

/-- A text contributes some codes, whatever follows. -/
def Emits (t : Text) (codes : List Text) : Prop :=
  ∀ rest, commandCodes (t ++ rest) = codes ++ commandCodes rest

/-! ### First and last parts -/

theorem isPrefix_join (sep t : Text) (ts : List Text) : t <+: join sep (t :: ts) := by
  cases ts with
  | nil => simp
  | cons u us =>
    rw [join_cons_cons, List.append_assoc]
    exact List.prefix_append t _

theorem isSuffix_join (sep : Text) (ts : List Text) (t : Text) : t <:+ join sep (ts ++ [t]) := by
  induction ts with
  | nil => simp
  | cons u us ih =>
    obtain ⟨v, vs, hvs⟩ : ∃ v vs, us ++ [t] = v :: vs := List.exists_cons_of_ne_nil (by simp)
    rw [List.cons_append, hvs, join_cons_cons, ← hvs]
    exact ih.trans (List.suffix_append _ _)

/-! ### Plain texts -/

/-- What holds of a separator and of some parts holds of the parts with separators in between. -/
theorem forall_mem_join {P : CodePoint → Prop} {sep : Text} (hsep : ∀ c ∈ sep, P c)
    {ts : List Text} (h : ∀ t ∈ ts, ∀ c ∈ t, P c) : ∀ c ∈ join sep ts, P c := by
  induction ts with
  | nil => simp [join]
  | cons t ts ih =>
    obtain ⟨ht, hts⟩ := List.forall_mem_cons.1 h
    cases ts with
    | nil => rwa [join_singleton]
    | cons u us =>
      rw [join_cons_cons, List.forall_mem_append, List.forall_mem_append]
      exact ⟨⟨ht, hsep⟩, ih hts⟩

@[simp] theorem isPlain_nil : IsPlain [] := by decide

@[simp] theorem isPlain_ofNat (n : Nat) : (ofNat n).IsPlain := by
  intro c hc
  obtain ⟨d, hd, rfl⟩ := List.mem_map.1 hc
  have digit := Nat.isDigit_of_mem_toDigits (by decide) (by decide) hd
  refine ⟨?_, rfl⟩
  rintro ⟨⟩
  simp at digit

@[simp] theorem isPlain_ofInt (n : Int) : (ofInt n).IsPlain := by
  unfold ofInt
  split
  · exact List.forall_mem_cons.2 ⟨by decide, isPlain_ofNat _⟩
  · exact isPlain_ofNat _

theorem IsPlain.isCaretFree {t : Text} (h : t.IsPlain) : t.IsCaretFree := fun c hc => (h c hc).1

@[simp] theorem isCaretFree_nil : IsCaretFree [] := by decide

theorem isCaretFree_append {t u : Text} : IsCaretFree (t ++ u) ↔ IsCaretFree t ∧ IsCaretFree u :=
  List.forall_mem_append

@[simp] theorem isCaretFree_ofInt (n : Int) : (ofInt n).IsCaretFree := (isPlain_ofInt n).isCaretFree

/-! ### Codes -/

namespace Emits

theorem nil : Emits [] [] := fun _ => rfl

theorem append {t u : Text} {cs ds : List Text} (ht : Emits t cs) (hu : Emits u ds) :
    Emits (t ++ u) (cs ++ ds) := by
  intro rest
  rw [List.append_assoc, ht, hu, List.append_assoc]

theorem of_isCaretFree {t : Text} (h : t.IsCaretFree) : Emits t [] := by
  intro rest
  induction t with
  | nil => rfl
  | cons c t ih =>
    obtain ⟨hc, ht⟩ := List.forall_mem_cons.1 h
    rw [List.cons_append, commandCodes, if_neg hc]
    exact ih ht

/-- Parts with something without carets in between. -/
theorem join {sep : Text} (hsep : sep.IsCaretFree) {ts : List Text} {css : List (List Text)}
    (h : List.Forall₂ Emits ts css) : Emits (join sep ts) css.flatten := by
  induction h with
  | nil => exact nil
  | @cons t cs ts css ht hts ih =>
    cases hts with
    | nil => simpa using ht
    | @cons u ds us dss hu hus =>
      rw [join_cons_cons, List.flatten_cons]
      have first := ht.append (of_isCaretFree hsep)
      rw [List.append_nil] at first
      exact first.append ih

/-- The codes of a whole text. -/
theorem commandCodes_eq {t : Text} {cs : List Text} (h : Emits t cs) : t.commandCodes = cs := by
  have whole := h []
  rwa [List.append_nil, commandCodes, List.append_nil] at whole

end Emits

end Text

namespace Command

/-- A command contributes its code. -/
theorem emits {c : Command} (h : c.parameters.IsCaretFree) : c.render.Emits [c.code] := by
  have hcode : c.code.IsCaretFree := by
    cases c <;> simp [code, Text.IsCaretFree, Text.ofString, Text.ofChars]
  intro rest
  -- The two code points after the caret are taken as the code and read once more after that.
  have body := Text.Emits.of_isCaretFree (Text.isCaretFree_append.2 ⟨hcode, h⟩) rest
  rw [render, List.cons_append, List.cons_append, Text.commandCodes, if_pos rfl]
  rw [List.nil_append] at body
  rw [body, List.append_assoc, List.take_left' c.length_code]
  rfl

/-- Commands contribute their codes. -/
theorem emits_renderAll {cs : List Command} (h : ∀ c ∈ cs, c.parameters.IsCaretFree) :
    (renderAll cs).Emits (cs.map code) := by
  induction cs with
  | nil => exact .nil
  | cons c cs ih =>
    obtain ⟨hc, hcs⟩ := List.forall_mem_cons.1 h
    exact (emits hc).append (ih hcs)

end Command

end Zpl
