import Zpl.Print.Job
import Zpl.Proofs.Text.Emission

/-!
# Encoding a document

A text has an encoding unless a surrogate stands alone in it, and then every code point is encoded
by itself. So the encoding of a job is that of one copy of the document, as many times over as there
are copies.

## Main definitions

* `Text.HasEncoding` — no surrogate stands alone in a text.
* `Text.bytes` — the encoding of a text that has one.

## Main results

* `Job.encoded_text` — the bytes of a job are those of one copy, repeated.
-/

namespace Zpl

namespace Text

/-- No surrogate stands alone in a text. -/
def HasEncoding (t : Text) : Prop := ∀ c ∈ t, c.isSurrogate = false

instance (t : Text) : Decidable t.HasEncoding :=
  inferInstanceAs (Decidable (∀ c ∈ t, c.isSurrogate = false))

/-- The encoding of a text that has one. -/
def bytes (t : Text) : List UInt8 := t.flatMap Utf8.encodeCodePoint

theorem IsPlain.hasEncoding {t : Text} (h : t.IsPlain) : t.HasEncoding := fun c hc => (h c hc).2

@[simp] theorem hasEncoding_append {t u : Text} :
    (t ++ u).HasEncoding ↔ t.HasEncoding ∧ u.HasEncoding := List.forall_mem_append

@[simp] theorem hasEncoding_ofString (s : String) : HasEncoding (ofString s) := by
  intro c hc
  obtain ⟨d, -, rfl⟩ := List.mem_map.1 hc
  rfl

@[simp] theorem hasEncoding_ofInt (n : Int) : (ofInt n).HasEncoding := (isPlain_ofInt n).hasEncoding

/-- A text without surrogates is encoded code point by code point. -/
theorem encode_eq_ok {t : Text} (h : t.HasEncoding) : Utf8.encode t = .ok t.bytes := by
  have none (position : Nat) : Utf8.firstSurrogates position t = none := by
    induction t generalizing position with
    | nil => rfl
    | cons c t ih =>
      obtain ⟨hc, ht⟩ := List.forall_mem_cons.1 h
      cases c with
      | scalar c => exact ih ht (position + 1)
      | surrogate n => cases hc
  rw [Utf8.encode, none]
  rfl

theorem bytes_repeated (n : Nat) (t : Text) :
    (repeated n t).bytes = (List.replicate n t.bytes).flatten := by
  induction n with
  | zero => rfl
  | succ n ih =>
    rw [repeated, List.replicate_succ, List.flatten_cons, bytes, List.flatMap_append,
      List.replicate_succ, List.flatten_cons, ← ih]
    rfl

theorem hasEncoding_repeated {t : Text} (h : t.HasEncoding) (n : Nat) :
    (repeated n t).HasEncoding := by
  intro c hc
  obtain ⟨u, hu, hc⟩ := List.mem_flatten.1 hc
  exact h c (List.eq_of_mem_replicate hu ▸ hc)

end Text

/-- A command has an encoding if its parameters have one. -/
theorem Command.hasEncoding_render {c : Command} (h : c.parameters.HasEncoding) :
    c.render.HasEncoding := by
  have code : c.code.HasEncoding := by cases c <;> exact Text.hasEncoding_ofString _
  exact List.forall_mem_cons.2 ⟨rfl, Text.hasEncoding_append.2 ⟨code, h⟩⟩

namespace Job

/-- The text of a job is the document with its line break, over and over. -/
theorem text_eq_repeated (document : Text) (n : Nat) :
    text document (n + 1) = Text.repeated (n + 1) (document ++ "\n") := by
  induction n with
  | zero => simp [text, Text.repeated]
  | succ n ih =>
    have more : text document (n + 2) = document ++ "\n" ++ text document (n + 1) := by
      simp only [text, List.replicate_succ, Text.join_cons_cons, List.append_assoc]
    rw [more, ih]
    simp only [Text.repeated, List.replicate_succ, List.flatten_cons]

/-- The bytes of a job are those of one copy with its line break, as many times over as there are
copies. -/
theorem encoded_text {document : Text} (h : document.HasEncoding) {n : Nat} (hn : n ≠ 0) :
    encoded (text document n) = .ok (List.replicate n (document ++ "\n" : Text).bytes).flatten := by
  obtain ⟨n, rfl⟩ := Nat.exists_eq_succ_of_ne_zero hn
  have line : (document ++ "\n" : Text).HasEncoding :=
    Text.hasEncoding_append.2 ⟨h, Text.hasEncoding_ofString "\n"⟩
  rw [text_eq_repeated, encoded, Text.encode_eq_ok (Text.hasEncoding_repeated line _),
    Text.bytes_repeated]

end Job

end Zpl
