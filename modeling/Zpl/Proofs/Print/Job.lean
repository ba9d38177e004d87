import Zpl.Proofs.Print.DryRun

/-!
# Building jobs

A job is its document over and over, with a line break after each copy, in UTF-8. It can be read
back, its size is known beforehand, and the job of all copies is that of some of them followed by
that of the others. What has no job is refused for want of a document before it is refused for want
of copies, and either before anything is encoded.

A label is asked for its document. That is never empty, not even if there is nothing on the label,
and asking is all that happens to the label: its job is the job of the text that callers get from
it.

## Main definitions

* `Job.IsLawful` — what can be relied on in the jobs of a text.

## Main results

* `Job.ofDocument_lawful` — the jobs of every text are lawful.
* `Action.buildJob_lawful` — so are those that callers build, and labels stand for their texts.
-/

namespace Zpl

/-! ### Texts without an encoding -/

/-- Where the first surrogates lie is settled before a character that comes after them. -/
theorem Utf8.firstSurrogates_append {t : Text} {position : Nat} {fault : EncodeFault}
    (h : firstSurrogates position t = some fault) (c : Char) (u : Text) :
    firstSurrogates position (t ++ .scalar c :: u) = some fault := by
  induction t generalizing position with
  | nil => cases h
  | cons code t ih =>
    cases code with
    | scalar d => exact ih h
    | surrogate n =>
      have run : (t ++ .scalar c :: u).takeWhile CodePoint.isSurrogate =
          t.takeWhile CodePoint.isSurrogate := by
        have stops : (CodePoint.scalar c :: u).takeWhile CodePoint.isSurrogate = [] := rfl
        rw [List.takeWhile_append, stops, List.append_nil]
        split
        · rename_i whole
          exact ((List.takeWhile_prefix _).eq_of_length whole).symm
        · rfl
      rw [← h, List.cons_append, firstSurrogates, run, firstSurrogates]

/-- A text that cannot be encoded has a fault that says why. -/
theorem Text.exists_encode_eq_error {t : Text} (h : ¬ t.HasEncoding) :
    ∃ fault, Utf8.encode t = .error fault := by
  cases encodes : Utf8.encode t with
  | ok bytes => exact absurd (hasEncoding_of_encode encodes) h
  | error fault => exact ⟨fault, rfl⟩

namespace Sending

/-- A document has as many bytes as there are in all of its copies and their line breaks. -/
theorem length_job (d : Sending) :
    d.job.length = d.copies * (d.document.bytes.length + 1) := by
  have line : (d.document ++ "\n" : Text).bytes.length = d.document.bytes.length + 1 := by
    rw [Text.bytes, List.flatMap_append, List.length_append]
    rfl
  rw [job, text, Text.bytes_repeated, List.length_flatten, List.map_replicate,
    List.sum_replicate_nat, line]

/-- Copies can be sent apart. -/
theorem job_add (document : Text) (m n : Nat) :
    job { document := document, copies := m + n } =
      job { document := document, copies := m } ++ job { document := document, copies := n } := by
  simp only [job, text, Text.bytes_repeated, List.replicate_add, List.flatten_append]

end Sending

/-! ### Jobs of texts -/

namespace Job

/-- A document that cannot be encoded spoils its job, however often it is in there. -/
theorem encoded_text_eq_error {document : Text} {fault : Utf8.EncodeFault}
    (h : Utf8.encode document = .error fault) {n : Nat} (hn : n ≠ 0) :
    encoded (text document n) = .error (.encoding fault) := by
  obtain ⟨n, rfl⟩ := Nat.exists_eq_succ_of_ne_zero hn
  have first : Utf8.firstSurrogates 0 document = some fault := by
    rw [Utf8.encode] at h
    split at h
    · rename_i found
      cases h
      exact found
    · cases h
  have copies : text document (n + 1) =
      document ++ .scalar '\n' :: Text.repeated n (document ++ "\n") := by
    rw [text_eq_repeated, Text.repeated, List.replicate_succ, List.flatten_cons, List.append_assoc]
    rfl
  rw [encoded, copies, Utf8.encode, Utf8.firstSurrogates_append first]

/-- Without a document, nothing else is looked at. -/
theorem ofDocument_nil (capacity : Nat) (d : Directory) (copies : Value) :
    ofDocument capacity d (.text []) copies = .error (refused "nothing to print") := rfl

/-- Of a text that is not empty, copies are counted first. -/
theorem ofDocument_int (capacity : Nat) (d : Directory) {t : Text} (ht : t ≠ []) (n : Int) :
    ofDocument capacity d (.text t) (.int n) =
      if n < 1 then Decimal.write n >>= fun shown =>
        .error (refused ("copies must be >= 1, got " ++ shown))
      else copyCount capacity (.int n) >>= fun count => encoded (text t count) := by
  have truth : (Value.text t).truth d = true := by simpa [Value.truth] using ht
  rw [ofDocument, truth, tooFew_int, Value.shown_int]
  by_cases few : n < 1
  · simp only [few, decide_true]
    rfl
  · simp only [few, decide_false]
    rfl

/-- A document that is there is not missed. -/
theorem ofDocument_ne_missing (capacity : Nat) (d : Directory) {t : Text} (ht : t ≠ []) (n : Int) :
    ofDocument capacity d (.text t) (.int n) ≠ .error (refused "nothing to print") := by
  rw [ofDocument_int capacity d ht]
  intro missing
  split at missing
  · rw [Decimal.write] at missing
    split at missing <;> cases missing
  · cases hcount : copyCount capacity (.int n) with
    | ok count =>
      have encodes : encoded (text t count) = .error (refused "nothing to print") :=
        (congrArg (· >>= fun count => encoded (text t count)) hcount).symm.trans missing
      rw [encoded] at encodes
      split at encodes <;> cases encodes
    | error fault =>
      have known := copyCount_fault hcount
      rw [hcount] at missing
      cases missing
      simp [refused] at known

/-- What can be relied on in the jobs of a text `d`, one for each number of copies, where there is
memory for `capacity` copies. -/
structure IsLawful (capacity : Nat) (d : Text) (job : Int → Except Fault (List UInt8)) : Prop where
  /-- There is a job exactly if there is a document, it has an encoding, and its copies fit. -/
  built (n : Int) : (∃ bytes, job n = .ok bytes) ↔
    d ≠ [] ∧ 1 ≤ n ∧ Fits capacity n ∧ d.HasEncoding
  /-- Without a document, it does not matter how many copies there are to be. -/
  missing (empty : d = []) (n : Int) : job n = .error (refused "nothing to print")
  /-- Without copies, it does not matter whether the document has an encoding. -/
  few (some : d ≠ []) {n : Int} (few : n < 1) (writable : Decimal.isWritable n = true) :
    job n = .error (refused ("copies must be >= 1, got " ++ Text.ofInt n))
  /-- Nor does it if there are too many of them. -/
  many (some : d ≠ []) {n : Int} (positive : 1 ≤ n) (many : ¬ Fits capacity n) :
    job n = .error (if n < Value.countBound then .outOfMemory else .countTooLarge)
  unencoded (broken : ¬ d.HasEncoding) {n : Int} (positive : 1 ≤ n) (fits : Fits capacity n) :
    ∃ fault, Utf8.encode d = .error fault ∧ job n = .error (.encoding fault)
  read {n : Int} {bytes : List UInt8} (made : job n = .ok bytes) :
    Utf8.decode bytes = .ok (Text.repeated n.toNat (d ++ "\n"))
  size {n : Int} {bytes : List UInt8} (made : job n = .ok bytes) :
    ∃ once, Utf8.encode d = .ok once ∧ bytes.length = n.toNat * (once.length + 1)
  add {m n : Int} (hm : 1 ≤ m) (hn : 1 ≤ n) (fits : Fits capacity (m + n)) :
    job (m + n) = do return (← job m) ++ (← job n)

/-- What is part of copies that fit fits as well. -/
theorem Fits.mono {capacity : Nat} {m n : Int} (h : Fits capacity n) (hmn : m ≤ n) :
    Fits capacity m :=
  ⟨hmn.trans_lt h.countable, hmn.trans h.stored⟩

/-- The jobs of a text. -/
theorem ofDocument_lawful (capacity : Nat) (dir : Directory) (d : Text) :
    IsLawful capacity d fun n => ofDocument capacity dir (.text d) (.int n) := by
  have inverted {n : Int} {bytes : List UInt8}
      (h : ofDocument capacity dir (.text d) (.int n) = .ok bytes) :
      Sending.IsProper { document := d, copies := n.toNat } ∧ n ≤ capacity ∧
        bytes = Sending.job { document := d, copies := n.toNat } := by
    obtain ⟨t, m, ht, hm, proper, room, rfl⟩ := ofDocument_eq_ok_iff.1 h
    cases ht
    cases hm
    exact ⟨proper, room, rfl⟩
  have made {n : Int} (hd : d ≠ []) (positive : 1 ≤ n) (fits : Fits capacity n)
      (encoding : d.HasEncoding) : ofDocument capacity dir (.text d) (.int n) =
        .ok (Sending.job { document := d, copies := n.toNat }) := by
    have countable := fits.countable
    exact ofDocument_eq_ok_iff.2 ⟨d, n, rfl, rfl,
      ⟨hd, encoding, by dsimp only; omega, by dsimp only; omega⟩, fits.stored, rfl⟩
  have spoiled (hd : ¬ d.HasEncoding) {n : Int} (positive : 1 ≤ n) (fits : Fits capacity n)
      {fault : Utf8.EncodeFault} (hfault : Utf8.encode d = .error fault) :
      ofDocument capacity dir (.text d) (.int n) = .error (.encoding fault) := by
    have some : d ≠ [] := by
      rintro rfl
      exact hd nofun
    rw [ofDocument_text dir some positive fits, encoded_text_eq_error hfault (by omega)]
  constructor
  case built =>
    refine fun n => ⟨fun ⟨bytes, h⟩ => ?_, fun ⟨hd, positive, fits, encoding⟩ =>
      ⟨_, made hd positive fits encoding⟩⟩
    obtain ⟨⟨hd, encoding, positive, countable⟩, room, -⟩ := inverted h
    dsimp only at positive countable
    exact ⟨hd, by omega, ⟨by omega, room⟩, encoding⟩
  case missing =>
    rintro rfl n
    exact ofDocument_nil capacity dir (.int n)
  case few =>
    intro hd n few writable
    rw [ofDocument_int capacity dir hd, if_pos few, Decimal.write_of_isWritable writable]
    rfl
  case many =>
    intro hd n positive many
    rw [ofDocument_int capacity dir hd, if_neg (by omega), copyCount_int capacity positive]
    by_cases countable : n < Value.countBound
    · rw [if_pos countable, if_neg fun stored => many ⟨countable, stored⟩, if_pos countable]
      rfl
    · rw [if_neg countable, if_neg countable]
      rfl
  case unencoded =>
    intro hd n positive fits
    obtain ⟨fault, hfault⟩ := Text.exists_encode_eq_error hd
    exact ⟨fault, hfault, spoiled hd positive fits hfault⟩
  case read =>
    intro n bytes h
    obtain ⟨proper, -, rfl⟩ := inverted h
    exact Utf8.decode_bytes proper.hasEncoding_text
  case size =>
    intro n bytes h
    obtain ⟨proper, -, rfl⟩ := inverted h
    exact ⟨_, Text.encode_eq_ok proper.encoding, Sending.length_job _⟩
  case add =>
    intro m n hm hn fits
    by_cases hd : d = []
    · subst hd
      rfl
    have first := fits.mono (show m ≤ m + n by omega)
    by_cases encoding : d.HasEncoding
    · rw [made hd hm first encoding, made hd hn (fits.mono (by omega)) encoding,
        made hd (by omega) fits encoding, Int.toNat_add (by omega) (by omega), Sending.job_add]
      rfl
    · obtain ⟨fault, hfault⟩ := Text.exists_encode_eq_error encoding
      rw [spoiled encoding hm first hfault, spoiled encoding (by omega) fits hfault]
      rfl

end Job

/-! ### Jobs of labels -/

namespace Action

variable {s : Store} {l : Ref} {lab : Label}

/-- The document of a label is not empty. -/
theorem document_ne_nil {around : Surroundings} {t : Text}
    (h : (document l).outcome around s = .ok t) : t ≠ [] := by
  obtain ⟨_, -, h⟩ := exists_of_outcome_bind h
  obtain ⟨_, -, h⟩ := exists_of_outcome_bind h
  obtain ⟨_, -, h⟩ := exists_of_outcome_bind h
  obtain ⟨_, -, h⟩ := exists_of_outcome_bind h
  obtain ⟨_, -, h⟩ := exists_of_outcome_bind h
  obtain ⟨_, -, h⟩ := exists_of_outcome_bind h
  cases h
  nofun

/-- A label that is asked for its document answers with the text. -/
theorem call_toZpl (hs : s.IsGenuine) (hl : s.label? l = some lab) (c : Circumstances) :
    call (.object l) "to_zpl" {} (.within c s.depth) s =
      (document l >>= fun t => pure (.text t)) (.within c s.depth) s := by
  have free : s.IsFree l "to_zpl" (.label lab) := Store.isFree_label hl rfl (hs l _ (by decide))
  have offered : Label.methods.find? (·.name == "to_zpl") =
      some (.query "to_zpl" fun r => return .text (← document r)) := rfl
  rw [call_method free rfl offered (show Signature.bind _ {} = .ok [] from rfl)]
  simp only [Method.query, bind_apply]
  rw [(spells_document l).same (.inside c s) (.within c s.depth) s rfl hs]
  cases document l (.within c s.depth) s <;> rfl

/-- The job of a label is that of its document. -/
theorem buildJob_label (hs : s.IsGenuine) (hl : s.label? l = some lab) (copies : Value)
    (around : Surroundings) :
    buildJob (.object l) copies around s =
      (document l >>= fun t => buildJob (.text t) copies) around s := by
  have asked : documentOf (.object l) around s =
      (document l >>= fun t => pure (.text t)) around s := by
    rw [documentOf, bind_apply, get_apply]
    simp only [hl]
    exact dispatch_of_unattached (hs l _ (by decide)) _ _ _
  rw [buildJob, bind_apply, asked, bind_apply, bind_apply]
  cases document l around s <;> rfl

/-- However much memory there is, the jobs of a text are lawful. Those of a label are the jobs of the
text that callers get if they ask the label for it, and they are never refused for want of a
document. -/
theorem buildJob_lawful (hs : s.IsGenuine) (c : Circumstances) :
    (∀ d : Text,
      Job.IsLawful c.capacity d fun n => ((buildJob (.text d) (.int n)).attempt c s).1) ∧
      ∀ l lab, s.label? l = some lab → ∀ n : Int,
        (buildJob (.object l) (.int n)).attempt c s =
            (do buildJob (← call (.object l) "to_zpl" {}) (.int n)).attempt c s ∧
          ((buildJob (.object l) (.int n)).attempt c s).1 ≠
            .error (Job.refused "nothing to print") := by
  refine ⟨fun d => ?_, fun l lab hl n => ⟨?_, fun missing => ?_⟩⟩
  · simp only [attempt_eq, outcome_buildJob_text, Surroundings.circumstances_within]
    exact Job.ofDocument_lawful c.capacity s.directory d
  · have same : buildJob (.object l) (.int n) (.within c s.depth) s =
        (do buildJob (← call (.object l) "to_zpl" {}) (.int n)) (.within c s.depth) s := by
      rw [buildJob_label hs hl, bind_apply, bind_apply, call_toZpl hs hl, bind_apply]
      cases document l (.within c s.depth) s <;> rfl
    rw [attempt_eq, attempt_eq, outcome_congr same, after_congr same]
  · rw [attempt_eq, outcome_congr (buildJob_label hs hl (.int n) _), outcome_bind] at missing
    cases written : (document l).outcome (.within c s.depth) s with
    | ok t =>
      rw [written] at missing
      dsimp only at missing
      rw [outcome_buildJob_text] at missing
      exact Job.ofDocument_ne_missing _ _ (document_ne_nil written) n missing
    | error fault =>
      rw [written] at missing
      cases missing
      exact (spells_document l).offline _ s hs _ written _ rfl

/-- Copies that are made apart, and two copies of a label with nothing on it. -/
theorem buildJob_lawful_small :
    let s : Store := { things := [.label { dpi := 203, labelWidth := 812, labelHeight := 406 }] }
    let job (v : Value) (n : Int) := ((buildJob v (.int n)).attempt {} s).1
    (job "é" 3 = do return (← job "é" 1) ++ (← job "é" 2)) ∧
      job (.object 0) 2 =
        .ok (Text.bytes "^XA\n^PW812\n^LL406\n^XZ\n^XA\n^PW812\n^LL406\n^XZ\n") := by
  intro s job
  have genuine : s.IsGenuine := fun _ _ _ => rfl
  have lawful := buildJob_lawful genuine {}
  have fits : Job.Fits ({} : Circumstances).capacity (1 + 2) := ⟨by decide, by decide⟩
  refine ⟨(lawful.1 "é").add (m := 1) (n := 2) (by decide) (by decide) fits, ?_⟩
  exact (congrArg Prod.fst (lawful.2 0 _ rfl 2).1).trans rfl

/-- More copies than can be counted make no job, and less than one are not refused as such if their
number has too many digits to be told. -/
theorem buildJob_uncounted :
    let job (n : Int) := ((buildJob "a" (.int n)).attempt {} {}).1
    (("a" : Text) ≠ [] ∧ Text.HasEncoding "a" ∧ (1 : Int) ≤ 10 ^ 20 ∧
        job (10 ^ 20) = .error .countTooLarge) ∧
      (-10 ^ 4300 : Int) < 1 ∧ job (-10 ^ 4300) = .error .unwritable := by
  intro job
  have some : ("a" : Text) ≠ [] := by decide
  have few : (-10 ^ 4300 : Int) < 1 := by decide +kernel
  have long : Decimal.isWritable (-10 ^ 4300) = false := by decide +kernel
  refine ⟨⟨some, by decide, by decide, rfl⟩, few, ?_⟩
  simp only [job, attempt_eq, outcome_buildJob_text]
  rw [Job.ofDocument_int _ _ some, if_pos few, Decimal.write_of_not_isWritable long]
  rfl

end Action

end Zpl
