import Zpl.Proofs.CommandLine.Printer
import Zpl.Proofs.Label.Register
import Zpl.Proofs.Print.Blame
import Zpl.Proofs.Text.Decoding
import Zpl.Store.Construction

/-!
# Dry runs

A backend that reaches no printer keeps a list of what it was sent. What callers read there is the
history of the printer: the job of each call that came back, in the order of the calls, and nothing
of the calls that failed. A label is recorded as it was when it was printed; what becomes of it
later changes nothing.

Jobs are encoded one by one, but read as one text. That never fails, because the bytes of a text end
where those of the next one begin.

## Main definitions

* `Sending` — a document that is sent some times over, with its text and its bytes.
* `PrinterDeed` — one call on a printer, and what it asks to be sent.
* `PrinterStep` — a call, or whatever else happens before the next one.
* `Store.IsDryRun` — a printer that has recorded some jobs.

## Main results

* `PrinterDeed.attempt_isDryRun` — one call.
* `PrinterStep.run_isDryRun` — a run, by induction.
* `PrinterStep.dryRun` — what is read from the record after a run.
-/

namespace Zpl

/-! ### What is sent -/

/-- A document that is sent some times over. -/
structure Sending where
  document : Text
  copies : Nat
  deriving DecidableEq, Repr

namespace Sending

/-- A command is sent once. -/
def ofCommand (command : ControlCommand) : Sending := { document := command.text, copies := 1 }

/-- The document over and over, with a line break after each copy. -/
def text (d : Sending) : Text := Text.repeated d.copies (d.document ++ "\n")

/-- The bytes in which it is sent. -/
def job (d : Sending) : List UInt8 := d.text.bytes

/-- There is a document, it has an encoding, and its copies can be counted. -/
structure IsProper (d : Sending) : Prop where
  document : d.document ≠ []
  encoding : d.document.HasEncoding
  copies : 1 ≤ d.copies
  countable : d.copies < Value.countBound

theorem isProper_ofCommand (command : ControlCommand) : (ofCommand command).IsProper := by
  cases command <;> constructor <;> decide

theorem IsProper.hasEncoding_text {d : Sending} (h : d.IsProper) : d.text.HasEncoding :=
  Text.hasEncoding_repeated (Text.hasEncoding_append.2 ⟨h.encoding, Text.hasEncoding_ofString _⟩) _

/-- The bytes in which something is sent are the encoding of its text. -/
theorem IsProper.encode_text {d : Sending} (h : d.IsProper) : Utf8.encode d.text = .ok d.job :=
  Text.encode_eq_ok h.hasEncoding_text

end Sending

theorem ControlCommand.job_eq (command : ControlCommand) :
    command.job = .ok (Sending.ofCommand command).job := by
  cases command <;> rfl

/-! ### Jobs of documents -/

/-- A text in which no surrogate is found has none. -/
theorem Text.hasEncoding_of_firstSurrogates {t : Text} {position : Nat}
    (h : Utf8.firstSurrogates position t = none) : t.HasEncoding := by
  induction t generalizing position with
  | nil => nofun
  | cons c t ih =>
    cases c with
    | scalar c => exact List.forall_mem_cons.2 ⟨rfl, ih h⟩
    | surrogate n => cases h

/-- A text that is encoded has no surrogate. -/
theorem Text.hasEncoding_of_encode {t : Text} {bytes : List UInt8}
    (h : Utf8.encode t = .ok bytes) : t.HasEncoding := by
  rw [Utf8.encode] at h
  split at h
  · cases h
  · rename_i none
    exact hasEncoding_of_firstSurrogates none

namespace Job

theorem tooFew_of_integer? {copies : Value} {n : Int} (h : copies.integer? = some n) :
    tooFew copies = .ok (decide (n < 1)) := by
  rw [← tooFew_int]
  cases copies with
  | int m => cases h; rfl
  | bool b => cases h; rfl
  | _ => cases h

theorem copyCount_of_integer? {capacity : Nat} {copies : Value} {n : Int}
    (h : copies.integer? = some n) : copyCount capacity copies = copyCount capacity (.int n) := by
  rw [copyCount, h]
  rfl

/-- The text of at least one copy is encoded if the document has an encoding. -/
theorem encoded_text_eq_ok_iff {document : Text} {n : Nat} (hn : n ≠ 0) {job : List UInt8} :
    encoded (text document n) = .ok job ↔ document.HasEncoding ∧
      job = Sending.job { document := document, copies := n } := by
  constructor
  · intro h
    have encodes : (text document n).HasEncoding := by
      rw [encoded] at h
      split at h
      · rename_i bytes hbytes
        exact Text.hasEncoding_of_encode hbytes
      · cases h
    obtain ⟨n, rfl⟩ := Nat.exists_eq_succ_of_ne_zero hn
    have document : document.HasEncoding := by
      rw [text_eq_repeated] at encodes
      refine fun c hc => encodes c (List.mem_flatten.2 ⟨document ++ "\n", ?_, ?_⟩)
      · exact List.mem_replicate.2 ⟨hn, rfl⟩
      · exact List.mem_append_left _ hc
    refine ⟨document, ?_⟩
    rw [encoded_text document hn] at h
    rw [Sending.job, Sending.text, Text.bytes_repeated]
    exact (Except.ok.inj h).symm
  · rintro ⟨encodes, rfl⟩
    rw [encoded_text encodes hn, Sending.job, Sending.text, Text.bytes_repeated]

/-- What there was before there was a job. -/
theorem exists_of_ofDocument {capacity : Nat} {d : Directory} {v copies : Value}
    {job : List UInt8} (h : ofDocument capacity d v copies = .ok job) :
    v.truth d = true ∧ tooFew copies = .ok false ∧
      ∃ count, copyCount capacity copies = .ok count ∧
        ∃ t, v = .text t ∧ encoded (text t count) = .ok job := by
  simp only [ofDocument] at h
  cases truth : v.truth d with
  | false =>
    rw [truth] at h
    cases h
  | true =>
    rw [truth] at h
    obtain ⟨few, hfew, h⟩ := exists_of_bind_eq_ok h
    cases few with
    | true =>
      obtain ⟨shown, -, h⟩ := exists_of_bind_eq_ok h
      cases h
    | false =>
      obtain ⟨count, hcount, h⟩ := exists_of_bind_eq_ok h
      refine ⟨rfl, hfew, count, hcount, ?_⟩
      cases v with
      | text t => exact ⟨t, rfl, h⟩
      | _ => cases h

/-- There is a job of a document exactly if it can be sent as often as there are copies, and there
is memory for them. -/
theorem ofDocument_eq_ok_iff {capacity : Nat} {d : Directory} {v copies : Value}
    {job : List UInt8} :
    ofDocument capacity d v copies = .ok job ↔ ∃ t n, v = .text t ∧ copies.integer? = some n ∧
      Sending.IsProper { document := t, copies := n.toNat } ∧ n ≤ capacity ∧
        job = Sending.job { document := t, copies := n.toNat } := by
  constructor
  · intro h
    obtain ⟨truth, few, count, counted, t, rfl, encodes⟩ := exists_of_ofDocument h
    cases hn : copies.integer? with
    | none =>
      rw [copyCount, hn] at counted
      cases counted
    | some n =>
      rw [tooFew_of_integer? hn] at few
      have positive : 1 ≤ n := by simpa using few
      rw [copyCount_of_integer? hn, copyCount_int capacity positive] at counted
      split_ifs at counted with countable room
      cases counted
      obtain ⟨encoding, rfl⟩ := (encoded_text_eq_ok_iff (by omega)).1 encodes
      have document : t ≠ [] := by simpa [Value.truth] using truth
      exact ⟨t, n, rfl, rfl, ⟨document, encoding, by dsimp only; omega, by dsimp only; omega⟩, room,
        rfl⟩
  · rintro ⟨t, n, rfl, hn, proper, room, rfl⟩
    have some := proper.copies
    have countable := proper.countable
    dsimp only at some countable
    have positive : 1 ≤ n := by omega
    have truth : (Value.text t).truth d = true := by simpa [Value.truth] using proper.document
    have few : tooFew copies = .ok false := by
      rw [tooFew_of_integer? hn, decide_eq_false (by omega)]
    have counted : copyCount capacity copies = .ok n.toNat := by
      rw [copyCount_of_integer? hn, copyCount_of_fits positive ⟨by omega, room⟩]
    have encodes : encoded (text t n.toNat) = .ok _ :=
      (encoded_text_eq_ok_iff (by omega)).2 ⟨proper.encoding, rfl⟩
    simp only [ofDocument, truth, few, counted, bind, Except.bind]
    exact encodes

end Job

/-! ### Calls on a printer -/

/-- What callers do with a printer. -/
inductive PrinterDeed where
  | printLabel (document copies : Value)
  | control (action : Value)
  /-- Has the printer carry out a command by the method for it. -/
  | command (command : ControlCommand)

namespace PrinterDeed

def name : PrinterDeed → String
  | printLabel .. => "print_label"
  | control _ => "control"
  | command .calibrate => "calibrate"
  | command .cancel => "cancel_all"
  | command .config => "print_configuration"

/-- What is handed over in the call. -/
def given : PrinterDeed → Call
  | printLabel document copies => { inRow := [document, copies] }
  | control action => { inRow := [action] }
  | command _ => {}

/-- What a deed comes down to. -/
def call : PrinterDeed → PrinterCall
  | printLabel document copies => .printLabel document copies
  | control action => .control action
  | command c => .control (.text c.name)

/-- The result of a deed, and the store that it leaves. -/
def attempt (printer : Ref) (c : Circumstances) (s : Store) (d : PrinterDeed) :
    Except Fault Value × Store :=
  (Action.call (.object printer) d.name d.given).attempt c s

end PrinterDeed

/-- The text of a document as it is now: a label is asked for it. -/
def Store.documentText? (c : Circumstances) (s : Store) : Value → Option Text
  | .text t => some t
  | .object l =>
    match s.label? l, ((Action.call (.object l) "to_zpl" {}).attempt c s).1 with
    | some _, .ok (.text t) => some t
    | _, _ => none
  | _ => none

/-- What a deed asks to be sent. Not all of it can be sent, and some deeds ask for nothing. -/
def PrinterDeed.asked? (around : Circumstances) (s : Store) : PrinterDeed → Option Sending
  | printLabel document copies => do
    let text ← s.documentText? around document
    let n ← copies.integer?
    return { document := text, copies := n.toNat }
  | control action => (ControlCommand.ofValue? action).map .ofCommand
  | command c => some (.ofCommand c)

/-- How many copies a deed asks to be made; a command is none. -/
def PrinterDeed.copies : PrinterDeed → Int
  | printLabel _ copies => copies.integer?.getD 0
  | _ => 0

/-- A printer whose backend records jobs in a list, which are the given ones so far. Nobody has put
anything in the place of a method. -/
structure Store.IsDryRun (s : Store) (printer r q : Ref) (jobs : List (List UInt8)) : Prop where
  genuine : s.IsGenuine
  free : ∀ d : PrinterDeed, s.attached.lookup (printer, d.name) = none
  printer : s.thing? printer = some (.printer (.object r))
  backend : s.thing? r = some (.backend (.dryRun (.object q)))
  record : s.thing? q = some (.content (.list (jobs.map .bytes)))

namespace Store.IsDryRun

variable {s t : Store} {printer r q : Ref} {jobs : List (List UInt8)}

/-- What prints objects leaves the record alone. -/
theorem reprinted (h : s.IsDryRun printer r q jobs) {touched : Ref → Prop}
    (ht : s.Reprinted touched t) : t.IsDryRun printer r q jobs where
  genuine := ht.isGenuine h.genuine
  free d := by rw [ht.attached, h.free d]
  printer := ht.thing?_of_ne_component h.printer (by simp)
  backend := ht.thing?_of_ne_component h.backend (by simp)
  record := ht.thing?_of_ne_component h.record (by simp)

/-- A job is recorded. -/
theorem put (h : s.IsDryRun printer r q jobs) (job : List UInt8) :
    (s.put q (.content (.list ((jobs ++ [job]).map .bytes)))).IsDryRun printer r q
      (jobs ++ [job]) where
  genuine := h.genuine
  free := h.free
  printer := by
    rw [thing?_put_of_ne ?_, h.printer]
    rintro rfl
    cases h.printer.symm.trans h.record
  backend := by
    rw [thing?_put_of_ne ?_, h.backend]
    rintro rfl
    cases h.backend.symm.trans h.record
  record := thing?_put_self (List.getElem?_eq_some_iff.1 h.record).1 _

theorem backend? (h : s.IsDryRun printer r q jobs) :
    s.backend? r = some (.dryRun (.object q)) := by
  rw [Store.backend?, h.backend]

theorem items? (h : s.IsDryRun printer r q jobs) : s.items? q = some (jobs.map .bytes) := by
  simp only [Store.items?, content?, h.record]

end Store.IsDryRun

namespace Action

variable {s : Store} {around : Surroundings} {printer r q : Ref} {jobs : List (List UInt8)}

/-- A new printer over a new dry run has recorded nothing. -/
theorem construct_isDryRun (hs : s.IsGenuine)
    (free : ∀ d : PrinterDeed, s.attached.lookup (s.next + 2, d.name) = none)
    (around : Surroundings) :
    ∃ t u, construct "DryRunBackend" false {} around s = .ok (.object (s.next + 1)) t ∧
      construct "ZplPrinter" false { inRow := [.object (s.next + 1)] } around t =
        .ok (.object (s.next + 2)) u ∧ u.IsDryRun (s.next + 2) (s.next + 1) s.next [] := by
  have added (new : List Thing) (x : Thing) :
      add x around (s.extended new) = .ok (s.next + new.length) (s.extended (new ++ [x])) := by
    rw [add_eq, Store.length_extended, Store.extended_extended, Store.next]
  have there (new : List Thing) (n : Nat) : (s.extended new).thing? (s.next + n) = new[n]? := by
    rw [Store.thing?, Store.extended, Store.next, List.getElem?_append_right (Nat.le_add_right _ _),
      Nat.add_sub_cancel_left]
  have first := added [] (.content (.list []))
  rw [Store.extended_nil] at first
  have second := added [.content (.list [])] (.backend (.dryRun (.object s.next)))
  have third := added [.content (.list []), .backend (.dryRun (.object s.next))]
    (.printer (.object (s.next + 1)))
  refine ⟨_, _, bind_eq rfl (bind_eq first (bind_eq rfl (bind_eq second rfl))),
    bind_eq rfl (bind_eq third rfl), ?_⟩
  exact ⟨hs, free, there _ 2, there _ 1, there _ 0⟩

/-- The progress of a job is noted. -/
theorem noteSending_eq_ok (level : Level) (verb : Text) (job : List UInt8) (name : Text)
    (around : Surroundings) (s : Store) :
    ∃ e, noteSending level verb job (.text name) around s =
        .ok () { s with events := s.events ++ [e] } ∧ Event.links [e] = [] := ⟨_, rfl, rfl⟩

/-- A job is sent by recording it, and no link is used for that. -/
theorem send_isDryRun (h : s.IsDryRun printer r q jobs) (job : List UInt8)
    (around : Surroundings) :
    ∃ t, send (.object r) job around s = .ok () t ∧ t.IsDryRun printer r q (jobs ++ [job]) ∧
      Event.links t.events = Event.links s.events := by
  have named : describe (.object r) around s = .ok (.text "dry-run") s := by
    refine (dispatchOn_eq h.genuine (by decide) h.backend? _ _).trans ?_
    refine bind_eq (a := ("dry-run" : Text)) ?_ rfl
    refine bind_eq (get_apply _ _) (bind_eq (a := .dryRun (.object q)) ?_ rfl)
    rw [h.backend?]
    rfl
  obtain ⟨e, before, silent⟩ := noteSending_eq_ok .debug "Sending" job "dry-run" around s
  have noted : Store.IsDryRun { s with events := s.events ++ [e] } printer r q jobs :=
    ⟨h.genuine, h.free, h.printer, h.backend, h.record⟩
  have recorded := noted.put job
  have links : Event.links (s.events ++ [e]) = Event.links s.events := by
    rw [Event.links_append, silent, List.append_nil]
  generalize hu : ({ s with events := s.events ++ [e] } : Store) = u at before noted recorded
  rw [show s.events ++ [e] = u.events by rw [← hu]] at links
  have delivered : deliver (.object r) (.bytes job) around u =
      .ok () (u.put q (.content (.list ((jobs ++ [job]).map .bytes)))) := by
    refine dispatchUnitOn_eq_ok noted.genuine (by decide) noted.backend? ?_
    refine bind_eq (get_apply _ _) (bind_eq (a := around.circumstances) rfl ?_)
    refine bind_eq (a := .dryRun (.object q)) (by rw [noted.backend?]; rfl) ?_
    refine bind_eq (a := u.directory) rfl ?_
    rw [Store.opened_of_items? noted.items?, List.map_append]
    rfl
  obtain ⟨e', after, silent'⟩ := noteSending_eq_ok .info "Sent" job "dry-run" around
    (u.put q (.content (.list ((jobs ++ [job]).map .bytes))))
  refine ⟨_, bind_eq named (bind_eq before (bind_eq (a := ()) ?_ after)), ?_, ?_⟩
  · rw [diagnosing, tryCatch_apply, delivered]
  · exact ⟨recorded.genuine, recorded.free, recorded.printer, recorded.backend, recorded.record⟩
  · dsimp only
    rw [Event.links_append, silent', List.append_nil]
    exact links

/-- A label that is asked for its document answers with the text. -/
theorem attempt_toZpl (hs : s.IsGenuine) {l : Ref} {lab : Label} (hl : s.label? l = some lab)
    (c : Circumstances) :
    ((call (.object l) "to_zpl" {}).attempt c s).1 =
      ((document l).outcome (.inside c s) s).map .text := by
  have free : s.IsFree l "to_zpl" (.label lab) := Store.isFree_label hl rfl (hs l _ (by decide))
  have offered : Label.methods.find? (·.name == "to_zpl") =
      some (.query "to_zpl" fun r => return .text (← document r)) := rfl
  have called := attempt_method free rfl offered
    (show Signature.bind _ {} = .ok [] from rfl) c
  rw [called]
  simp only [Method.query, outcome_bind]
  cases (document l).outcome (.inside c s) s <;> rfl

/-- The document that is printed is the one that callers would get. -/
theorem outcome_documentOf_eq_ok_iff (hs : s.IsGenuine) {c : Circumstances} {v : Value} {t : Text} :
    (documentOf v).outcome (.inside c s) s = .ok (.text t) ↔ s.documentText? c v = some t := by
  cases v with
  | object l =>
    cases hl : s.label? l with
    | none => simp [documentOf, Store.documentText?, outcome_bind, hl]
    | some lab =>
      simp only [documentOf, Store.documentText?, outcome_bind, outcome_get, after_get, hl,
        outcome_dispatch hs (by decide : "to_zpl" ∈ _), attempt_toZpl hs hl]
      cases (document l).outcome (.inside c s) s <;> simp [Except.map]
  | text u => simp [documentOf, Store.documentText?]
  | _ => simp [documentOf, Store.documentText?]

/-- That a printer names itself where there is no job does not make one. -/
theorem outcome_buildJobFor_eq_ok_iff {backend v copies : Value} {job : List UInt8} :
    (buildJobFor backend v copies).outcome around s = .ok job ↔
      (buildJob v copies).outcome around s = .ok job := by
  rw [buildJobFor, outcome_tryCatch]
  cases (buildJob v copies).outcome around s with
  | ok _ => rfl
  | error fault =>
    refine iff_of_false (fun h => ?_) (by simp)
    dsimp only at h
    split at h
    · obtain ⟨_, -, h⟩ := exists_of_outcome_bind h
      cases h
    · cases h

/-- A job is built of the document. -/
theorem outcome_buildJob_eq_ok_iff {v copies : Value} {job : List UInt8} :
    (buildJob v copies).outcome around s = .ok job ↔
      ∃ w, (documentOf v).outcome around s = .ok w ∧
        Job.ofDocument around.circumstances.capacity ((documentOf v).after around s).directory w
          copies = .ok job := by
  simp only [buildJob, outcome_bind, outcome_capacity, after_capacity, outcome_directory,
    after_directory, outcome_lift]
  cases (documentOf v).outcome around s <;> simp

end Action

/-- A call has its job recorded if it has one, and otherwise fails and leaves the record as it is.
No link is used either way. -/
theorem PrinterCall.run_isDryRun {s : Store} {printer r q : Ref} {jobs : List (List UInt8)}
    (h : s.IsDryRun printer r q jobs) (call : PrinterCall) (around : Surroundings) :
    (match (call.job (.object r)).outcome around s with
      | .ok job => (call.run printer).outcome around s = .ok () ∧
          ((call.run printer).after around s).IsDryRun printer r q (jobs ++ [job])
      | .error fault => (call.run printer).outcome around s = .error fault ∧
          ((call.run printer).after around s).IsDryRun printer r q jobs) ∧
      Event.links ((call.run printer).after around s).events = Event.links s.events := by
  have regenerates := call.regenerates_job (.object r) around s h.genuine
  have built := h.reprinted regenerates.toReprinted
  simp only [run_eq, Action.outcome_bind, Action.after_bind,
    Action.outcome_backendOfPrinter h.printer, Action.after_backendOfPrinter]
  cases (call.job (.object r)).outcome around s with
  | ok job =>
    obtain ⟨t, ht, recorded, links⟩ := Action.send_isDryRun built job around
    dsimp only
    rw [Action.outcome_eq_ok ht, Action.after_eq_ok ht]
    exact ⟨⟨rfl, recorded⟩, links.trans regenerates.links⟩
  | error fault => exact ⟨⟨rfl, built⟩, regenerates.links⟩

namespace PrinterDeed

variable {s : Store} {printer r q : Ref} {jobs : List (List UInt8)} {c : Circumstances}
  {d : PrinterDeed}

/-- A document has a job exactly if it can be sent. -/
theorem outcome_printLabel_eq_ok_iff (hs : s.IsGenuine) {backend v copies : Value}
    {job : List UInt8} :
    (Action.buildJobFor backend v copies).outcome (.inside c s) s = .ok job ↔
      ∃ sending, (printLabel v copies).asked? c s = some sending ∧ sending.IsProper ∧
        (printLabel v copies).copies ≤ c.capacity ∧ job = sending.job := by
  rw [Action.outcome_buildJobFor_eq_ok_iff, Action.outcome_buildJob_eq_ok_iff]
  constructor
  · rintro ⟨w, hw, hjob⟩
    obtain ⟨t, n, rfl, hn, proper, room, rfl⟩ := Job.ofDocument_eq_ok_iff.1 hjob
    have document := (Action.outcome_documentOf_eq_ok_iff hs).1 hw
    refine ⟨_, ?_, proper, ?_, rfl⟩
    · rw [asked?, document, hn]
      rfl
    · rw [PrinterDeed.copies, hn]
      exact room
  · rintro ⟨sending, asked, proper, room, rfl⟩
    simp only [asked?] at asked
    obtain ⟨t, document, asked⟩ := Option.bind_eq_some_iff.1 asked
    obtain ⟨n, hn, asked⟩ := Option.bind_eq_some_iff.1 asked
    cases asked
    rw [PrinterDeed.copies, hn] at room
    exact ⟨.text t, (Action.outcome_documentOf_eq_ok_iff hs).2 document,
      Job.ofDocument_eq_ok_iff.2 ⟨t, n, rfl, hn, proper, room, rfl⟩⟩

/-- A value has a job exactly if it names a command. -/
theorem outcome_control_eq_ok_iff {backend action : Value} {job : List UInt8} :
    ((PrinterCall.control action).job backend).outcome (.inside c s) s = .ok job ↔
      ∃ sending, (control action).asked? c s = some sending ∧ sending.IsProper ∧
        job = sending.job := by
  simp only [PrinterCall.job, asked?]
  cases ControlCommand.ofValue? action with
  | none =>
    simp only [Option.map_none, reduceCtorEq, false_and, exists_false, iff_false]
    intro h
    obtain ⟨_, -, h⟩ := Action.exists_of_outcome_bind h
    obtain ⟨named, -, h⟩ := Action.exists_of_outcome_bind h
    split at h
    · obtain ⟨_, -, h⟩ := Action.exists_of_outcome_bind h
      obtain ⟨_, -, h⟩ := Action.exists_of_outcome_bind h
      cases h
    · cases h
  | some command =>
    simp only [Action.outcome_lift, command.job_eq, Option.map_some, Except.ok.injEq,
      Option.some.injEq]
    constructor
    · rintro rfl
      exact ⟨_, rfl, Sending.isProper_ofCommand command, rfl⟩
    · rintro ⟨sending, rfl, -, rfl⟩
      rfl

/-- A deed has a job exactly if what it asks for can be sent. -/
theorem outcome_job_eq_ok_iff (hs : s.IsGenuine) {backend : Value} {job : List UInt8} :
    (d.call.job backend).outcome (.inside c s) s = .ok job ↔
      ∃ sending, d.asked? c s = some sending ∧ sending.IsProper ∧ d.copies ≤ c.capacity ∧
        job = sending.job := by
  have none : (0 : Int) ≤ c.capacity := Int.natCast_nonneg _
  cases d with
  | printLabel document copies => exact outcome_printLabel_eq_ok_iff hs
  | control action =>
    simp only [copies, none, true_and]
    exact outcome_control_eq_ok_iff
  | command command =>
    have asks : (PrinterDeed.command command).asked? c s =
        (control (.text command.name)).asked? c s := by
      cases command <;> rfl
    simp only [asks, copies, none, true_and]
    exact outcome_control_eq_ok_iff

/-- A deed whose method does what a call does answers with nothing after that. -/
theorem attempt_of_procedure (h : s.IsDryRun printer r q jobs) {signature : Signature}
    {run : Ref → List Value → Action Unit} {vs : List Value}
    (hm : Printer.methods.find? (·.name == d.name) = some (.procedure d.name signature run))
    (hbind : signature.bind d.given = .ok vs)
    (hrun : run printer vs (.inside c s) s = d.call.run printer (.inside c s) s) :
    d.attempt printer c s =
      (((d.call.run printer).outcome (.inside c s) s).map fun _ => .none,
        (d.call.run printer).after (.inside c s) s) := by
  have free : s.IsFree printer d.name (.printer (.object r)) := by
    refine ⟨h.printer, nofun, ?_, rfl, h.free d⟩
    cases d with
    | command command => cases command <;> rfl
    | _ => rfl
  have called := Action.attempt_method free rfl hm hbind c
  rw [attempt, called]
  simp only [Method.procedure, Action.outcome_bind, Action.after_bind, Action.outcome_congr hrun,
    Action.after_congr hrun]
  cases (d.call.run printer).outcome (.inside c s) s <;> rfl

/-- A deed does what the call does that it comes down to, and answers with nothing. -/
theorem attempt_eq (h : s.IsDryRun printer r q jobs) (c : Circumstances) (d : PrinterDeed) :
    d.attempt printer c s =
      (((d.call.run printer).outcome (.inside c s) s).map fun _ => .none,
        (d.call.run printer).after (.inside c s) s) := by
  cases d with
  | printLabel v copies =>
    exact attempt_of_procedure h rfl (show _ = Except.ok [v, copies] from rfl) rfl
  | control action =>
    exact attempt_of_procedure h rfl (show _ = Except.ok [action] from rfl) rfl
  | command command =>
    have offered : Printer.methods.find? (·.name == (PrinterDeed.command command).name) =
        some (Printer.commanding (PrinterDeed.command command).name command) := by
      cases command <;> rfl
    exact attempt_of_procedure h offered rfl
      (Action.dispatchUnit_of_unattached (h.genuine printer _ (by decide)) _ _ _)

/-- What comes of a deed: what it asks for is recorded if it can be sent, and otherwise the deed
fails and the record stays as it is. -/
theorem attempt_isDryRun (h : s.IsDryRun printer r q jobs) (c : Circumstances) (d : PrinterDeed) :
    (∃ sending, d.asked? c s = some sending ∧ sending.IsProper ∧ d.copies ≤ c.capacity ∧
      (d.attempt printer c s).1 = .ok .none ∧
        (d.attempt printer c s).2.IsDryRun printer r q (jobs ++ [sending.job])) ∨
    ((∀ sending, d.asked? c s = some sending → sending.IsProper → ¬ d.copies ≤ c.capacity) ∧
      (∃ fault, (d.attempt printer c s).1 = .error fault) ∧
        (d.attempt printer c s).2.IsDryRun printer r q jobs) := by
  have run := (d.call.run_isDryRun h (.inside c s)).1
  rw [attempt_eq h]
  cases hjob : (d.call.job (.object r)).outcome (.inside c s) s with
  | ok job =>
    obtain ⟨sending, asked, proper, room, rfl⟩ := (outcome_job_eq_ok_iff h.genuine).1 hjob
    rw [hjob] at run
    refine .inl ⟨sending, asked, proper, room, ?_, run.2⟩
    dsimp only
    rw [run.1]
    rfl
  | error fault =>
    rw [hjob] at run
    refine .inr ⟨fun sending asked proper room => ?_, ⟨fault, ?_⟩, run.2⟩
    · cases hjob.symm.trans
        ((outcome_job_eq_ok_iff h.genuine).2 ⟨sending, asked, proper, room, rfl⟩)
    · dsimp only
      rw [run.1]
      rfl

end PrinterDeed

/-! ### Reading the record -/

namespace Backend

/-- The bytes of some jobs in a row. -/
theorem joined_bytes (jobs : List (List UInt8)) :
    joined (jobs.map .bytes) = .ok jobs.flatten := by
  induction jobs with
  | nil => rfl
  | cons job jobs ih =>
    rw [List.map_cons, joined, ih]
    rfl

/-- The lengths of some jobs. -/
theorem lengths_bytes (d : Directory) (jobs : List (List UInt8)) :
    (jobs.map .bytes).mapM (Value.length d) = .ok (jobs.map List.length) := by
  induction jobs with
  | nil => rfl
  | cons job jobs ih =>
    have length : (Value.bytes job).length d = .ok job.length :=
      congrArg Except.ok (List.length_map _)
    rw [List.map_cons, List.mapM_cons, length, ih]
    rfl

end Backend

/-- What callers read from a dry run: the list of the jobs of some sendings, how many bytes they
have, and the texts in a row. Reading never fails. -/
structure Store.ShowsSent (s : Store) (c : Circumstances) (r q : Ref) (log : List Sending) :
    Prop where
  chunks : (Action.fetch (.object r) "sent_chunks").attempt c s = (.ok (.object q), s)
  jobs : s.items? q = some (log.map fun d => .bytes d.job)
  total : (Action.fetch (.object r) "total_bytes").attempt c s =
    (.ok (.int (log.flatMap Sending.job).length), s)
  text : (Action.fetch (.object r) "text").attempt c s =
    (.ok (.text (log.flatMap Sending.text)), s)

/-- The list in which a dry run keeps its jobs hands them out in order. -/
theorem Store.IsDryRun.elements {s : Store} {printer r q : Ref} {jobs : List (List UInt8)}
    (h : s.IsDryRun printer r q jobs) :
    (Value.object q).elements s.directory = .ok (jobs.map .bytes) := by
  simp only [Value.elements, directory, h.record]
  rfl

/-- How many bytes some jobs have. -/
theorem Store.IsDryRun.sentLength_eq {s : Store} {printer r q : Ref} {jobs : List (List UInt8)}
    (h : s.IsDryRun printer r q jobs) :
    Backend.sentLength s.directory (.object q) = .ok (.int jobs.flatten.length) := by
  have sum : (jobs.map List.length).foldl (· + ·) 0 = jobs.flatten.length := by
    rw [List.length_flatten, List.sum_eq_foldl]
  rw [Backend.sentLength, h.elements, ← sum]
  simp only [bind, Except.bind, Backend.lengths_bytes]
  rfl

/-- The text of some jobs, if they are the bytes of one. -/
theorem Store.IsDryRun.sentText_eq {s : Store} {printer r q : Ref} {jobs : List (List UInt8)}
    (h : s.IsDryRun printer r q jobs) {t : Text} (ht : t.HasEncoding)
    (hjobs : jobs.flatten = t.bytes) :
    Backend.sentText s.directory (.object q) = .ok (.text t) := by
  rw [Backend.sentText, h.elements]
  simp only [bind, Except.bind, Backend.joined_bytes, hjobs, Utf8.decode_bytes ht]
  rfl

/-- The bytes of some sendings in a row are those of their texts in a row. -/
theorem Sending.flatten_jobs (log : List Sending) :
    (log.map job).flatten = Text.bytes (log.flatMap text) := by
  rw [Text.bytes, List.flatMap_assoc]
  rfl

/-- A dry run shows what was sent, if all of it could be sent. -/
theorem Store.IsDryRun.shows {s : Store} {printer r q : Ref} {log : List Sending}
    (h : s.IsDryRun printer r q (log.map Sending.job)) (proper : ∀ d ∈ log, d.IsProper)
    (c : Circumstances) : s.ShowsSent c r q log := by
  have encodes : Text.HasEncoding (log.flatMap Sending.text) := by
    intro code hcode
    obtain ⟨d, hd, hcode⟩ := List.mem_flatMap.1 hcode
    exact (proper d hd).hasEncoding_text code hcode
  have shown {name : String} {v : Value}
      (hv : (Backend.fields s.directory (.dryRun (.object q))).lookup name = some (.ok v))
      (hmade : ∀ around, Action.made v around s = .ok v s) :
      (Action.fetch (.object r) name).attempt c s = (.ok v, s) := by
    refine Action.attempt_fetch h.backend nofun ?_ hmade c
    simp only [attribute?, h.backend, Thing.fields, hv]
  have fields : Backend.fields s.directory (.dryRun (.object q)) =
      [("sent_chunks", .ok (.object q)),
        ("total_bytes", .ok (.int (log.map Sending.job).flatten.length)),
        ("text", .ok (.text (log.flatMap Sending.text)))] := by
    rw [Backend.fields, Backend.shownFields, h.sentLength_eq,
      h.sentText_eq encodes (Sending.flatten_jobs log)]
    rfl
  constructor
  case chunks => exact shown (by rw [fields]; rfl) fun _ => rfl
  case jobs =>
    rw [h.items?, List.map_map]
    rfl
  case total => exact shown (by rw [fields]; rfl) fun _ => rfl
  case text => exact shown (by rw [fields]; rfl) fun _ => rfl

/-! ### Runs -/

/-- What callers do between two calls on a printer may turn `s` into `t`: they leave the printer,
its backend and the record as they are, and put nothing in the place of a method. -/
structure Store.Meanwhile (printer r q : Ref) (s t : Store) : Prop where
  genuine : s.IsGenuine → t.IsGenuine
  free : ∀ d : PrinterDeed,
    t.attached.lookup (printer, d.name) = s.attached.lookup (printer, d.name)
  things : ∀ o ∈ [printer, r, q], t.thing? o = s.thing? o

/-- Callers may change labels and what is on them between two calls on a printer. -/
theorem LabelDeed.meanwhile {s : Store} (hs : s.IsOrderly) {d : LabelDeed} (proper : d.IsProper s)
    (c : Circumstances) {printer r q : Ref} {jobs : List (List UInt8)}
    (h : s.IsDryRun printer r q jobs) : s.Meanwhile printer r q (d.attempt c s).2 := by
  obtain ⟨lab, hl⟩ := Option.isSome_iff_exists.1 proper.label
  have step := (restocked hs proper hl c).2
  generalize (d.attempt c s).2 = t at step
  have stays {o : Ref} {x : Thing} (hx : s.thing? o = some x) (component : ∀ c, x ≠ .component c)
      (label : ∀ lab, x ≠ .label lab) : t.thing? o = s.thing? o := by
    rw [step.others o x hx component ?_, hx]
    rintro rfl
    exact label lab (Option.some.inj (hx.symm.trans (Store.label?_eq_some_iff.1 hl)))
  constructor
  case genuine => exact fun hs => hs.congr step.attached
  case free => exact fun d => by rw [step.attached]
  case things =>
    intro o ho
    simp only [List.mem_cons, List.not_mem_nil, or_false] at ho
    rcases ho with rfl | rfl | rfl
    · exact stays h.printer (by simp) (by simp)
    · exact stays h.backend (by simp) (by simp)
    · exact stays h.record (by simp) (by simp)

/-- A part of a run: a call on the printer, or something else that leaves the store `t`. -/
inductive PrinterStep where
  | deed (c : Circumstances) (d : PrinterDeed)
  | meanwhile (t : Store)

namespace PrinterStep

variable {s : Store} {printer r q : Ref} {jobs : List (List UInt8)} {steps : List PrinterStep}

/-- The store after a run. -/
def leaves (printer : Ref) : Store → List PrinterStep → Store
  | s, [] => s
  | s, deed c d :: rest => leaves printer (d.attempt printer c s).2 rest
  | _, meanwhile t :: rest => leaves printer t rest

/-- What was asked for by the calls of a run that came back, in order. -/
def returned (printer : Ref) : Store → List PrinterStep → List (Option Sending)
  | _, [] => []
  | s, deed c d :: rest =>
    let later := returned printer (d.attempt printer c s).2 rest
    if (d.attempt printer c s).1.isOk then d.asked? c s :: later else later
  | _, meanwhile t :: rest => returned printer t rest

/-- Between the calls of a run, callers leave the printer and what belongs to it alone. -/
def IsRun (printer r q : Ref) : Store → List PrinterStep → Prop
  | _, [] => True
  | s, deed c d :: rest => IsRun printer r q (d.attempt printer c s).2 rest
  | s, meanwhile t :: rest => s.Meanwhile printer r q t ∧ IsRun printer r q t rest

/-- Whatever callers do meanwhile, the jobs stay in the record. -/
theorem isDryRun_meanwhile {t : Store} (h : s.IsDryRun printer r q jobs)
    (ht : s.Meanwhile printer r q t) : t.IsDryRun printer r q jobs where
  genuine := ht.genuine h.genuine
  free d := (ht.free d).trans (h.free d)
  printer := (ht.things printer (by simp)).trans h.printer
  backend := (ht.things r (by simp)).trans h.backend
  record := (ht.things q (by simp)).trans h.record

/-- After a run, the jobs of the calls that came back are in the record, behind those that were
there. -/
theorem run_isDryRun (h : s.IsDryRun printer r q jobs) (hrun : IsRun printer r q s steps) :
    ∃ log : List Sending, returned printer s steps = log.map some ∧ (∀ d ∈ log, d.IsProper) ∧
      (leaves printer s steps).IsDryRun printer r q (jobs ++ log.map Sending.job) := by
  induction steps generalizing s jobs with
  | nil => exact ⟨[], rfl, nofun, by simpa [leaves] using h⟩
  | cons step rest ih =>
    cases step with
    | meanwhile t => exact ih (isDryRun_meanwhile h hrun.1) hrun.2
    | deed c d =>
      rcases d.attempt_isDryRun h c with ⟨sending, asked, proper, -, came, recorded⟩ |
        ⟨-, ⟨fault, failed⟩, kept⟩
      · obtain ⟨log, hlog, all, there⟩ := ih recorded hrun
        refine ⟨sending :: log, ?_, List.forall_mem_cons.2 ⟨proper, all⟩, ?_⟩
        · simp only [returned, came, asked, hlog]
          rfl
        · rw [List.map_cons, List.append_cons]
          exact there
      · obtain ⟨log, hlog, all, there⟩ := ih kept hrun
        refine ⟨log, ?_, all, there⟩
        simp only [returned, failed, hlog]
        rfl

end PrinterStep

/-- Whether what a deed asks for can be sent: that makes sense, and there is memory for all of its
copies. -/
def PrinterDeed.CanBeSent (c : Circumstances) (s : Store) (d : PrinterDeed) : Prop :=
  ∃ sending, d.asked? c s = some sending ∧ sending.IsProper ∧ d.copies ≤ c.capacity

namespace PrinterStep

variable {s : Store} {printer r q : Ref} {steps : List PrinterStep}

/-- After every run of calls on a printer over a dry run, whatever else callers do in between, the
record has the jobs of exactly the calls that came back, in order. The number of bytes is that of
all of them, and the text is each document over and over with a line break after each copy. A call
comes back exactly if there is a document and it can be sent as often as it was asked to. -/
theorem dryRun (h : s.IsDryRun printer r q []) (hrun : IsRun printer r q s steps) :
    ∃ log : List Sending, returned printer s steps = log.map some ∧
      (∀ d ∈ log, d.IsProper ∧ Utf8.encode d.text = .ok d.job) ∧
      ∀ c, (leaves printer s steps).ShowsSent c r q log ∧
        ∀ d : PrinterDeed, let result := (d.attempt printer c (leaves printer s steps)).1
          result = .ok .none ∧ d.CanBeSent c (leaves printer s steps) ∨
            (∃ fault, result = .error fault) ∧ ¬ d.CanBeSent c (leaves printer s steps) := by
  obtain ⟨log, hlog, all, there⟩ := run_isDryRun h hrun
  refine ⟨log, hlog, fun d hd => ⟨all d hd, (all d hd).encode_text⟩, fun c => ?_⟩
  refine ⟨there.shows all c, fun d => ?_⟩
  rcases d.attempt_isDryRun there c with ⟨sending, asked, proper, room, came, -⟩ |
    ⟨none, failed, -⟩
  · exact .inl ⟨came, sending, asked, proper, room⟩
  · exact .inr ⟨failed, fun ⟨sending, asked, proper, room⟩ => none sending asked proper room⟩

/-- A label is printed, gets a component, and is printed again, twice at once. In between nothing is
printed once, at the end a command is named that there is not, and then one that there is. -/
theorem dryRun_label :
    let s : Store :=
      { things := [.content (.list []), .backend (.dryRun (.object 0)), .printer (.object 1),
          .label { dpi := 203, labelWidth := 812, labelHeight := 406 },
          .component { labelWidth := 1, instruction := .text "^FD1^FS", kind := .raw 0 }] }
    let s₁ := ((PrinterDeed.printLabel (.object 3) 1).attempt 2 {} s).2
    let t := ((LabelDeed.add 3 (.object 4)).attempt {} s₁).2
    let steps : List PrinterStep :=
      [.deed {} (.printLabel (.object 3) 1), .meanwhile t, .deed {} (.printLabel "" 1),
        .deed {} (.printLabel (.object 3) 2), .deed {} (.control "reset"),
        .deed {} (.command .cancel)]
    ((Action.fetch (.object 1) "text").attempt {} (leaves 2 s steps)).1 = .ok (.text
      (Text.ofString ("^XA\n^PW812\n^LL406\n^XZ\n" ++
        "^XA\n^PW812\n^LL406\n^FD1^FS\n^XZ\n^XA\n^PW812\n^LL406\n^FD1^FS\n^XZ\n~JA\n"))) := by
  intro s s₁ t steps
  have sent : returned 2 s steps = [some ⟨"^XA\n^PW812\n^LL406\n^XZ", 1⟩,
      some ⟨"^XA\n^PW812\n^LL406\n^FD1^FS\n^XZ", 2⟩, some ⟨"~JA", 1⟩] := by
    decide +revert +kernel
  have start : s.IsDryRun 2 1 0 [] := ⟨fun _ _ _ => rfl, fun _ => rfl, rfl, rfl, rfl⟩
  have printed : s₁.IsDryRun 2 1 0 [("^XA\n^PW812\n^LL406\n^XZ\n" : Text).bytes] :=
    ⟨fun _ _ _ => rfl, fun _ => rfl, rfl, rfl, rfl⟩
  have orderly : s₁.IsOrderly := by
    constructor
    case genuine => exact printed.genuine
    case unattached => exact fun _ _ _ => rfl
    case sized =>
      intro l lab hl
      match l, hl with
      | 3, hl =>
        obtain rfl := Option.some.inj hl
        exact ⟨_, _, rfl, rfl⟩
      | 4, hl => cases hl
    case listed =>
      intro l lab hl r hr
      match l, hl with
      | 3, hl =>
        obtain rfl := Option.some.inj hl
        cases hr
      | 4, hl => cases hl
  have proper : (LabelDeed.add 3 (.object 4)).IsProper s₁ := by
    refine ⟨rfl, fun v hv => ?_, nofun⟩
    obtain rfl := List.mem_singleton.1 hv
    exact .inr ⟨4, _, rfl, rfl⟩
  have apart : s₁.Meanwhile 2 1 0 t := LabelDeed.meanwhile orderly proper {} printed
  have run : IsRun 2 1 0 s steps := ⟨apart, trivial⟩
  obtain ⟨log, hlog, -, shows⟩ := dryRun start run
  obtain rfl : log = [⟨"^XA\n^PW812\n^LL406\n^XZ", 1⟩,
      ⟨"^XA\n^PW812\n^LL406\n^FD1^FS\n^XZ", 2⟩, ⟨"~JA", 1⟩] := by
    refine List.map_injective_iff.2 (Option.some_injective _) (hlog.symm.trans ?_)
    exact sent
  rw [(shows {}).1.text]
  rfl

end PrinterStep

end Zpl
