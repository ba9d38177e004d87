import Zpl.Proofs.CommandLine.Sinks
import Zpl.Proofs.Print.DryRun

/-!
# What an exit status says

A run that makes a label ends with exit status two exactly if the label has no room to print, and
such a run leaves nothing behind. Otherwise the text of the label is in the file that was asked for,
whatever came of sending it. If the label was to be sent, status zero says that all of the job was
handed over, and status one that standard error tells why not, and that nothing was handed over but
a beginning of the job.

In a dry run the job is handed to a list instead of a link. The list belongs to the printer, and
nobody outlives the run to look at it, so what is in it is said of the store that sending leaves.

## Main definitions

* `LabelRequest.MakesJob` — the bytes that are to be sent.
* `Program.Handed` — all of a job has been handed over in a store.
* `Program.IsTruthful` — what an exit status says about a run.

## Main results

* `Program.exit_truthful` — every run that makes a label and ends with a status is truthful.
-/

namespace Zpl

open Zpl.Action CommandLine

namespace CommandLine

/-- The job of a line: its encoding, as many times over as there are to be copies. -/
def LabelRequest.MakesJob (q : LabelRequest) (line : Text) (job : List UInt8) : Prop :=
  ∃ (n : Int) (once : List UInt8), q.copies = .int n ∧ 1 ≤ n ∧ Utf8.encode line = .ok once ∧
    job = (List.replicate n.toNat once).flatten

/-- Bytes are a beginning of some job. None at all are so even if there is no job. -/
def Begins (IsJob : List UInt8 → Prop) (bytes : List UInt8) : Prop :=
  bytes = [] ∨ ∃ job, IsJob job ∧ bytes <+: job

/-- What a printer is asked for is the job of the line that a document comes to. -/
theorem LabelRequest.makesJob_of_job {q : LabelRequest} (copies : Reading.integer.Gives q.copies)
    {document : Text} {backend : Value} {around : Surroundings} {s : Store} {job : List UInt8}
    (h : ((PrinterCall.printLabel (.text document) q.copies).job backend).outcome around s =
      .ok job) : q.MakesJob (document ++ "\n") job := by
  rw [PrinterCall.job, outcome_buildJobFor_eq_ok_iff, outcome_buildJob_text] at h
  obtain ⟨t, n, ht, hn, proper, -, rfl⟩ := Job.ofDocument_eq_ok_iff.1 h
  cases ht
  have encodes : (document ++ "\n" : Text).HasEncoding :=
    Text.hasEncoding_append.2 ⟨proper.encoding, Text.hasEncoding_ofString _⟩
  have positive : 1 ≤ n := by
    have := proper.copies
    dsimp only at this
    omega
  refine ⟨n, _, ?_, positive, Text.encode_eq_ok encodes, ?_⟩
  · generalize q.copies = v at copies hn
    cases copies with
    | integer writable =>
      cases hn
      rfl
    | separator => cases hn
  · rw [Sending.job, Sending.text, Text.bytes_repeated]

end CommandLine

/-! ### Dry runs -/

namespace Settings

variable {settings : Value} {s : Store}

/-- There is no way to a printer only if a dry run is asked for. -/
theorem interfaceOf_of_way? (typed : IsTyped settings) (h : way? settings = .ok none) :
    interfaceOf settings = "dry_run" := by
  obtain ⟨name, hname, hinterface⟩ := typed.interfaceOf
  have elsewhere {e : Except Fault Backend} : some <$> e ≠ .ok none := by
    cases e <;> nofun
  rw [way?, hinterface] at h
  simp only [interfaces, List.mem_cons, List.not_mem_nil, or_false] at hname
  rcases hname with rfl | rfl | rfl | rfl
  · exact absurd h elsewhere
  · exact absurd h elsewhere
  · exact absurd h elsewhere
  · exact hinterface

end Settings

namespace Store

/-- A dry run that has just been made, with its list and its printer. -/
theorem isDryRun_extended {s : Store} (hs : s.attached = []) :
    ((s.extended [.content (.list []), .backend (.dryRun (.object s.things.length))]).extended
      [.printer (.object (s.things.length + 1))]).IsDryRun (s.things.length + 2)
        (s.things.length + 1) s.things.length [] := by
  constructor
  case genuine =>
    intro _ _ _
    simp [extended, hs]
  case free =>
    intro _
    simp [extended, hs]
  all_goals simp [thing?, extended]

end Store

namespace Program

variable {settings : Value} {s : Store} {c : Circumstances} {fuel : Nat}

/-- A call is made on a new printer, which has recorded nothing, if there is no way to a real
one. -/
theorem calling_dryRun (typed : Settings.IsTyped settings) (hs : s.attached = [])
    (hway : Settings.way? settings = .ok none) (call : PrinterCall) (c : Circumstances)
    (fuel : Nat) :
    ∃ printer r p t, t.IsDryRun printer r p [] ∧ t.events = s.events ∧
      calling settings call (.within c (fuel + 1)) s =
        call.run printer (.within c (fuel + 1)) t := by
  obtain ⟨q, new, hmade, hsettings⟩ := made_settings hs typed (.within c (fuel + 1))
  have backend := Settings.makeBackend_eq hsettings typed c fuel
  rw [hway, Settings.backendIn] at backend
  have printer : makePrinter (.object q) (.within c (fuel + 1)) (s.extended new) = _ :=
    bind_eq backend (add_eq ..)
  have ready := Store.isDryRun_extended (s := s.extended new) hs
  refine ⟨_, _, _, _, ready, rfl, bind_eq hmade (bind_eq printer ?_)⟩
  rw [Store.length_extended]
  rfl

/-- A call that comes back leaves its store, and nothing is told. -/
theorem after_withPrinter {call : PrinterCall} {around : Surroundings}
    (h : (calling settings call).outcome around s = .ok ()) :
    (withPrinter settings fun printer => call.run printer).after around s =
      (calling settings call).after around s := by
  rw [Action.outcome] at h
  rw [Action.after, withPrinter_apply, Action.after]
  cases hcall : calling settings call around s with
  | ok _ t => rfl
  | error fault t =>
    rw [hcall] at h
    cases h

/-! ### Sending -/

/-- What is told of a fault is a last line, and there is a status for that. -/
theorem exists_of_told {fault : Fault} {status : Nat} {last : Text}
    (h : told fault = .ok (status, last)) :
    status = 1 ∧ ∃ reason, last = "Print failed: " ++ reason ++ "\n" := by
  cases fault with
  | print p =>
    obtain ⟨reason, -, h⟩ := exists_of_bind_eq_ok h
    cases h
    exact ⟨rfl, reason, rfl⟩
  | _ => cases h

/-- All of a job has been handed over in a store: to links, or to the list of a dry run. -/
inductive Handed (settings : Value) (job : List UInt8) (t : Store) : Prop where
  | link {b : Backend} (way : Settings.way? settings = .ok (some b))
      (handed : LinkEvent.payloads (Event.links t.events) = job) : Handed settings job t
  | record {printer r p : Ref} (dry : Settings.interfaceOf settings = "dry_run")
      (idle : Event.links t.events = []) (recorded : t.IsDryRun printer r p [job]) :
    Handed settings job t

/-- What a status and a last line say about a line that was to be sent, and what the store shows
that is left. -/
inductive SentEnds (settings : Value) (q : LabelRequest) (line : Text) (t : Store) :
    (status : Nat) → (last : Text) → Prop where
  | handed {job : List UInt8} (makes : q.MakesJob line job) (handed : Handed settings job t) :
    SentEnds settings q line t 0 []
  | told (reason : Text)
      (begins : Begins (q.MakesJob line) (LinkEvent.payloads (Event.links t.events))) :
    SentEnds settings q line t 1 ("Print failed: " ++ reason ++ "\n")

/-- A call that comes back has handed over its job, and one that fails no more than a beginning of
it. -/
theorem calling_hands (typed : Settings.IsTyped settings) (hs : s.attached = [])
    (hlinks : Event.links s.events = []) {call : PrinterCall} {IsJob : List UInt8 → Prop}
    (hjobs : ∀ r around u job, (call.job (.object r)).outcome around u = .ok job → IsJob job)
    (c : Circumstances) (fuel : Nat) :
    match (calling settings call).outcome (.within c (fuel + 1)) s with
    | .ok () => ∃ job, IsJob job ∧
        Handed settings job ((calling settings call).after (.within c (fuel + 1)) s)
    | .error _ => Begins IsJob (LinkEvent.payloads
        (Event.links ((calling settings call).after (.within c (fuel + 1)) s).events)) := by
  have spec := calling_spec typed hs call c fuel
  cases hway : Settings.way? settings with
  | error fault =>
    rw [hway] at spec
    rw [spec.1, spec.2, hlinks]
    exact .inl rfl
  | ok way =>
    cases way with
    | some b =>
      rw [hway] at spec
      obtain ⟨printer, r, b', t, ready, takes, events, heq⟩ := spec
      have session := session_of_run (Surroundings.circumstances_within c (fuel + 1)) ready takes
        call (events ▸ hlinks) b rfl
      rw [outcome_congr heq, after_congr heq]
      cases hrun : (call.run printer).outcome (.within c (fuel + 1)) t with
      | ok _ =>
        rw [hrun] at session
        obtain ⟨job, hjob, complete⟩ := session.resolve_left nofun
        exact ⟨job, hjobs _ _ _ job hjob, .link hway complete.payloads_eq⟩
      | error fault =>
        rcases session with ⟨idle, -⟩ | ⟨job, hjob, broken⟩
        · exact .inl (by rw [idle]; rfl)
        · exact .inr ⟨job, hjobs _ _ _ job hjob, broken.payloads_prefix⟩
    | none =>
      obtain ⟨printer, r, p, t, ready, events, heq⟩ := calling_dryRun typed hs hway call c fuel
      obtain ⟨run, idle⟩ := call.run_isDryRun ready (.within c (fuel + 1))
      rw [events, hlinks] at idle
      rw [outcome_congr heq, after_congr heq]
      cases hjob : (call.job (.object r)).outcome (.within c (fuel + 1)) t with
      | ok job =>
        rw [hjob] at run
        rw [run.1]
        exact ⟨job, hjobs _ _ _ job hjob,
          .record (Settings.interfaceOf_of_way? typed hway) idle run.2⟩
      | error fault =>
        rw [hjob] at run
        rw [run.1]
        exact .inl (by rw [idle]; rfl)

/-- The status of a line that was to be sent. -/
theorem sentEnds_of_send (typed : Settings.IsTyped settings) {q : LabelRequest}
    (copies : Reading.integer.Gives q.copies) (sent : q.sent = true) (hs : s.attached = [])
    (hlinks : Event.links s.events = []) {document : Text} {status : Nat} {last : Text} {t : Store}
    (h : (send settings q document).attempt c s = (.ok (status, last), t)) :
    SentEnds settings q (document ++ "\n") t status last := by
  obtain ⟨fuel, hfuel⟩ := s.depth_eq
  generalize hcall : PrinterCall.printLabel (.text document) q.copies = call
  have jobs (r : Ref) (around : Surroundings) (u : Store) (job : List UInt8)
      (hjob : (call.job (.object r)).outcome around u = .ok job) :
      q.MakesJob (document ++ "\n") job :=
    LabelRequest.makesJob_of_job copies (hcall ▸ hjob)
  have sends : send settings q document =
      withPrinter settings fun printer => call.run printer := by
    rw [send, sent, if_pos rfl, ← hcall]
    rfl
  have hands := calling_hands typed hs hlinks jobs c (fuel + 1)
  rw [← hfuel] at hands
  rw [sends, attempt_eq] at h
  obtain ⟨result, rfl⟩ := Prod.mk.inj h
  rw [outcome_withPrinter] at result
  cases hcalling : (calling settings call).outcome (.within c s.depth) s with
  | ok _ =>
    rw [hcalling] at result hands
    cases result
    rw [after_withPrinter hcalling]
    obtain ⟨job, makes, handed⟩ := hands
    exact .handed makes handed
  | error fault =>
    rw [hcalling] at result hands
    obtain ⟨rfl, reason, rfl⟩ := exists_of_told result
    exact .told reason (by rwa [links_withPrinter])

/-! ### Runs -/

/-- A run that ends with a status has left its line where it is to be before it sends anything. -/
theorem deliver_of_exit {i : Invocation} {q : LabelRequest} {document : Text} {status : Nat}
    (exits : (outcome i (deliver c settings q document s)).ending = .exit status) :
    ∃ written new, leftOf c q (document ++ "\n") = .ok written ∧ Event.links new = [] ∧
      deliver c settings q document s =
        report c written (send settings q document) { s with events := s.events ++ new } := by
  cases output : q.output? with
  | none =>
    have left : leftOf c q (document ++ "\n") =
        .ok { stdout := if q.sent then [] else document ++ "\n" } := by
      rw [leftOf, output]
    obtain ⟨new, silent, hdeliver⟩ := deliver_eq (by simp [output]) left settings s
    exact ⟨_, new, left, silent, hdeliver⟩
  | some name =>
    cases opens : c.destination (File.normalized name) with
    | error fault =>
      simp only [deliver, output, save, opens] at exits
      cases exits
    | ok place =>
      cases encodes : Utf8.encode document with
      | error fault =>
        simp only [deliver, output, save, opens, encodes] at exits
        cases exits
      | ok bytes =>
        have left := leftOf_saved output opens (document ++ "\n")
        obtain ⟨new, silent, hdeliver⟩ :=
          deliver_eq (fun _ => Text.hasEncoding_of_encode encodes) left settings s
        exact ⟨_, new, left, silent, hdeliver⟩

/-- What an exit status says about a run that makes a label, which has the text `document` if there
is room to print it on the canvas. -/
structure IsTruthful (width height : Int) (document : Text) (c : Circumstances) (i : Invocation)
    (q : LabelRequest) (o : Outcome) (status : Nat) : Prop where
  noRoom : status = 2 ↔ ¬ (0 < width ∧ 0 < height)
  /-- Nothing is left behind of a label without room, whatever was asked for. -/
  idle (none : ¬ (0 < width ∧ 0 < height)) :
    o.stdout = [] ∧ o.files = [] ∧ o.filesElsewhere = [] ∧ o.links = []
  rendered (room : 0 < width ∧ 0 < height) : ((makeLabel q).attempt c {}).1 = .ok document
  /-- All of the text is in the file, whatever the status. -/
  saved (room : 0 < width ∧ 0 < height) {name : Text} (output : q.output? = some name) :
    ∃ place, c.destination (File.normalized name) = .ok place ∧
      o.files = (writtenTo (File.normalized name) (document ++ "\n") place).files ∧
      o.filesElsewhere =
        (writtenTo (File.normalized name) (document ++ "\n") place).filesElsewhere
  unsent (room : 0 < width ∧ 0 < height) (unsent : q.sent = false) : status = 0 ∧ o.links = []
  sent (room : 0 < width ∧ 0 < height) (sent : q.sent = true) :
    ∃ (s t : Store) (last : Text),
      (send i.settings q document).attempt c s = (.ok (status, last), t) ∧
      o.links = Event.links t.events ∧ (∃ log : Text, o.stderr = log ++ last) ∧
      SentEnds i.settings q (document ++ "\n") t status last

/-- What ends with a status has come back with it, and with a last line. -/
theorem exists_of_report_exit {i : Invocation} {written : Written}
    {operation : Action (Nat × Text)} {status : Nat}
    (exits : (outcome i (report c written operation s)).ending = .exit status) :
    ∃ t last, operation.attempt c s = (.ok (status, last), t) ∧
      report c written operation s =
        { written := written, result := .ok (status, last), events := t.events } := by
  unfold report at exits ⊢
  generalize operation.attempt c s = attempted at exits ⊢
  obtain ⟨result, t⟩ := attempted
  cases result with
  | ok told =>
    obtain ⟨status', last⟩ := told
    cases exits
    exact ⟨t, last, rfl, rfl⟩
  | error fault => cases exits

/-- A run that has left its line where it is to be, and then ends with a status, is truthful. -/
theorem truthful_of_report {i : Invocation} (typed : Settings.IsTyped i.settings)
    {q : LabelRequest} (copies : Reading.integer.Gives q.copies) {width height : Int}
    (room : 0 < width ∧ 0 < height) {document : Text}
    (rendered : ((makeLabel q).attempt c {}).1 = .ok document) {written : Written}
    (left : leftOf c q (document ++ "\n") = .ok written) (hs : s.attached = [])
    (hlinks : Event.links s.events = []) {status : Nat}
    (exits : (outcome i (report c written (send i.settings q document) s)).ending = .exit status) :
    IsTruthful width height document c i q
      (outcome i (report c written (send i.settings q document) s)) status := by
  obtain ⟨t, last, sends, heq⟩ := exists_of_report_exit exits
  rw [heq]
  have unsent (h : q.sent = false) : status = 0 ∧ Event.links t.events = [] := by
    rw [send, h] at sends
    cases sends
    exact ⟨rfl, hlinks⟩
  have sent (h : q.sent = true) : SentEnds i.settings q (document ++ "\n") t status last :=
    sentEnds_of_send typed copies h hs hlinks sends
  constructor
  case noRoom =>
    refine iff_of_false ?_ (not_not_intro room)
    cases h : q.sent with
    | false => simp [(unsent h).1]
    | true => cases sent h <;> decide
  case idle => exact fun none => absurd room none
  case rendered => exact fun _ => rendered
  case saved =>
    intro _ name output
    rw [leftOf, output] at left
    dsimp only at left
    cases opens : c.destination (File.normalized name) with
    | error fault => simp [opens, Except.map] at left
    | ok place =>
      rw [opens] at left
      cases left
      exact ⟨place, rfl, rfl, rfl⟩
  case unsent => exact fun _ h => unsent h
  case sent => exact fun _ h => ⟨s, t, last, sends, rfl, ⟨_, rfl⟩, sent h⟩

/-- A run that makes a label and ends with an exit status is truthful. -/
theorem exit_truthful {host : Option Text} {words : List Text} {i : Invocation}
    (h : Invocation.ofWords (hostOf host) words = .ok i) {q : LabelRequest}
    (label : i.task = .label q) {width height : Int} (canvas : q.HasCanvas width height) :
    ∃ iss, q.layout.Prints width height iss ∧ ∀ (c : Circumstances) (status : Nat),
      (run host c words).ending = .exit status →
        IsTruthful width height (documentOf q.framed width height iss) c i q (run host c words)
          status := by
  have typed := isTyped_settings (mayGive_hostOf host) h
  have copies := Invocation.gives_copies h label
  obtain ⟨iss, prints⟩ := (Invocation.isSpelled h label).prints width height
  refine ⟨iss, prints, fun c status exits => ?_⟩
  rw [run_of_ofWords h, label, perform] at exits ⊢
  by_cases room : 0 < width ∧ 0 < height
  · have made := (makeLabel_spec canvas room.1 room.2 prints
      (Surroundings.isStrict_within c (Store.depth {}))).1
    cases writable : (numbersOf q.framed width height iss).all Decimal.isWritable with
    | false =>
      simp only [Decimal.showing, writable] at made
      rw [outcome, printRequest_eq_error made] at exits
      cases exits
    | true =>
      simp only [Decimal.showing, writable] at made
      obtain ⟨s, hattached, hlinks, hrequest⟩ :=
        printRequest_eq canvas room.1 room.2 prints writable c i.settings
      rw [hrequest] at exits ⊢
      obtain ⟨written, new, left, silent, hdeliver⟩ := deliver_of_exit exits
      rw [hdeliver] at exits ⊢
      refine truthful_of_report (s := { s with events := s.events ++ new }) typed copies room ?_
        left hattached ?_ exits
      · rw [attempt_eq]
        exact made
      · rw [Event.links_append, hlinks, silent]
        rfl
  · obtain ⟨t, ht, idle⟩ := makeLabel_of_noRoom canvas room (.within c (Store.depth {}))
    have request : printRequest c i.settings q =
        { result := .ok (2, emptyLabelMessage ++ "\n"), events := t.events } := by
      rw [printRequest, attempt_eq, outcome_eq_ok ht, after_eq_ok ht]
    rw [request] at exits ⊢
    cases exits
    constructor
    case noRoom => exact iff_of_true rfl room
    case idle => exact fun _ => ⟨rfl, rfl, rfl, idle⟩
    all_goals exact fun some => absurd some room

/-- Two copies of a label go to a file in a directory that there is, and then to a printer that
resets the connection. -/
theorem exit_truthful_interrupted :
    let words : List Text := ["template1", "T", "S", "123", "--output", "labels/out.zpl",
      "--send", "--host", "h", "--copies", "2"]
    let c : Circumstances :=
      { sendFault := some (Incident.refusal "ConnectionResetError" "reset")
        destination := fun path => .ok (.file path) }
    let q : LabelRequest :=
      { layout := .twoLines false (.text "T") (.text "S") (.text "123")
        width := 2, height := 1, dpi := 203, output? := some "labels/out.zpl", framed := true
        sent := true, copies := 2 }
    ∃ iss, q.layout.Prints 406 203 iss ∧ (run none c words).ending = .exit 1 ∧
      (run none c words).files =
        [(("labels/out.zpl" : Text), documentOf true 406 203 iss ++ "\n")] ∧
      Begins (q.MakesJob (documentOf true 406 203 iss ++ "\n"))
        (LinkEvent.payloads (run none c words).links) := by
  intro words c q
  have ends : (run none c words).ending = .exit 1 := by
    have status : (match (run none c words).ending with
        | .exit n => n == 1
        | _ => false) = true := by
      decide +revert +kernel
    split at status
    · rename_i n hn
      rw [hn, beq_iff_eq.1 status]
    · cases status
  have accepted : Invocation.ofWords (hostOf none) words = .ok _ := rfl
  obtain ⟨iss, prints, truthful⟩ :=
    exit_truthful accepted (rfl : _ = Task.label q) (⟨_, fun _ => rfl⟩ : q.HasCanvas 406 203)
  have result := truthful c 1 ends
  have room : (0 : Int) < 406 ∧ (0 : Int) < 203 := by decide
  obtain ⟨place, opens, files, -⟩ := result.saved room rfl
  obtain ⟨s, t, last, -, links, -, told⟩ := result.sent room rfl
  refine ⟨iss, prints, ends, ?_, ?_⟩
  · cases opens
    exact files
  · rw [links]
    cases told with
    | told reason begins => exact begins

end Program

end Zpl
