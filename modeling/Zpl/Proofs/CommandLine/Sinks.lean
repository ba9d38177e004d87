import Zpl.Proofs.CommandLine.Exit

/-!
# Where the text of a label goes

The text of a label with a line break after it goes to standard output, to a file, or to a printer
as often as there are copies. It is the same text wherever it goes. A label that is asked for
without its document leaves out the frame, and is otherwise the same as well.

Numbers with too many digits cannot be written, so a label that shows one goes nowhere. Nor do more
copies go to a printer than can be counted, or than there is memory for. Which files can be written
is up to the circumstances.

## Main definitions

* `LabelRequest.SameLabel` — requests for the same label, whatever becomes of it.
* `Program.Sinks` — a line that goes wherever a label is to go.

## Main results

* `Program.sinks_agree` — all runs that make the same label put the same text wherever it goes.
-/

namespace Zpl

open Zpl.Action CommandLine

namespace CommandLine

/-- Requests for the same label, with or without a frame, whatever becomes of it. -/
structure LabelRequest.SameLabel (q q' : LabelRequest) : Prop where
  layout : q'.layout = q.layout
  width : q'.width = q.width
  height : q'.height = q.height
  dpi : q'.dpi = q.dpi

theorem LabelRequest.SameLabel.hasCanvas {q q' : LabelRequest} (same : q.SameLabel q')
    {width height : Int} (h : q.HasCanvas width height) : q'.HasCanvas width height := by
  rw [LabelRequest.HasCanvas, same.width, same.height, same.dpi]
  exact h

/-- The whole numbers that a layout shows on a canvas, with or without a frame, have few enough
digits to be written. -/
def Layout.IsWritable (layout : Layout) (framed : Bool) (width height : Int) : Prop :=
  ∀ iss, layout.Prints width height iss →
    ∀ n ∈ numbersOf framed width height iss, Decimal.isWritable n = true

theorem Layout.hasEncoding_twoLines {t u d : Text} (centered : Bool) (ht : t.HasEncoding)
    (hu : u.HasEncoding) (hd : d.HasEncoding) :
    (Layout.twoLines centered (.text t) (.text u) (.text d)).HasEncoding := by
  have spelled {v w : Text} (hv : v.HasEncoding) (h : (Value.text v).Spells w) :
      w.HasEncoding := by
    cases h
    exact hv
  simp only [Layout.HasEncoding, Layout.texts, List.forall_mem_cons]
  exact ⟨fun _ => spelled ht, fun _ => spelled hu, fun _ => spelled hd, by simp⟩

/-- The line that a label comes to. -/
def lineOf (framed : Bool) (width height : Int) (iss : List (List Imprint)) : Text :=
  CommandLine.documentOf framed width height iss ++ "\n"

end CommandLine

/-- Whether a run ends with a fault that the program does not handle. -/
def Ending.isFailed : Ending → Bool
  | .failed _ => true
  | _ => false

namespace Program

/-- Where a line is left that is not sent: in the file that is asked for, or on standard output if
it goes nowhere else. -/
def leftOf (c : Circumstances) (q : LabelRequest) (line : Text) : Except Fault Written :=
  match q.output? with
  | some name =>
    (c.destination (File.normalized name)).map (writtenTo (File.normalized name) line)
  | none => .ok { stdout := if q.sent then [] else line }

/-- Settings describe a way to a printer, and nothing on that way fails. -/
structure Reaches (c : Circumstances) (settings : Value) (b : Backend) : Prop where
  way : Settings.way? settings = .ok (some b)
  faultless : c.faults = []
  present : ∀ lack, ¬ c.Lacks b lack

/-- A line goes wherever a label is to go. -/
structure Sinks (line : Text) (c : Circumstances) (i : Invocation) (q : LabelRequest)
    (o : Outcome) : Prop where
  /-- If nothing else is asked for, the line is all of standard output. -/
  shown (output : q.output? = none) (unsent : q.sent = false) :
    o.ending = .exit 0 ∧ o.stdout = line ∧ o.files = [] ∧ o.filesElsewhere = [] ∧ o.links = []
  /-- If a file is asked for that can be written, the line is all of the file. -/
  saved {name : Text} {place : File.Destination} (output : q.output? = some name)
    (opens : c.destination (File.normalized name) = .ok place) :
    o.stdout = [] ∧ o.files = (writtenTo (File.normalized name) line place).files ∧
      o.filesElsewhere = (writtenTo (File.normalized name) line place).filesElsewhere ∧
      (q.sent = false → o.ending = .exit 0 ∧ o.links = [])
  /-- If a printer is asked for that can be reached, the line is handed over as often as there are
  copies, as long as these fit. -/
  sent {n : Int} {b : Backend} (sent : q.sent = true)
    (opens : ∀ name, q.output? = some name →
      ∃ place, c.destination (File.normalized name) = .ok place)
    (copies : q.copies = .int n) (some : 1 ≤ n) (fits : Job.Fits c.capacity n)
    (reaches : Reaches c i.settings b) :
    o.ending = .exit 0 ∧ o.stdout = [] ∧
      LinkEvent.payloads o.links = (List.replicate n.toNat line.bytes).flatten

variable {c : Circumstances} {i : Invocation} {q : LabelRequest}

/-- A line is left where it is to be, before anything is sent. -/
theorem deliver_eq {document : Text} (whole : q.output?.isSome → document.HasEncoding)
    {written : Written}
    (left : leftOf c q (document ++ "\n") = .ok written) (settings : Value) (s : Store) :
    ∃ new, Event.links new = [] ∧ deliver c settings q document s =
      report c written (send settings q document) { s with events := s.events ++ new } := by
  cases output : q.output? with
  | some name =>
    rw [leftOf, output] at left
    dsimp only at left
    cases opens : c.destination (File.normalized name) with
    | error fault => simp [opens, Except.map] at left
    | ok place =>
      rw [opens] at left
      cases left
      refine ⟨[.log .info .commandLine ("Wrote " ++ File.normalized name)], rfl, ?_⟩
      have encodes := Text.encode_eq_ok (whole (by rw [output]; rfl))
      simp only [deliver, output, save, opens, encodes]
  | none =>
    rw [leftOf, output] at left
    cases left
    refine ⟨[], rfl, ?_⟩
    rw [List.append_nil, deliver, output]

theorem leftOf_shown (output : q.output? = none) (unsent : q.sent = false) (line : Text) :
    leftOf c q line = .ok { stdout := line } := by
  rw [leftOf, output, unsent]
  rfl

theorem leftOf_saved {name : Text} {place : File.Destination} (output : q.output? = some name)
    (opens : c.destination (File.normalized name) = .ok place) (line : Text) :
    leftOf c q line = .ok (writtenTo (File.normalized name) line place) := by
  rw [leftOf, output]
  dsimp only
  rw [opens]
  rfl

/-- Nothing is left on standard output of what is sent. -/
theorem leftOf_sent (sent : q.sent = true)
    (opens : ∀ name, q.output? = some name →
      ∃ place, c.destination (File.normalized name) = .ok place) (line : Text) :
    ∃ written, leftOf c q line = .ok written ∧ written.stdout = [] := by
  cases output : q.output? with
  | some name =>
    obtain ⟨place, hplace⟩ := opens name output
    exact ⟨_, leftOf_saved output hplace line, by cases place <;> rfl⟩
  | none =>
    refine ⟨{}, ?_, rfl⟩
    rw [leftOf, output, sent]
    rfl

/-- A document that is not empty is handed over as often as there are copies. -/
theorem send_delivers (typed : Settings.IsTyped i.settings) {b : Backend}
    (reaches : Reaches c i.settings b) (hsent : q.sent = true) {document : Text}
    (some : document ≠ []) (whole : document.HasEncoding) {n : Int} (copies : q.copies = .int n)
    (hpos : 1 ≤ n) (fits : Job.Fits c.capacity n) {s : Store} (hs : s.attached = [])
    (hlinks : Event.links s.events = []) (written : Written) :
    ∃ events, report c written (send i.settings q document) s =
        { written := written, result := .ok (0, []), events := events } ∧
      LinkEvent.payloads (Event.links events) =
        (List.replicate n.toNat (document ++ "\n" : Text).bytes).flatten := by
  have hjob (r : Ref) (around : Surroundings) (hc : around.circumstances = c) (t : Store) :
      ((PrinterCall.printLabel (.text document) (.int n)).job (.object r)).outcome around t =
        .ok (List.replicate n.toNat (document ++ "\n" : Text).bytes).flatten := by
    subst hc
    rw [PrinterCall.job, buildJobFor, outcome_tryCatch, outcome_buildJob_text,
      Job.ofDocument_text _ some hpos fits, Job.encoded_text whole (by omega)]
  obtain ⟨fuel, hfuel⟩ := s.depth_eq
  obtain ⟨result, session⟩ := withPrinter_delivers typed hs hlinks hjob reaches.way
    reaches.faultless reaches.present (fuel + 1)
  rw [← hfuel] at result session
  refine ⟨_, ?_, session.payloads_eq⟩
  rw [report, send, hsent, copies, if_pos rfl, attempt_eq]
  exact congrArg (Report.mk written · _) result

/-- The line of a label goes wherever it is to go. -/
theorem sinks_run {host : Option Text} {words : List Text}
    (h : Invocation.ofWords (hostOf host) words = .ok i) (label : i.task = .label q)
    {width height : Int} (canvas : q.HasCanvas width height) (hwidth : 0 < width)
    (hheight : 0 < height) {iss : List (List Imprint)} (prints : q.layout.Prints width height iss)
    (whole : q.layout.HasEncoding) (writable : q.layout.IsWritable q.framed width height)
    (c : Circumstances) : Sinks (lineOf q.framed width height iss) c i q (run host c words) := by
  have typed := isTyped_settings (mayGive_hostOf host) h
  have encodes := hasEncoding_documentOf (prints.hasEncoding whole) q.framed width height
  have some := documentOf_ne_nil prints q.framed
  obtain ⟨s, hattached, hlinks, hrequest⟩ := printRequest_eq canvas hwidth hheight prints
    (List.all_eq_true.2 (writable iss prints)) c i.settings
  -- Whatever is left before something is sent, no link has been used by then.
  have leaves {written : Written}
      (left : leftOf c q (lineOf q.framed width height iss) = .ok written) :
      ∃ t : Store, t.attached = [] ∧ Event.links t.events = [] ∧ run host c words =
        outcome i (report c written
          (send i.settings q (CommandLine.documentOf q.framed width height iss)) t) := by
    obtain ⟨new, hnew, hdeliver⟩ := deliver_eq (fun _ => encodes) left i.settings s
    refine ⟨{ s with events := s.events ++ new }, hattached, ?_, ?_⟩
    · rw [Event.links_append, hlinks, hnew]
      rfl
    · rw [run_of_ofWords h, label, perform, hrequest, hdeliver]
  constructor
  · intro output unsent
    obtain ⟨t, -, hlinks, hrun⟩ := leaves (leftOf_shown output unsent _)
    rw [hrun, report_unsent unsent]
    exact ⟨rfl, rfl, rfl, rfl, hlinks⟩
  · intro name place output opens
    obtain ⟨t, -, hlinks, hrun⟩ := leaves (leftOf_saved output opens _)
    rw [hrun]
    refine ⟨by cases place <;> rfl, rfl, rfl, fun unsent => ?_⟩
    rw [report_unsent unsent]
    exact ⟨rfl, hlinks⟩
  · intro n b sent opens copies hpos fits reaches
    obtain ⟨written, left, silent⟩ := leftOf_sent sent opens (lineOf q.framed width height iss)
    obtain ⟨t, hattached, hlinks, hrun⟩ := leaves left
    obtain ⟨events, hreport, payloads⟩ :=
      send_delivers typed reaches sent some encodes copies hpos fits hattached hlinks written
    rw [hrun, hreport]
    exact ⟨rfl, silent, payloads⟩

/-- Whatever else an accepted command line for a label asks for, the label comes to the same line,
with or without its frame, and that line goes wherever the label is to go. -/
theorem sinks_agree {host : Option Text} {words : List Text}
    (h : Invocation.ofWords (hostOf host) words = .ok i) (label : i.task = .label q)
    {width height : Int} (canvas : q.HasCanvas width height) (hwidth : 0 < width)
    (hheight : 0 < height) (whole : q.layout.HasEncoding) :
    ∃ line : Bool → Text,
      line true = "^XA\n^PW" ++ Text.ofInt width ++ "\n^LL" ++ Text.ofInt height ++ "\n" ++
        line false ++ "^XZ\n" ∧
      ∀ (host' : Option Text) (words' : List Text) (i' : Invocation) (q' : LabelRequest),
        Invocation.ofWords (hostOf host') words' = .ok i' → i'.task = .label q' →
        q.SameLabel q' → q'.layout.IsWritable q'.framed width height →
        ∀ c, Sinks (line q'.framed) c i' q' (run host' c words') := by
  obtain ⟨iss, prints⟩ := (Invocation.isSpelled h label).prints width height
  refine ⟨(lineOf · width height iss), documentOf_framed width height (bodyOf_ne_nil prints), ?_⟩
  intro host' words' i' q' h' label' same writable c
  exact sinks_run h' label' (same.hasCanvas canvas) hwidth hheight (same.layout ▸ prints)
    (same.layout ▸ whole) writable c

/-- A label of the usual size, with and without its document, to a file in a directory that there
is, and twice to a printer. -/
theorem sinks_agree_small :
    let words (more : List Text) : List Text := "template1" :: "T" :: "S" :: "123" :: more
    let c : Circumstances := { destination := fun path => .ok (.file path) }
    ∃ line : Bool → Text,
      line true = "^XA\n^PW" ++ Text.ofInt 406 ++ "\n^LL" ++ Text.ofInt 203 ++ "\n" ++
        line false ++ "^XZ\n" ∧
      (run none c (words [])).stdout = line true ∧
      (run none c (words ["--no-document"])).stdout = line false ∧
      (run none c (words ["--output", "labels/out.zpl"])).files =
        [(("labels/out.zpl" : Text), line true)] ∧
      LinkEvent.payloads (run none c (words ["--send", "--host", "h", "--copies", "2"])).links =
        (line true).bytes ++ (line true).bytes := by
  intro words c
  have encodes : (Layout.twoLines false (.text "T") (.text "S") (.text "123")).HasEncoding :=
    Layout.hasEncoding_twoLines false (by decide) (by decide) (by decide)
  have writable (framed : Bool) :
      (Layout.twoLines false (.text "T") (.text "S") (.text "123")).IsWritable framed 406 203 := by
    intro iss prints
    cases prints with
    | twoLines _ ht hu hd =>
      cases ht
      cases hu
      cases hd
      cases framed <;> decide
  have accepted : Invocation.ofWords (hostOf none) (words []) = .ok _ := rfl
  obtain ⟨line, frame, sinks⟩ := sinks_agree accepted rfl
    (⟨_, fun _ => rfl⟩ : LabelRequest.HasCanvas _ 406 203) (by decide) (by decide) encodes
  have shown := sinks none (words []) _ _ rfl rfl ⟨rfl, rfl, rfl, rfl⟩ (writable true) c
  have bare := sinks none (words ["--no-document"]) _ _ rfl rfl ⟨rfl, rfl, rfl, rfl⟩
    (writable false) c
  have saved := sinks none (words ["--output", "labels/out.zpl"]) _ _ rfl rfl
    ⟨rfl, rfl, rfl, rfl⟩ (writable true) c
  have sent := sinks none (words ["--send", "--host", "h", "--copies", "2"]) _ _ rfl rfl
    ⟨rfl, rfl, rfl, rfl⟩ (writable true) c
  obtain ⟨-, -, payloads⟩ := sent.sent (b := .network "h" 9100 (.float Backend.defaultTimeout)) rfl
    nofun rfl (by decide) ⟨by decide, by decide⟩ ⟨rfl, rfl, nofun⟩
  refine ⟨line, frame, (shown.shown rfl rfl).2.1, (bare.shown rfl rfl).2.1,
    (saved.saved rfl rfl).2.1, payloads.trans ?_⟩
  exact congrArg ((line true).bytes ++ ·) (List.append_nil _)

/-- More copies than can be counted are not printed, although nothing on the way fails, and a canvas
whose size has too many digits is not printed either. -/
theorem run_unprintable :
    let copies : List Text := ["template1", "T", "S", "123", "--send", "--host", "h", "--copies",
      "100000000000000000000"]
    let digits : List Text :=
      ["template1", "T", "S", "123", "--dpi", List.replicate 4300 (.scalar '9')]
    (∃ i q, Invocation.ofWords (hostOf none) copies = .ok i ∧ i.task = .label q ∧
        q.HasCanvas 406 203 ∧ q.sent = true ∧ q.copies = .int 100000000000000000000 ∧
        Reaches {} i.settings (.network "h" 9100 (.float Backend.defaultTimeout))) ∧
      (run none {} copies).ending.isFailed = true ∧
      (run none {} digits).ending.isFailed = true :=
  ⟨⟨_, _, rfl, rfl, ⟨_, fun _ => rfl⟩, rfl, rfl, ⟨rfl, rfl, nofun⟩⟩, by decide +kernel,
    by decide +kernel⟩

end Program

end Zpl
