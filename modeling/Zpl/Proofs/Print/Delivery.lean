import Zpl.Proofs.Print.Session

/-!
# Calls on a printer

Whatever calls are made on one printer, and however the links to it behave during each of them, what
is done to links is one session after the other: one for each call that got as far as to have a job
and a name for the printer, and nothing for the others. A call comes back without a fault only if
its session delivered the whole job.

Building a job and naming a printer may print objects, which changes instructions and nothing else.
So the printer and its backend are still there for the next call.

## Main definitions

* `Action.Records` — what holds of the outcome of an action and of what it does to links.
* `PrinterCall` — a call on a printer; its job is built first.
* `Report` — what is known of a call that was made, and when that is proper.
* `runCalls`, `reports` — calls made one after the other.

## Main results

* `Action.send_records` — a job that is sent is one session, if the printer has a name.
* `runCalls_sessions` — calls on a printer are sessions one after the other.
-/

namespace Zpl

/-! ### What actions do to links -/

namespace Action

variable {α β : Type} {around : Surroundings} {s : Store}
  {Q : Except Fault α → List LinkEvent → Prop}

/-- An action changes no object but instructions, and `Q` holds of its outcome and of what it does
to links. -/
def Records (x : Action α) (around : Surroundings) (s : Store)
    (Q : Except Fault α → List LinkEvent → Prop) : Prop :=
  s.Reprinted (fun _ => True) (x.after around s) ∧
    ∃ new, Event.links (x.after around s).events = Event.links s.events ++ new ∧
      Q (x.outcome around s) new

namespace Records

theorem mono {x : Action α} {P : Except Fault α → List LinkEvent → Prop}
    (h : x.Records around s P) (hPQ : ∀ e es, P e es → Q e es) : x.Records around s Q := by
  obtain ⟨hs, new, hnew, hP⟩ := h
  exact ⟨hs, new, hnew, hPQ _ _ hP⟩

/-- An action that generates instructions at most does nothing to links. -/
theorem silent {x : Action α} (hx : x.Regenerates) (hs : s.IsGenuine)
    (h : Q (x.outcome around s) []) : x.Records around s Q := by
  have hx := hx around s hs
  exact ⟨hx.toReprinted, [], by rw [hx.links, List.append_nil], h⟩

theorem issue {op : Issuing α} (h : op.Records Q) : (issue op).Records around s Q := by
  obtain ⟨new, h⟩ := h s.events
  simp only [Records, Action.issue, outcome, after]
  cases hop : op s.events with
  | ok a events =>
    rw [hop] at h
    exact ⟨⟨fun _ => .inl rfl, rfl, rfl⟩, Event.links new, by simp [h.1, Event.links_append], h.2⟩
  | error fault events =>
    rw [hop] at h
    exact ⟨⟨fun _ => .inl rfl, rfl, rfl⟩, Event.links new, by simp [h.1, Event.links_append], h.2⟩

/-- What comes second starts from some store with other instructions. -/
theorem bind {x : Action β} {f : β → Action α}
    (h : x.Records around s fun e es =>
      match e with
      | .ok b => ∀ t, s.Reprinted (fun _ => True) t →
          (f b).Records around t fun e fs => Q e (es ++ fs)
      | .error fault => Q (.error fault) es) : (x >>= f).Records around s Q := by
  obtain ⟨hs, new, hnew, h⟩ := h
  simp only [Records, outcome_bind, after_bind]
  cases hb : x.outcome around s with
  | ok b =>
    rw [hb] at h
    obtain ⟨ht, more, hmore, h⟩ := h _ hs
    exact ⟨hs.trans ht, new ++ more, by simp only [hmore, hnew, List.append_assoc], h⟩
  | error fault =>
    rw [hb] at h
    exact ⟨hs, new, hnew, h⟩

/-- What comes second starts from the store that generating instructions leaves. -/
theorem silent_bind {x : Action β} {f : β → Action α} (hx : x.Regenerates) (hs : s.IsGenuine)
    (h : match x.outcome around s with
      | .ok b => (f b).Records around (x.after around s) Q
      | .error fault => Q (.error fault) []) : (x >>= f).Records around s Q := by
  have hx := hx around s hs
  simp only [Records, outcome_bind, after_bind]
  cases hb : x.outcome around s with
  | ok b =>
    rw [hb] at h
    obtain ⟨ht, more, hmore, h⟩ := h
    exact ⟨hx.toReprinted.trans ht, more, by rw [hmore, hx.links], h⟩
  | error fault =>
    rw [hb] at h
    exact ⟨hx.toReprinted, [], by rw [hx.links, List.append_nil], h⟩

/-- A handler that turns faults into faults. -/
theorem rethrow {x : Action α} {handler : Fault → Fault}
    (h : x.Records around s fun e es => Q (e.mapError handler) es) :
    (tryCatch x fun fault => throw (handler fault)).Records around s Q := by
  obtain ⟨hs, new, hnew, h⟩ := h
  simp only [Records, outcome_tryCatch, after_tryCatch]
  cases hx : x.outcome around s with
  | ok a => exact ⟨hs, new, hnew, by rwa [hx] at h⟩
  | error fault => exact ⟨hs, new, hnew, by rwa [hx] at h⟩

end Records

/-! ### Naming a printer and building a job -/

/-- Naming a printer prints its settings. -/
theorem regenerates_describe (backend : Value) : (describe backend).Regenerates := by
  refine .dispatchOn _ _ (by decide) _ fun r _ => .bind ?_ fun _ => .pure _
  refine Regenerates.bind .get fun s => (Regenerates.demand _).bind fun b => .withScribe ?_
  intro sc hsc
  cases b with
  | base => exact .pure _
  | network host port _ =>
    exact (Value.regenerates_shown hsc host).bind fun _ =>
      (Value.regenerates_shown hsc port).bind fun _ => .pure _
  | serial device baudrate _ =>
    exact (Value.regenerates_shown hsc device).bind fun _ =>
      (Value.regenerates_shown hsc baudrate).bind fun _ => .pure _
  | usb vendor product _ => exact .lift _
  | dryRun _ => exact .pure _

theorem regenerates_documentOf (v : Value) : (documentOf v).Regenerates := by
  unfold documentOf
  split
  · refine .bind .get fun s => ?_
    split
    · exact .dispatch _ (by decide) _ ((regenerates_document _).bind fun _ => .pure _)
    · exact .pure _
  · exact .pure _

/-- Building a job prints a label. -/
theorem regenerates_buildJob (v copies : Value) : (buildJob v copies).Regenerates :=
  (regenerates_documentOf v).bind fun _ =>
    .bind .capacity fun _ => .bind .directory fun _ => .lift _

/-- Building a job for a printer prints its name if there is no job. -/
theorem regenerates_buildJobFor (backend v copies : Value) :
    (buildJobFor backend v copies).Regenerates := by
  refine .tryCatch (regenerates_buildJob v copies) fun fault => ?_
  split
  · exact (regenerates_describe backend).bind fun _ => .throw _
  · exact .throw _

/-! ### Sending -/

/-- A printer is named by a text. -/
theorem describe_ok {r : Ref} (hs : s.IsGenuine) {b : Backend} (hb : s.backend? r = some b)
    {name : Value} (h : (describe (.object r)).outcome around s = .ok name) :
    ∃ t, name = .text t := by
  simp only [describe, dispatchOn, outcome_dispatch hs (by decide : "describe" ∈ _), outcome_bind,
    outcome_get, after_get, hb] at h
  cases hd : (describeBackend r).outcome around s with
  | ok t =>
    simp only [hd, outcome_pure] at h
    exact ⟨t, (Except.ok.inj h).symm⟩
  | error fault => simp [hd] at h

/-- The pieces in which a job goes to a USB device leave nothing out. -/
theorem usbPieces_eq {r : Ref} (hs : s.IsGenuine) {vendor product wanted : Value}
    (hb : s.backend? r = some (.usb vendor product wanted)) (job : List UInt8) :
    usbPieces s r (.bytes job) = .ok ((Link.chunks 16384 job).map .bytes) := by
  have unattached := hs r Backend.chunkField (by decide)
  have reads : s.attribute? r Backend.chunkField = some (.ok (.int Backend.chunkSize)) := by
    have hthing : s.thing? r = some (.backend (.usb vendor product wanted)) := by
      unfold Store.backend? at hb
      split at hb <;> simp_all
    simp only [Store.attribute?, hthing, unattached]
    rfl
  simp only [usbPieces, reads, Option.getD_some]
  cases job with
  | nil => rw [Link.chunks_nil]; rfl
  | cons byte bytes => rfl

/-- What is handed to a backend is a session. -/
theorem deliverTo_records {r : Ref} (hs : s.IsGenuine) {b : Backend} (hb : s.backend? r = some b)
    (hway : b.opening?.isSome) (job : List UInt8) :
    (deliverTo r (.bytes job)).Records around s fun e es =>
      PrintSession b around.circumstances job e.isOk es := by
  refine .silent_bind .get hs (.silent_bind (.of_after fun _ _ => rfl) hs ?_)
  refine .silent_bind (.demand _) hs ?_
  rw [after_get, hb]
  cases b with
  | base => simp [Backend.opening?] at hway
  | network host port timeout => exact .issue (Link.overNetwork_session _ host port timeout job)
  | serial device baudrate timeout =>
    exact .issue (Link.overSerial_session _ device baudrate timeout job)
  | usb vendor product wanted =>
    have session := Link.overUsb_session around.circumstances vendor product wanted
      (Link.chunks 16384 job)
    rw [Link.flatten_chunks (by decide)] at session
    refine .bind (.issue ?_)
    rw [usbPieces_eq hs hb]
    refine session.mono fun e es hes => ?_
    rcases e with fault | lack?
    · exact hes
    intro t ht
    cases lack? with
    | none =>
      refine .silent (.pure ()) (ht.isGenuine hs) ?_
      rw [List.append_nil]
      exact hes
    | some lack =>
      -- What the device lacks is reported, whether or not the report can name the printer.
      have failing : ((describe (.object r) >>= fun name =>
          throw (Link.connectionFault lack.message name) : Action Unit).outcome around t).isOk =
            false := by
        rw [outcome_bind]
        cases (describe (.object r)).outcome around t <;> rfl
      refine .silent ((regenerates_describe _).bind fun _ => .throw _) (ht.isGenuine hs) ?_
      rw [failing, List.append_nil]
      exact hes
  | dryRun sent => simp [Backend.opening?] at hway

theorem deliver_records {r : Ref} (hs : s.IsGenuine) {b : Backend} (hb : s.backend? r = some b)
    (hway : b.opening?.isSome) (job : List UInt8) :
    (deliver (.object r) (.bytes job)).Records around s fun e es =>
      PrintSession b around.circumstances job e.isOk es := by
  have sends : (deliverTo r (.bytes job)).Records around s _ := deliverTo_records hs hb hway job
  simpa only [Records, deliver, outcome_dispatchUnitOn hs (by decide : "send" ∈ _) hb,
    after_dispatchUnitOn hs (by decide : "send" ∈ _) hb] using sends

/-- Noting the progress of a job needs no more than the name of the printer. -/
theorem outcome_noteSending (level : Level) (verb : Text) (job : List UInt8) (t : Text)
    (around : Surroundings) (s : Store) :
    (noteSending level verb job (.text t)).outcome around s = .ok () := rfl

theorem regenerates_noteSending (level : Level) (verb : Text) (job : List UInt8) (name : Value) :
    (noteSending level verb job name).Regenerates :=
  .logWorded ((regenerates_shown name).bind fun _ => .pure _) _ _

/-- A job that is sent is one session, if the printer has a name. -/
theorem send_records {r : Ref} (hs : s.IsGenuine) {b : Backend} (hb : s.backend? r = some b)
    (hway : b.opening?.isSome) (job : List UInt8) :
    (send (.object r) job).Records around s fun e es =>
      match (describe (.object r)).outcome around s with
      | .ok _ => PrintSession b around.circumstances job e.isOk es
      | .error fault => e = .error fault ∧ es = [] := by
  refine .silent_bind (regenerates_describe _) hs ?_
  cases hname : (describe (.object r)).outcome around s with
  | error fault => exact ⟨rfl, rfl⟩
  | ok name =>
    obtain ⟨name, rfl⟩ := describe_ok hs hb hname
    have ht := (regenerates_describe (.object r) around s hs).toReprinted
    have noting := regenerates_noteSending .debug "Sending" job (.text name)
    have hu := ht.trans (noting around _ (ht.isGenuine hs)).toReprinted
    refine .silent_bind noting (ht.isGenuine hs) ?_
    rw [outcome_noteSending]
    refine .bind (.rethrow ?_)
    refine (deliver_records (hu.isGenuine hs) ((hu.backend? r).trans hb) hway job).mono ?_
    intro e es hes
    cases e with
    | error fault => exact hes
    | ok _ =>
      intro v hv
      refine .silent (regenerates_noteSending _ _ _ _) ((hu.trans hv).isGenuine hs) ?_
      rw [outcome_noteSending, List.append_nil]
      exact hes

theorem regenerates_backendOfPrinter (printer : Ref) : (backendOfPrinter printer).Regenerates := by
  refine .bind .get fun s => ?_
  split
  · exact .pure _
  · exact .throw _

theorem after_backendOfPrinter (printer : Ref) (around : Surroundings) (s : Store) :
    (backendOfPrinter printer).after around s = s := by
  rw [backendOfPrinter, after_bind]
  simp only [outcome_get, after_get]
  split <;> rfl

theorem outcome_backendOfPrinter {printer : Ref} {backend : Value}
    (h : s.thing? printer = some (.printer backend)) :
    (backendOfPrinter printer).outcome around s = .ok backend := by
  rw [backendOfPrinter, outcome_bind]
  simp only [outcome_get, after_get, h]
  rfl

end Action

/-! ### Calls -/

/-- A call on a printer. -/
inductive PrinterCall where
  | printLabel (document copies : Value)
  | control (action : Value)
  deriving Repr

namespace PrinterCall

/-- What a call does. -/
def run (printer : Ref) : PrinterCall → Action Unit
  | .printLabel document copies => Action.printLabel printer document copies
  | .control action => Action.control printer action

/-- What a call does to have a job. -/
def job (backend : Value) : PrinterCall → Action (List UInt8)
  | .printLabel document copies => Action.buildJobFor backend document copies
  | .control action =>
    match ControlCommand.ofValue? action with
    | some command => liftM command.job
    | none => do
      if ← (← get).canName action then
        let quoted ← Action.quoted action
        let target ← Action.describe backend
        throw (.print {
          stage := .job
          message := .text ("unknown printer action " ++ quoted)
          target := target })
      else throw .wrongType

/-- A call builds its job, and sends it. -/
theorem run_eq (printer : Ref) (call : PrinterCall) :
    call.run printer = (do
      let backend ← Action.backendOfPrinter printer
      let job ← call.job backend
      Action.send backend job) := by
  cases call with
  | printLabel document copies => rfl
  | control action =>
    simp only [run, job, Action.control]
    congr 1
    funext backend
    cases ControlCommand.ofValue? action with
    | some command => rfl
    | none =>
      simp only [bind_assoc]
      congr 1
      funext t
      congr 1
      funext named
      cases named
      · rfl
      · simp only [if_true, bind_assoc]
        rfl

theorem regenerates_job (backend : Value) (call : PrinterCall) :
    (call.job backend).Regenerates := by
  cases call with
  | printLabel document copies => exact Action.regenerates_buildJobFor backend document copies
  | control action =>
    simp only [job]
    split
    · exact .lift _
    · refine .bind .get fun s => .bind (.lift _) fun named => ?_
      split
      · exact (Action.regenerates_quoted _).bind fun _ =>
          (Action.regenerates_describe _).bind fun _ => .throw _
      · exact .throw _

end PrinterCall

/-- A printer and its backend are in place, and the backend is a way to a device. -/
structure Store.IsReady (s : Store) (printer r : Ref) (b : Backend) : Prop where
  genuine : s.IsGenuine
  printer : s.thing? printer = some (.printer (.object r))
  backend : s.backend? r = some b
  way : b.opening?.isSome

/-- Whatever is printed, the printer and its backend stay in place. -/
theorem Store.IsReady.reprinted {s t : Store} {printer r : Ref} {b : Backend}
    (h : s.IsReady printer r b) {touched : Ref → Prop} (ht : s.Reprinted touched t) :
    t.IsReady printer r b where
  genuine := ht.isGenuine h.genuine
  printer := ht.thing?_of_ne_component h.printer (by simp)
  backend := (ht.backend? r).trans h.backend
  way := h.way

/-- A call that has a job and a printer with a name is one session. Any other call does nothing to
links, and fails. -/
theorem Store.IsReady.run_records {s : Store} {printer r : Ref} {b : Backend}
    (h : s.IsReady printer r b) (around : Surroundings) (call : PrinterCall) :
    (call.run printer).Records around s fun e es =>
      match (call.job (.object r)).outcome around s,
        (Action.describe (.object r)).outcome around ((call.job (.object r)).after around s) with
      | .ok job, .ok _ => PrintSession b around.circumstances job e.isOk es
      | .ok _, .error fault | .error fault, _ => e = .error fault ∧ es = [] := by
  rw [PrinterCall.run_eq]
  refine .silent_bind (Action.regenerates_backendOfPrinter _) h.genuine ?_
  rw [Action.outcome_backendOfPrinter h.printer, Action.after_backendOfPrinter]
  refine .silent_bind (PrinterCall.regenerates_job _ call) h.genuine ?_
  cases hjob : (call.job (.object r)).outcome around s with
  | error fault => simp
  | ok job =>
    have built := h.reprinted
      (PrinterCall.regenerates_job (.object r) call around s h.genuine).toReprinted
    refine (Action.send_records built.genuine built.backend built.way job).mono fun e es hes => ?_
    cases hname : (Action.describe (.object r)).outcome around
        ((call.job (.object r)).after around s) with
    | ok name => simpa [hname] using hes
    | error fault => simpa [hname] using hes

@[simp] theorem Surroundings.circumstances_within (c : Circumstances) (fuel : Nat) :
    (within c fuel).circumstances = c := by cases fuel <;> rfl

@[simp] theorem Surroundings.isStrict_within (c : Circumstances) (fuel : Nat) :
    (within c fuel).isStrict = false := by cases fuel <;> rfl

/-- What is known of a call that was made. -/
structure Report where
  /-- How the links behaved meanwhile. -/
  circumstances : Circumstances
  job : Except Fault (List UInt8)
  /-- The name of the printer, once there is a job. -/
  name : Except Fault Value
  result : Except Fault Unit
  events : List LinkEvent

namespace Report

/-- The report of a call that is made on a store. -/
def ofCall (printer r : Ref) (c : Circumstances) (call : PrinterCall) (s : Store) : Report :=
  let around := Surroundings.within c s.depth
  let building := call.job (.object r)
  { circumstances := c
    job := building.outcome around s
    name := (Action.describe (.object r)).outcome around (building.after around s)
    result := ((call.run printer).attempt c s).1
    events := (Event.links ((call.run printer).attempt c s).2.events).drop
      (Event.links s.events).length }

/-- Without a job, or without a name for the printer, nothing is done to links and the call fails.
Otherwise there is one session, and the call comes back without a fault only if all of the job was
delivered. -/
def IsProper (b : Backend) (report : Report) : Prop :=
  match report.job, report.name with
  | .ok job, .ok _ => PrintSession b report.circumstances job report.result.isOk report.events
  | .ok _, .error fault | .error fault, _ => report.result = .error fault ∧ report.events = []

end Report

/-- A call adds its own events to those before it, and its report is proper. -/
theorem PrinterCall.attempt_isProper {s : Store} {printer r : Ref} {b : Backend}
    (h : s.IsReady printer r b) (c : Circumstances) (call : PrinterCall) :
    s.Reprinted (fun _ => True) ((call.run printer).attempt c s).2 ∧
      Event.links ((call.run printer).attempt c s).2.events =
        Event.links s.events ++ (Report.ofCall printer r c call s).events ∧
      (Report.ofCall printer r c call s).IsProper b := by
  have records : (call.run printer).Records (.within c s.depth) s fun e es =>
      Report.IsProper b
        { Report.ofCall printer r c call s with result := e, events := es } := by
    refine (h.run_records _ call).mono fun e es hes => ?_
    rwa [Surroundings.circumstances_within] at hes
  obtain ⟨hs, new, hnew, hproper⟩ := records
  have events : (Report.ofCall printer r c call s).events = new := by
    simp only [Report.ofCall, Action.attempt_eq, hnew, List.drop_left]
  rw [Action.attempt_eq]
  refine ⟨hs, by rw [events, hnew], ?_⟩
  rw [← events] at hproper
  simpa only [Report.ofCall, Action.attempt_eq] using hproper

/-! ### Calls one after the other -/

/-- The store after some calls on a printer, and how links behave during each of them. -/
def runCalls (printer : Ref) : List (Circumstances × PrinterCall) → Store → Store
  | [], s => s
  | (c, call) :: rest, s => runCalls printer rest ((call.run printer).attempt c s).2

/-- The reports of some calls on a printer, in order. -/
def reports (printer r : Ref) : List (Circumstances × PrinterCall) → Store → List Report
  | [], _ => []
  | (c, call) :: rest, s =>
    .ofCall printer r c call s :: reports printer r rest ((call.run printer).attempt c s).2

/-- Whatever calls are made on a printer and however links fail meanwhile, what is done to links is
one session after the other, one for each call that has a job and a name for the printer. -/
theorem runCalls_sessions {s : Store} {printer r : Ref} {b : Backend} (h : s.IsReady printer r b)
    (calls : List (Circumstances × PrinterCall)) :
    Event.links (runCalls printer calls s).events =
        Event.links s.events ++ (reports printer r calls s).flatMap Report.events ∧
      ∀ report ∈ reports printer r calls s, report.IsProper b := by
  induction calls generalizing s with
  | nil => simp [runCalls, reports]
  | cons first rest ih =>
    obtain ⟨c, call⟩ := first
    obtain ⟨hreprinted, hevents, hproper⟩ := call.attempt_isProper h c
    obtain ⟨hrest, hall⟩ := ih (h.reprinted hreprinted)
    refine ⟨?_, List.forall_mem_cons.2 ⟨hproper, hall⟩⟩
    rw [runCalls, hrest, hevents, reports, List.flatMap_cons, List.append_assoc]

/-- On a network printer: a document is printed, the connection is refused once, and a command is
carried out. -/
theorem runCalls_sessions_network :
    let s : Store :=
      { things := [.backend (.network "printer.local" 9100 (.float Backend.defaultTimeout)),
          .printer (.object 0)] }
    let calls : List (Circumstances × PrinterCall) :=
      [({}, .printLabel "^XA^XZ" 1),
        ({ openFault := some (Incident.refusal "ConnectionRefusedError" "refused") },
          .printLabel "^XA^XZ" 2),
        ({}, .control "cancel")]
    s.IsReady 1 0 (.network "printer.local" 9100 (.float Backend.defaultTimeout)) ∧
      Event.links (runCalls 1 calls s).events = (reports 1 0 calls s).flatMap Report.events ∧
      ∀ report ∈ reports 1 0 calls s,
        report.IsProper (.network "printer.local" 9100 (.float Backend.defaultTimeout)) := by
  intro s calls
  have ready : s.IsReady 1 0 (.network "printer.local" 9100 (.float Backend.defaultTimeout)) :=
    ⟨fun _ _ _ => rfl, rfl, rfl, rfl⟩
  exact ⟨ready, runCalls_sessions ready calls⟩

end Zpl
