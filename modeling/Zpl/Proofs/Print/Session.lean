import Mathlib.Data.List.Infix
import Zpl.Proofs.Spelling

/-!
# Sessions

Whatever goes wrong on the way to a printer, what is done to a link has one of two forms: it is
asked for and refused, or it is opened, worked on and closed. The bytes that were handed over in
between are always a beginning of the job, and all of it if the session ends well.

The three kinds of links differ in what the work consists of, and in where it can fail. So each is
followed by weakest preconditions: `Records op Q` says that `Q` holds of the outcome of `op` and of
what `op` does to links, and there is one rule for each way in which operations are put together.

## Main definitions

* `LinkEvent.payloads` — the bytes that some actions hand to a printer.
* `PrintSession` — the actions of one session, for a backend under some circumstances.
* `Issuing.Records` — what holds of the outcome of an operation and of what it does to links.

## Main results

* `Link.overNetwork_session`, `overSerial_session`, `overUsb_session` — each way to a printer is a
  session.
-/

namespace Zpl

namespace LinkEvent

/-- The bytes that some actions hand to a printer, in order. -/
def payloads (events : List LinkEvent) : List UInt8 := events.flatMap payload

@[simp] theorem payloads_nil : payloads [] = [] := rfl

@[simp] theorem payloads_cons (e : LinkEvent) (es : List LinkEvent) :
    payloads (e :: es) = e.payload ++ payloads es := rfl

@[simp] theorem payloads_append (es fs : List LinkEvent) :
    payloads (es ++ fs) = payloads es ++ payloads fs := by
  simp [payloads]

/-- Whether an action asks for a link. -/
def isOpening : LinkEvent → Bool
  | .connect .. | .openPort .. | .find .. => true
  | _ => false

/-- Whether an action gives a link up. -/
def isClosing : LinkEvent → Bool
  | .close | .dispose => true
  | _ => false

/-- Whether an action is done to a link that is open and stays so. -/
def isWork (e : LinkEvent) : Bool := !e.isOpening && !e.isClosing

end LinkEvent

/-! ### Sessions -/

namespace Backend

/-- How a session with the printer begins, if there is a link to it. -/
def opening? : Backend → Option LinkEvent
  | .network host port timeout => some (.connect host port timeout)
  | .serial device baudrate timeout => some (.openPort device baudrate timeout timeout)
  | .usb vendor product _ => some (.find vendor product)
  | .base | .dryRun _ => none

/-- How a session with the printer ends. -/
def closing : Backend → LinkEvent
  | .usb .. => .dispose
  | _ => .close

/-- Whether what is written has to be flushed. -/
def isBuffered : Backend → Bool
  | .serial .. => true
  | _ => false

theorem payload_of_opening? {b : Backend} {opening : LinkEvent}
    (h : b.opening? = some opening) : opening.payload = [] := by
  cases b <;> simp [opening?] at h <;> subst h <;> rfl

theorem isClosing_of_opening? {b : Backend} {opening : LinkEvent}
    (h : b.opening? = some opening) : opening.isClosing = false := by
  cases b <;> simp [opening?] at h <;> subst h <;> rfl

@[simp] theorem payload_closing (b : Backend) : b.closing.payload = [] := by cases b <;> rfl

@[simp] theorem isClosing_closing (b : Backend) : b.closing.isClosing = true := by cases b <;> rfl

end Backend

/-- Whether a link can be opened. Looking for a USB device may also end well and find none. -/
def Circumstances.opens (c : Circumstances) : Backend → Bool
  | .usb .. => c.openFault.isNone && c.connected
  | _ => c.openFault.isNone

/-- The actions of one session. `delivered` says whether the session ends without a fault. -/
inductive PrintSession (b : Backend) (c : Circumstances) (job : List UInt8) :
    (delivered : Bool) → List LinkEvent → Prop where
  /-- The link is asked for, and that is all. -/
  | unopened {opening : LinkEvent} (begins : b.opening? = some opening)
      (refused : c.opens b = false) : PrintSession b c job false [opening]
  /-- The link is asked for, worked on until something fails, and given up. -/
  | broken {opening : LinkEvent} {work : List LinkEvent} (begins : b.opening? = some opening)
      (granted : c.opens b = true) (working : ∀ e ∈ work, e.isWork = true)
      (handsOver : LinkEvent.payloads work <+: job) :
      PrintSession b c job false (opening :: work ++ [b.closing])
  /-- The link is asked for, the job is handed over, and the link is given up. -/
  | complete {opening : LinkEvent} {work : List LinkEvent} (begins : b.opening? = some opening)
      (granted : c.opens b = true) (working : ∀ e ∈ work, e.isWork = true)
      (handsOver : LinkEvent.payloads work = job)
      (flushes : b.isBuffered = true → ∃ writing, work = writing ++ [.flush]) :
      PrintSession b c job true (opening :: work ++ [b.closing])

namespace PrintSession

variable {b : Backend} {c : Circumstances} {job : List UInt8} {delivered : Bool}
  {events : List LinkEvent}

/-- What is handed over in a session is a beginning of the job. -/
theorem payloads_prefix (h : PrintSession b c job delivered events) :
    LinkEvent.payloads events <+: job := by
  cases h with
  | unopened begins _ => simp [Backend.payload_of_opening? begins]
  | broken begins _ _ handsOver => simpa [Backend.payload_of_opening? begins] using handsOver
  | complete begins _ _ handsOver _ => simp [Backend.payload_of_opening? begins, handsOver]

/-- A session that ends without a fault hands the whole job over. -/
theorem payloads_eq (h : PrintSession b c job true events) : LinkEvent.payloads events = job := by
  cases h with
  | complete begins _ _ handsOver _ => simp [Backend.payload_of_opening? begins, handsOver]

/-- A link that was opened is given up once, at the end. -/
theorem countP_isClosing (h : PrintSession b c job delivered events) :
    events.countP LinkEvent.isClosing = if c.opens b then 1 else 0 := by
  have working {work : List LinkEvent} (h : ∀ e ∈ work, e.isWork = true) :
      work.countP LinkEvent.isClosing = 0 := by
    rw [List.countP_eq_zero]
    intro e he
    have := h e he
    simp_all [LinkEvent.isWork]
  cases h with
  | unopened begins refused => simp [Backend.isClosing_of_opening? begins, refused]
  | broken begins granted work _ =>
    simp [Backend.isClosing_of_opening? begins, granted, working work]
  | complete begins granted work _ _ =>
    simp [Backend.isClosing_of_opening? begins, granted, working work]

end PrintSession

/-! ### What operations do to links -/

namespace Issuing

variable {α β : Type} {Q : Except Fault α → List LinkEvent → Prop}

/-- `Q` holds of the outcome of an operation and of what it does to links. -/
def Records (op : Issuing α) (Q : Except Fault α → List LinkEvent → Prop) : Prop :=
  ∀ events, ∃ new : List Event,
    match op events with
    | .ok a after => after = events ++ new ∧ Q (.ok a) (Event.links new)
    | .error fault after => after = events ++ new ∧ Q (.error fault) (Event.links new)

namespace Records

theorem mono {op : Issuing α} {P : Except Fault α → List LinkEvent → Prop} (h : op.Records P)
    (hPQ : ∀ e es, P e es → Q e es) : op.Records Q := by
  intro events
  obtain ⟨new, h⟩ := h events
  refine ⟨new, ?_⟩
  split at h
  · exact ⟨h.1, hPQ _ _ h.2⟩
  · exact ⟨h.1, hPQ _ _ h.2⟩

theorem pure {a : α} (h : Q (.ok a) []) : (Pure.pure a : Issuing α).Records Q :=
  fun events => ⟨[], (List.append_nil events).symm, h⟩

theorem lift {e : Except Fault α} (h : Q e []) : (liftM e : Issuing α).Records Q := by
  intro events
  refine ⟨[], ?_⟩
  cases e <;> exact ⟨(List.append_nil events).symm, h⟩

theorem link {e : LinkEvent} {Q : Except Fault Unit → List LinkEvent → Prop} (h : Q (.ok ()) [e]) :
    (link e).Records Q :=
  fun _ => ⟨[.link e], rfl, h⟩

theorem check {fault? : Option Fault} {Q : Except Fault Unit → List LinkEvent → Prop}
    (hok : fault? = none → Q (.ok ()) [])
    (hfault : ∀ fault, fault? = some fault → Q (.error fault) []) : (check fault?).Records Q := by
  intro events
  refine ⟨[], ?_⟩
  cases fault? with
  | none => exact ⟨(List.append_nil events).symm, hok rfl⟩
  | some fault => exact ⟨(List.append_nil events).symm, hfault fault rfl⟩

/-- What comes first is done, and then the rest unless that fails. -/
theorem bind {x : Issuing β} {f : β → Issuing α}
    (h : x.Records fun e es =>
      match e with
      | .ok b => (f b).Records fun e fs => Q e (es ++ fs)
      | .error fault => Q (.error fault) es) : (x >>= f).Records Q := by
  intro events
  obtain ⟨first, h⟩ := h events
  change ∃ new, match EStateM.bind x f events with
    | .ok a after => after = events ++ new ∧ Q (.ok a) (Event.links new)
    | .error fault after => after = events ++ new ∧ Q (.error fault) (Event.links new)
  unfold EStateM.bind
  cases hx : x events with
  | ok b after =>
    rw [hx] at h
    obtain ⟨rfl, h⟩ := h
    obtain ⟨second, h⟩ := h (events ++ first)
    refine ⟨first ++ second, ?_⟩
    dsimp only
    rw [Event.links_append]
    cases hf : f b (events ++ first) with
    | ok a after =>
      rw [hf] at h
      exact ⟨by rw [h.1, List.append_assoc], h.2⟩
    | error fault after =>
      rw [hf] at h
      exact ⟨by rw [h.1, List.append_assoc], h.2⟩
  | error fault after =>
    rw [hx] at h
    exact ⟨first, h⟩

/-- The last action is done whether the operation fails or not. -/
theorem closing {op : Issuing α} {last : LinkEvent}
    (h : op.Records fun e es => Q e (es ++ [last])) : (closing op last).Records Q := by
  intro events
  obtain ⟨new, h⟩ := h events
  refine ⟨new ++ [.link last], ?_⟩
  simp only [Issuing.closing]
  have links : Event.links (new ++ [.link last]) = Event.links new ++ [last] := by
    simp [Event.links]
  rw [links]
  cases hop : op events with
  | ok a after =>
    rw [hop] at h
    exact ⟨by simp [h.1], h.2⟩
  | error fault after =>
    rw [hop] at h
    exact ⟨by simp [h.1], h.2⟩

end Records

end Issuing

/-! ### Ways to a printer -/

namespace Link

open Issuing

variable {c : Circumstances} {job : List UInt8}

@[simp] theorem isWork_sendAll (v : Value) : (LinkEvent.sendAll v).isWork = true := rfl

@[simp] theorem isWork_write (v : Value) : (LinkEvent.write v).isWork = true := rfl

@[simp] theorem isWork_flush : LinkEvent.flush.isWork = true := rfl

@[simp] theorem isWork_setConfiguration : LinkEvent.setConfiguration.isWork = true := rfl

@[simp] theorem isWork_detach (n : Nat) : (LinkEvent.detach n).isWork = true := rfl

@[simp] theorem isWork_endpointWrite (address v : Value) :
    (LinkEvent.endpointWrite address v).isWork = true := rfl

/-- A network connection takes the whole job at once. -/
theorem overNetwork_session (c : Circumstances) (host port timeout : Value) (job : List UInt8) :
    (overNetwork c host port timeout (.bytes job)).Records fun e es =>
      PrintSession (.network host port timeout) c job e.isOk es := by
  refine .bind (.link (.bind (.check (fun hopen => ?_) fun fault hopen => ?_)))
  · have granted : c.opens (.network host port timeout) = true := by
      simp [Circumstances.opens, hopen]
    refine .closing (.bind (.link (.check (fun _ => ?_) fun fault _ => ?_)))
    · exact .complete rfl granted (by simp) (by simp [LinkEvent.payload])
        (by simp [Backend.isBuffered])
    · exact .broken rfl granted (by simp) (by simp [LinkEvent.payload])
  · exact .unopened rfl (by simp [Circumstances.opens, hopen])

/-- A serial line takes the whole job at once, and is flushed after that. -/
theorem overSerial_session (c : Circumstances) (device baudrate timeout : Value)
    (job : List UInt8) :
    (overSerial c device baudrate timeout (.bytes job)).Records fun e es =>
      PrintSession (.serial device baudrate timeout) c job e.isOk es := by
  refine .bind (.link (.bind (.check (fun hopen => ?_) fun fault hopen => ?_)))
  · have granted : c.opens (.serial device baudrate timeout) = true := by
      simp [Circumstances.opens, hopen]
    refine .closing (.bind (.link (.bind (.check (fun _ => ?_) fun fault _ => ?_))))
    · refine .bind (.link (.check (fun _ => ?_) fun fault _ => ?_))
      · exact .complete rfl granted (by simp) (by simp [LinkEvent.payload])
          fun _ => ⟨[.write (.bytes job)], rfl⟩
      · exact .broken rfl granted (by simp) (by simp [LinkEvent.payload])
    · exact .broken rfl granted (by simp) (by simp [LinkEvent.payload])
  · exact .unopened rfl (by simp [Circumstances.opens, hopen])

/-! ### USB -/

/-- Actions on an open link that hand over a beginning of a job, and all of it if they are
`done`. -/
structure Work (job : List UInt8) (done : Bool) (events : List LinkEvent) : Prop where
  working : ∀ e ∈ events, e.isWork = true
  handsOver : LinkEvent.payloads events <+: job
  completes : done = true → LinkEvent.payloads events = job

theorem Work.broken (job : List UInt8) : Work job false [] :=
  ⟨by simp, List.nil_prefix, by simp⟩

/-- Work that something goes before. -/
theorem Work.after {rest job : List UInt8} {done : Bool} {first events : List LinkEvent}
    (h : Work rest done events) (hfirst : ∀ e ∈ first, e.isWork = true)
    (hjob : LinkEvent.payloads first ++ rest = job) : Work job done (first ++ events) := by
  subst hjob
  refine ⟨fun e he => (List.mem_append.1 he).elim (hfirst e) (h.working e), ?_, fun hdone => ?_⟩
  · rw [LinkEvent.payloads_append]
    exact (List.prefix_append_right_inj _).2 h.handsOver
  · rw [LinkEvent.payloads_append, h.completes hdone]

/-- Pieces go out in order, until one of them is refused. -/
theorem writePieces_records (c : Circumstances) (address : Nat) (pieces : List (List UInt8))
    (written : Int) :
    (writePieces c address written (pieces.map .bytes)).Records fun e es =>
      Work pieces.flatten e.isOk es := by
  -- How many pieces went out before decides when the link fails, so it differs from piece to piece.
  induction pieces generalizing written with
  | nil => exact .pure ⟨by simp, List.nil_prefix, fun _ => rfl⟩
  | cons piece rest ih =>
    have work : ∀ e ∈ [LinkEvent.endpointWrite (.int address) (.bytes piece)], e.isWork = true := by
      simp
    have goesOn : (writePieces c address (written + 1) (rest.map .bytes)).Records fun e fs =>
        Work (piece :: rest).flatten e.isOk
          ([.endpointWrite (.int address) (.bytes piece)] ++ fs) :=
      (ih (written + 1)).mono fun e es h => h.after work (by simp [LinkEvent.payload])
    refine .bind (.link ?_)
    dsimp only
    split
    · refine .bind (.check (fun _ => goesOn) fun fault _ => ?_)
      refine ⟨by simp, ?_, by simp [Except.isOk, Except.toBool]⟩
      simp [LinkEvent.payload]
    · exact goesOn

theorem detachDriver_records (c : Circumstances) :
    (detachDriver c).Records fun _ es =>
      (∀ e ∈ es, e.isWork = true) ∧ LinkEvent.payloads es = [] := by
  refine .bind (.check (fun _ => ?_) fun fault _ => by simp)
  dsimp only
  split
  · exact .bind (.link (.check (fun _ => by simp [LinkEvent.payload]) fun fault _ => by
      simp [LinkEvent.payload]))
  · exact .pure (by simp)

/-- A harmless fault of the driver is noted and forgotten. -/
theorem releaseDevice_rule {c : Circumstances} {Q : Except Fault Unit → List LinkEvent → Prop}
    (h : (detachDriver c).Records fun e es =>
      match e with
      | .ok _ => Q (.ok ()) es
      | .error fault => Q (if isHarmless fault then .ok () else .error fault) es) :
    (releaseDevice c).Records Q := by
  intro events
  obtain ⟨new, h⟩ := h events
  unfold releaseDevice
  cases hd : detachDriver c events with
  | ok a after =>
    rw [hd] at h
    exact ⟨new, h⟩
  | error fault after =>
    rw [hd] at h
    obtain ⟨rfl, h⟩ := h
    by_cases hharmless : isHarmless fault = true
    · refine ⟨new ++ [.log .debug .backend ("Kernel driver left attached: " ++ fault.text)], ?_⟩
      simp only [hharmless, if_true] at h ⊢
      refine ⟨List.append_assoc .., ?_⟩
      rw [Event.links_append, show Event.links [.log ..] = [] from rfl, List.append_nil]
      exact h
    · exact ⟨new, by simpa [hharmless] using h⟩

/-- What holds of any fault of the driver has to hold of a success as well, since harmless ones are
forgotten. -/
theorem releaseDevice_of_detachDriver {c : Circumstances}
    {Q : Except Fault Unit → List LinkEvent → Prop} (h : (detachDriver c).Records Q)
    (forgotten : ∀ fault es, Q (.error fault) es → Q (.ok ()) es) :
    (releaseDevice c).Records Q := by
  refine releaseDevice_rule (h.mono fun e es he => ?_)
  cases e with
  | ok _ => exact he
  | error fault =>
    dsimp only
    split
    · exact forgotten fault es he
    · exact he

/-- Releasing a device from its driver hands nothing over. -/
theorem releaseDevice_records (c : Circumstances) :
    (releaseDevice c).Records fun _ es =>
      (∀ e ∈ es, e.isWork = true) ∧ LinkEvent.payloads es = [] :=
  releaseDevice_of_detachDriver (detachDriver_records c) fun _ _ h => h

/-- Whether a session with a USB device ended without a fault, and lacked nothing. -/
def isDelivered : Except Fault (Option Lack) → Bool
  | .ok none => true
  | _ => false

/-- The pieces of a job are written to a device that was found, if it has an endpoint for them. -/
theorem writeToDevice_records (c : Circumstances) (wanted : Value) (pieces : List (List UInt8)) :
    (writeToDevice c wanted (.ok (pieces.map .bytes))).Records fun e es =>
      Work pieces.flatten (isDelivered e) es := by
  have broken {first : List LinkEvent} (working : ∀ e ∈ first, e.isWork = true)
      (nothing : LinkEvent.payloads first = []) : Work pieces.flatten false first := by
    have work := (Work.broken pieces.flatten).after working (by rw [nothing, List.nil_append])
    rwa [List.append_nil] at work
  refine .bind (.link (.bind (.check (fun _ => ?_) fun fault _ => ?_)))
  · refine .bind ((releaseDevice_records c).mono fun e es h => ?_)
    have working : ∀ e ∈ [LinkEvent.setConfiguration] ++ ([] ++ es), e.isWork = true := by
      simpa using h.1
    have nothing : LinkEvent.payloads ([.setConfiguration] ++ ([] ++ es)) = [] := by
      simpa [LinkEvent.payload] using h.2
    cases e with
    | error fault => exact broken working nothing
    | ok _ =>
      dsimp only
      split
      · refine .pure ?_
        simpa [isDelivered] using broken working nothing
      · refine .bind (.lift (.bind ((writePieces_records c _ pieces 0).mono fun e fs h => ?_)))
        have written := h.after working (by rw [nothing, List.nil_append])
        cases e with
        | error fault => simpa [isDelivered, Except.isOk, Except.toBool] using written
        | ok _ =>
          refine .pure ?_
          simpa [isDelivered, Except.isOk, Except.toBool] using written
  · exact broken (by simp) (by simp [LinkEvent.payload])

/-- A USB device takes the job in pieces, if it is found. -/
theorem overUsb_session (c : Circumstances) (vendor product wanted : Value)
    (pieces : List (List UInt8)) :
    (overUsb c vendor product wanted (.ok (pieces.map .bytes))).Records fun e es =>
      PrintSession (.usb vendor product wanted) c pieces.flatten (isDelivered e) es := by
  refine .bind (.link (.bind (.check (fun hopen => ?_) fun fault hopen => ?_)))
  · dsimp only
    split
    · rename_i hconnected
      have granted : c.opens (.usb vendor product wanted) = true := by
        simp [Circumstances.opens, hopen, hconnected]
      refine .closing ((writeToDevice_records c wanted pieces).mono fun e es h => ?_)
      cases hdone : isDelivered e with
      | true =>
        exact .complete rfl granted h.working (h.completes hdone) (by simp [Backend.isBuffered])
      | false => exact .broken rfl granted h.working h.handsOver
    · rename_i hconnected
      exact .pure (.unopened rfl (by simp [Circumstances.opens, hconnected]))
  · exact .unopened rfl (by simp [Circumstances.opens, hopen])

end Link

end Zpl
