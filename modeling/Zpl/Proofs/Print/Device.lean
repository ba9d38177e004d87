import Zpl.Proofs.Print.Diagnosis

/-!
# What is written to a USB device

A job goes to one endpoint of a device: the one that the backend asks for, or the first outgoing
one. It goes there in pieces of one size, the last of which may be smaller, until the device takes
no more. Before that the kernel driver has to let go of the device, and most faults of the driver
end the session.

## Main definitions

* `LinkEvent.writes` — what is written to the endpoints of a device, and where.
* `Link.IsChosen` — the endpoint that jobs go to.
* `Link.IsSplit` — a job in pieces of one size.
* `Circumstances.driverFault?` — why the kernel driver does not let go of a device.

## Main results

* `Link.chunks_isSplit` — how a job is cut.
* `Link.overUsb_writes` — what a session with a connected device writes, and how it ends.
* `Action.deliver_usb` — the same for a backend, in terms of the endpoints and the faults.
-/

namespace Zpl

/-- What is written to the endpoints of a device, each time with the address. -/
def LinkEvent.writes (events : List LinkEvent) : List (Value × Value) :=
  events.filterMap fun
    | .endpointWrite address piece => some (address, piece)
    | _ => none

namespace LinkEvent

@[simp] theorem writes_nil : writes [] = [] := rfl

@[simp] theorem writes_endpointWrite_cons (address piece : Value) (es : List LinkEvent) :
    writes (.endpointWrite address piece :: es) = (address, piece) :: writes es := rfl

@[simp] theorem writes_append (es fs : List LinkEvent) :
    writes (es ++ fs) = writes es ++ writes fs := List.filterMap_append ..

@[simp] theorem writes_setConfiguration_cons (es : List LinkEvent) :
    writes (.setConfiguration :: es) = writes es := rfl

@[simp] theorem writes_find_cons (vendor product : Value) (es : List LinkEvent) :
    writes (.find vendor product :: es) = writes es := rfl

@[simp] theorem writes_detach_cons (n : Nat) (es : List LinkEvent) :
    writes (.detach n :: es) = writes es := rfl

@[simp] theorem writes_dispose_cons (es : List LinkEvent) :
    writes (.dispose :: es) = writes es := rfl

end LinkEvent

namespace Link

/-! ### The endpoint -/

/-- The endpoint that jobs go to, among the addresses of a device: the first one whose direction bit
is clear, or the one that is asked for. -/
inductive IsChosen (addresses : List Nat) : (wanted : Value) → Nat → Prop where
  | first {before after : List Nat} {address : Nat}
      (listed : addresses = before ++ address :: after)
      (outgoing : address.testBit 7 = false) (earlier : ∀ a ∈ before, a.testBit 7 = true) :
      IsChosen addresses .none address
  | asked {address : Nat} (listed : address ∈ addresses) :
      IsChosen addresses (.int address) address

theorem isOutgoing_eq (address : Nat) : isOutgoing address = !address.testBit 7 := by
  rw [isOutgoing, Nat.testBit_eq_decide_div_mod_eq]
  have bit : address / 0x80 % 2 = 0 ∨ address / 0x80 % 2 = 1 := by omega
  rcases bit with bit | bit <;> simp [bit]

/-- The endpoint that is found is the chosen one. -/
theorem endpoint?_eq_some_iff {addresses : List Nat} {wanted : Value}
    (hwanted : wanted = .none ∨ ∃ n, wanted = .int n) {address : Nat} :
    endpoint? addresses wanted = some address ↔ IsChosen addresses wanted address := by
  rcases hwanted with rfl | ⟨n, rfl⟩
  · simp only [endpoint?, List.find?_eq_some_iff_append, isOutgoing_eq, Bool.not_eq_true',
      Bool.not_not]
    constructor
    · rintro ⟨outgoing, before, after, listed, earlier⟩
      exact .first listed outgoing earlier
    · rintro ⟨listed, outgoing, earlier⟩
      exact ⟨outgoing, _, _, listed, earlier⟩
  · have found (addresses : List Nat) : endpoint? addresses (.int n) =
        addresses.find? fun a : Nat => decide ((a : Int) = n) := by
      simp only [endpoint?, Value.same_int]
    rw [found]
    constructor
    · intro h
      have asked := List.find?_some h
      rw [decide_eq_true_eq] at asked
      subst asked
      exact .asked (List.mem_of_find?_eq_some h)
    · rintro ⟨⟩
      rename_i listed
      cases h : addresses.find? fun a : Nat => decide ((a : Int) = address) with
      | none => simpa using List.find?_eq_none.1 h address listed
      | some a =>
        have asked := List.find?_some h
        rw [decide_eq_true_eq, Int.ofNat_inj] at asked
        rw [asked]

/-! ### The pieces -/

/-- A sequence in pieces: all of one size, but for the last, which is not empty and no larger. -/
structure IsSplit {α : Type} (size : Nat) (job : List α) (pieces : List (List α)) : Prop where
  flatten : pieces.flatten = job
  count : pieces.length = (job.length + size - 1) / size
  full : ∀ piece ∈ pieces.dropLast, piece.length = size
  last : ∀ piece ∈ pieces.getLast?, 0 < piece.length ∧ piece.length ≤ size

section Chunks

variable {α : Type} {size : Nat}

theorem chunks_eq_nil (hs : size ≠ 0) {job : List α} : chunks size job = [] ↔ job = [] := by
  constructor
  · intro h
    rw [← flatten_chunks hs job, h, List.flatten_nil]
  · rintro rfl
    exact chunks_nil size

/-- A job takes as many pieces as its size needs, rounded up. -/
theorem length_chunks (hs : size ≠ 0) (job : List α) :
    (chunks size job).length = (job.length + size - 1) / size := by
  have pos : 0 < size := Nat.pos_of_ne_zero hs
  fun_induction chunks size job with
  | case1 job h =>
    obtain rfl := h.resolve_left hs
    rw [List.length_nil, Nat.div_eq_of_lt (by simp; omega)]
  | case2 job h ih =>
    have nonempty : 0 < job.length := List.length_pos_iff.2 fun e => h (.inr e)
    rw [List.length_cons, ih, List.length_drop]
    by_cases more : size ≤ job.length
    · rw [show job.length - size + size - 1 = job.length - 1 by omega,
        show job.length + size - 1 = job.length - 1 + size by omega, Nat.add_div_right _ pos]
    · rw [Nat.div_eq_of_lt (by omega), show job.length + size - 1 = job.length - 1 + size by omega,
        Nat.add_div_right _ pos, Nat.div_eq_of_lt (by omega)]

/-- Each piece but the last is full. -/
theorem length_mem_dropLast_chunks (job : List α) :
    ∀ piece ∈ (chunks size job).dropLast, piece.length = size := by
  fun_induction chunks size job with
  | case1 job h => simp
  | case2 job h ih =>
    have hs : size ≠ 0 := fun e => h (.inl e)
    by_cases rest : job.drop size = []
    · simp [rest]
    · rw [List.dropLast_cons_of_ne_nil (mt (chunks_eq_nil hs).1 rest), List.forall_mem_cons]
      refine ⟨?_, ih⟩
      have more : ¬ job.length ≤ size := mt List.drop_eq_nil_iff.2 rest
      rw [List.length_take]
      omega

/-- The last piece is not empty, and at most full. -/
theorem length_getLast?_chunks (job : List α) :
    ∀ piece ∈ (chunks size job).getLast?, 0 < piece.length ∧ piece.length ≤ size := by
  fun_induction chunks size job with
  | case1 job h => simp
  | case2 job h ih =>
    have hs : size ≠ 0 := fun e => h (.inl e)
    have nonempty : 0 < job.length := List.length_pos_iff.2 fun e => h (.inr e)
    by_cases rest : job.drop size = []
    · intro piece hpiece
      rw [rest, chunks_nil, List.getLast?_singleton, Option.mem_some_iff] at hpiece
      subst hpiece
      rw [List.length_take]
      omega
    · rwa [List.getLast?_cons_of_ne_nil (mt (chunks_eq_nil hs).1 rest)]

theorem chunks_isSplit (hs : size ≠ 0) (job : List α) : IsSplit size job (chunks size job) :=
  ⟨flatten_chunks hs job, length_chunks hs job, length_mem_dropLast_chunks job,
    length_getLast?_chunks job⟩

end Chunks

end Link

/-! ### Sessions with a connected device -/

namespace Circumstances

variable (c : Circumstances)

/-- Why the kernel driver does not let go of the device, or why nothing is known of the driver. -/
def driverFault? : Option Fault :=
  c.kernelFault.or (if c.kernelDriver then c.detachFault else none)

/-- Why a session ends before an endpoint is looked for. -/
def earlyFault? : Option Fault :=
  (c.openFault.or c.configurationFault).or
    (c.driverFault?.filter fun fault => !Link.isHarmless fault)

/-- How many more pieces a device takes after `written` others. -/
def taken (written : Int) : Nat := (c.goodWrites - written).toNat

/-- How many of the pieces that are left a device is asked to take. -/
def attempts (written : Int) (left : Nat) : Nat :=
  if c.sendFault.isSome then min left (c.taken written + 1) else left

/-- Why a device does not take all the pieces that are left. -/
def writeFault? (written : Int) (left : Nat) : Option Fault :=
  if c.taken written < left then c.sendFault else none

/-- How a session with a connected device ends, and what is written in it. -/
def session (wanted : Value) (pieces : List Value) :
    Except Fault (Option Link.Lack) × List (Value × Value) :=
  match c.earlyFault?, Link.endpoint? c.endpoints wanted with
  | some fault, _ => (.error fault, [])
  | none, none => (.ok (some .endpoint), [])
  | none, some address =>
    ((c.writeFault? 0 pieces.length).elim (.ok none) .error,
      (pieces.take (c.attempts 0 pieces.length)).map fun piece => (.int address, piece))

end Circumstances

namespace Link

open Issuing

variable (c : Circumstances)

theorem detachDriver_writes :
    (detachDriver c).Records fun e es =>
      e = c.driverFault?.elim (.ok ()) .error ∧ LinkEvent.writes es = [] := by
  refine .bind (.check (fun known => ?_) fun fault unknown => ?_)
  · dsimp only
    split
    · rename_i held
      refine .bind (.link (.check (fun gone => ?_) fun fault kept => ?_))
      · simp [Circumstances.driverFault?, known, held, gone]
      · simp [Circumstances.driverFault?, known, held, kept]
    · rename_i free
      refine .pure ?_
      simp [Circumstances.driverFault?, known, free]
  · simp [Circumstances.driverFault?, unknown]

/-- Releasing a device fails with what is not harmless. -/
theorem releaseDevice_writes :
    (releaseDevice c).Records fun e es =>
      e = (c.driverFault?.filter fun fault => !isHarmless fault).elim (.ok ()) .error ∧
        LinkEvent.writes es = [] := by
  refine releaseDevice_rule ((detachDriver_writes c).mono fun e es h => ?_)
  obtain ⟨rfl, written⟩ := h
  cases hfault : c.driverFault? with
  | none => simpa using written
  | some fault =>
    cases harmless : isHarmless fault <;> simp [Option.filter, harmless, written]

/-- A piece is written before the device can refuse it. -/
theorem writePieces_writes (address : Nat) (pieces : List Value) (written : Int) :
    (writePieces c address written pieces).Records fun e es =>
      e = (c.writeFault? written pieces.length).elim (.ok ()) .error ∧
        LinkEvent.writes es = (pieces.take (c.attempts written pieces.length)).map
          fun piece => (.int address, piece) := by
  -- How many pieces went out before decides when the link fails, so it differs from piece to piece.
  induction pieces generalizing written with
  | nil => exact .pure (by simp [Circumstances.writeFault?])
  | cons piece rest ih =>
    refine .bind (.link ?_)
    dsimp only
    split
    · rename_i last
      have none : c.taken written = 0 := by
        simp only [Circumstances.taken]
        omega
      refine .bind (.check (fun fine => ?_) fun fault met => ?_)
      · refine (ih (written + 1)).mono fun e es h => ?_
        simpa [Circumstances.writeFault?, Circumstances.attempts, fine] using h
      · simp [Circumstances.writeFault?, Circumstances.attempts, none, met]
    · rename_i more
      have next : c.taken written = c.taken (written + 1) + 1 := by
        simp only [Circumstances.taken]
        omega
      have fault : c.writeFault? written (piece :: rest).length =
          c.writeFault? (written + 1) rest.length := by
        simp [Circumstances.writeFault?, next]
      have attempts : c.attempts written (piece :: rest).length =
          c.attempts (written + 1) rest.length + 1 := by
        simp only [Circumstances.attempts, next, List.length_cons]
        split <;> omega
      refine (ih (written + 1)).mono fun e es h => ?_
      rw [fault, attempts]
      simpa using h

/-- What a session with a connected device writes, and how it ends. -/
theorem overUsb_writes (hconnected : c.connected = true) (vendor product wanted : Value)
    (pieces : List Value) :
    (overUsb c vendor product wanted (.ok pieces)).Records fun e es =>
      (e, LinkEvent.writes es) = c.session wanted pieces := by
  refine .bind (.link (.bind (.check (fun opened => ?_) fun fault unopened => ?_)))
  · dsimp only
    rw [if_pos hconnected]
    refine .closing (.bind (.link (.bind (.check (fun configured => ?_) fun fault bare => ?_))))
    · refine .bind ((releaseDevice_writes c).mono fun e es h => ?_)
      obtain ⟨rfl, unwritten⟩ := h
      have early : c.earlyFault? =
          c.driverFault?.filter fun fault => !isHarmless fault := by
        simp [Circumstances.earlyFault?, opened, configured]
      cases hfault : c.driverFault?.filter fun fault => !isHarmless fault with
      | some fault => simp [Circumstances.session, early, hfault, unwritten]
      | none =>
        dsimp only [Option.elim]
        cases hendpoint : endpoint? c.endpoints wanted with
        | none => exact .pure (by simp [Circumstances.session, early, hfault, hendpoint, unwritten])
        | some address =>
          refine .bind (.lift (.bind
            ((writePieces_writes c address pieces 0).mono fun e fs h => ?_)))
          obtain ⟨rfl, written⟩ := h
          cases hwrite : c.writeFault? 0 pieces.length with
          | none =>
            refine .pure ?_
            simp [Circumstances.session, early, hfault, hendpoint, hwrite, unwritten, written]
          | some fault =>
            simp [Circumstances.session, early, hfault, hendpoint, hwrite, unwritten, written]
    · simp [Circumstances.session, Circumstances.earlyFault?, opened, bare]
  · simp [Circumstances.session, Circumstances.earlyFault?, unopened]

end Link

/-- What a session with a device comes to for the backend: what the device lacks is a fault. -/
def Link.reported (name : Text) : Except Fault (Option Lack) → Except Fault Unit
  | .ok none => .ok ()
  | .ok (some lack) => .error (connectionFault lack.message (.text name))
  | .error fault => .error fault

namespace Action

variable {s : Store} {around : Surroundings} {r : Ref} {vendor product wanted : Value}

/-- Identifiers that are numbers make a name. -/
theorem usbName_int (vendor product : Int) :
    ∃ name, Backend.usbName (.int vendor) (.int product) = .ok name := ⟨_, rfl⟩

/-- What a backend writes to a connected device, and how that ends. -/
theorem deliver_writes (hs : s.IsGenuine) (hb : s.backend? r = some (.usb vendor product wanted))
    {name : Text} (hname : Backend.usbName vendor product = .ok name)
    (hconnected : around.circumstances.connected = true) (job : List UInt8) :
    (deliver (.object r) (.bytes job)).Records around s fun e es =>
      let session := around.circumstances.session wanted ((Link.chunks 16384 job).map .bytes)
      e = Link.reported name session.1 ∧ LinkEvent.writes es = session.2 := by
  have sends : (deliverTo r (.bytes job)).Records around s fun e es =>
      let session := around.circumstances.session wanted ((Link.chunks 16384 job).map .bytes)
      e = Link.reported name session.1 ∧ LinkEvent.writes es = session.2 := by
    refine .silent_bind .get hs (.silent_bind (.of_after fun _ _ => rfl) hs ?_)
    refine .silent_bind (.demand _) hs ?_
    rw [after_get, hb]
    refine .bind (.issue ?_)
    rw [usbPieces_eq hs hb]
    refine (Link.overUsb_writes around.circumstances hconnected vendor product wanted
      ((Link.chunks 16384 job).map .bytes)).mono fun e es h => ?_
    rw [← h]
    rcases e with fault | lack?
    · exact ⟨rfl, rfl⟩
    intro t ht
    cases lack? with
    | none => exact .silent (.pure ()) (ht.isGenuine hs) ⟨rfl, by rw [List.append_nil]⟩
    | some lack =>
      refine .silent ((regenerates_describe _).bind fun _ => .throw _) (ht.isGenuine hs) ?_
      rw [outcome_bind, outcome_describe_usb (ht.isGenuine hs) ((ht.backend? r).trans hb), hname]
      exact ⟨rfl, by rw [List.append_nil]⟩
  simpa only [Records, deliver, outcome_dispatchUnitOn hs (by decide : "send" ∈ _) hb,
    after_dispatchUnitOn hs (by decide : "send" ∈ _) hb] using sends

end Action

/-! ### Faults of the driver -/

/-- The driver faults that leave a device usable are those of two classes, and of what is derived
from them. -/
theorem Link.isHarmless_iff {fault : Fault} : isHarmless fault = true ↔
    fault.IsDerived .notImplementedError ∨ fault.IsDerived .usbError :=
  decide_eq_true_iff

/-- What a device lacks is told by a fault of printing of no class of its own, which is not
harmless. -/
theorem Link.isHarmless_connectionFault (message : Text) (target : Value) :
    isHarmless (connectionFault message target) = false :=
  show decide ((∃ c ∈ [FaultClass.exception], c.IsBelow .notImplementedError) ∨
    ∃ c ∈ [FaultClass.exception], c.IsBelow .usbError) = false by decide

namespace Circumstances

variable {c : Circumstances} {wanted : Value} {pieces : List Value}

theorem session_of_early {fault : Fault} (h : c.earlyFault? = some fault) :
    c.session wanted pieces = (.error fault, []) := by
  rw [session, h]

theorem session_of_lack (h : c.earlyFault? = none)
    (hlack : Link.endpoint? c.endpoints wanted = none) :
    c.session wanted pieces = (.ok (some .endpoint), []) := by
  rw [session, h, hlack]

theorem session_of_endpoint (h : c.earlyFault? = none) {address : Nat}
    (hendpoint : Link.endpoint? c.endpoints wanted = some address) :
    c.session wanted pieces =
      ((c.writeFault? 0 pieces.length).elim (.ok none) .error,
        (pieces.take (c.attempts 0 pieces.length)).map fun piece => (.int address, piece)) := by
  rw [session, h, hendpoint]

/-- Whatever is written goes to the endpoint that was found. -/
theorem mem_session {address piece : Value} (h : (address, piece) ∈ (c.session wanted pieces).2) :
    ∃ a : Nat, address = .int a ∧ Link.endpoint? c.endpoints wanted = some a := by
  cases hearly : c.earlyFault? with
  | some fault => simp [session_of_early hearly] at h
  | none =>
    cases hendpoint : Link.endpoint? c.endpoints wanted with
    | none => simp [session_of_lack hearly hendpoint] at h
    | some a =>
      rw [session_of_endpoint hearly hendpoint] at h
      obtain ⟨_, -, heq⟩ := List.mem_map.1 h
      cases heq
      exact ⟨a, rfl, rfl⟩

/-- With an endpoint, at least one write is tried. -/
theorem session_ne_nil (h : c.earlyFault? = none) {address : Nat}
    (hendpoint : Link.endpoint? c.endpoints wanted = some address) (hpieces : pieces ≠ []) :
    (c.session wanted pieces).2 ≠ [] := by
  have left : 0 < pieces.length := List.length_pos_iff.2 hpieces
  have attempts : c.attempts 0 pieces.length ≠ 0 := by
    rw [Circumstances.attempts]
    split <;> omega
  simp [session_of_endpoint h hendpoint, attempts, hpieces]

/-- A session that could end early lacks an endpoint exactly if nothing is written and the fault is
one of the connection. -/
theorem session_lacks_iff (h : c.earlyFault? = none) (hpieces : pieces ≠ []) (name : Text) :
    (∃ p, Link.reported name (c.session wanted pieces).1 = .error (.print p) ∧
        p.stage = .connection) ∧ (c.session wanted pieces).2 = [] ↔
      Link.endpoint? c.endpoints wanted = none := by
  cases hendpoint : Link.endpoint? c.endpoints wanted with
  | none =>
    rw [session_of_lack h hendpoint]
    exact iff_of_true ⟨⟨_, rfl, rfl⟩, rfl⟩ rfl
  | some a =>
    refine iff_of_false (fun lacks => ?_) nofun
    exact session_ne_nil h hendpoint hpieces lacks.2

/-- If the link is up, a session ends early only with a fault of the driver that is not harmless. -/
theorem earlyFault?_of_up (hopen : c.openFault = none) (hconfigured : c.configurationFault = none) :
    c.earlyFault? = c.driverFault?.filter fun fault => !Link.isHarmless fault := by
  rw [earlyFault?, hopen, hconfigured, Option.none_or, Option.none_or]

/-- A fault of the driver ends the session before anything is written exactly if it is not
harmless. -/
theorem session_aborts_iff (hopen : c.openFault = none) (hconfigured : c.configurationFault = none)
    {fault : Fault} (hfault : c.driverFault? = some fault) (hpieces : pieces ≠ []) (name : Text) :
    Link.reported name (c.session wanted pieces).1 = .error fault ∧
        (c.session wanted pieces).2 = [] ↔ Link.isHarmless fault = false := by
  have early := earlyFault?_of_up hopen hconfigured
  rw [hfault] at early
  cases harmless : Link.isHarmless fault with
  | false =>
    rw [Option.filter_some, if_pos (by rw [harmless]; rfl)] at early
    rw [session_of_early early]
    exact iff_of_true ⟨rfl, rfl⟩ rfl
  | true =>
    rw [Option.filter_some, if_neg (by rw [harmless]; decide)] at early
    refine iff_of_false (fun aborts => ?_) nofun
    cases hendpoint : Link.endpoint? c.endpoints wanted with
    | none =>
      rw [session_of_lack early hendpoint] at aborts
      cases aborts.1
      simp [Link.isHarmless_connectionFault] at harmless
    | some a => exact session_ne_nil early hendpoint hpieces aborts.2

/-- A device takes pieces up to the one that it refuses. -/
theorem session_writes (h : c.earlyFault? = none) {address : Nat}
    (hendpoint : Link.endpoint? c.endpoints wanted = some address) (name : Text) :
    (c.sendFault = none →
      Link.reported name (c.session wanted pieces).1 = .ok () ∧
        (c.session wanted pieces).2 = pieces.map fun piece => (.int address, piece)) ∧
    ∀ fault (k : Nat), c.sendFault = some fault → c.goodWrites = k → k < pieces.length →
      Link.reported name (c.session wanted pieces).1 = .error fault ∧
        (c.session wanted pieces).2 =
          (pieces.take (k + 1)).map fun piece => (.int address, piece) := by
  rw [session_of_endpoint h hendpoint]
  constructor
  · intro fine
    simp [writeFault?, attempts, fine, Link.reported]
  · intro fault k refuses good fewer
    have taken : c.taken 0 = k := by simp [Circumstances.taken, good]
    have attempts : c.attempts 0 pieces.length = k + 1 := by
      simp only [Circumstances.attempts, refuses, taken, Option.isSome_some, if_true]
      omega
    simp [writeFault?, taken, fewer, refuses, attempts, Link.reported]

end Circumstances

/-- How USB backends write, for any job that is not empty and any device that is connected. All of
it goes to the chosen endpoint. If the device can be opened and configured, a fault of the driver
ends the session, before anything is written, exactly if it is derived from neither of two classes.
Otherwise the session ends before anything is written exactly if there is no such endpoint. And if
there is one, the job is written in pieces of 16384 bytes, up to the first piece that is not
taken. -/
theorem Action.deliver_usb {s : Store} {around : Surroundings} {r : Ref}
    {vendor product wanted : Value} (hs : s.IsGenuine)
    (hb : s.backend? r = some (.usb vendor product wanted)) {name : Text}
    (hname : Backend.usbName vendor product = .ok name)
    (hwanted : wanted = .none ∨ ∃ n, wanted = .int n)
    (hconnected : around.circumstances.connected = true)
    {job : List UInt8} (hjob : job ≠ []) :
    let c := around.circumstances
    (deliver (.object r) (.bytes job)).Records around s fun e es =>
      (∀ address piece, (address, piece) ∈ LinkEvent.writes es →
        ∃ a : Nat, address = .int a ∧ Link.IsChosen c.endpoints wanted a) ∧
      (c.openFault = none → c.configurationFault = none →
        (∀ fault, c.driverFault? = some fault →
          (e = .error fault ∧ LinkEvent.writes es = [] ↔
            ¬ fault.IsDerived .notImplementedError ∧ ¬ fault.IsDerived .usbError)) ∧
        ((∀ fault, c.driverFault? = some fault →
            fault.IsDerived .notImplementedError ∨ fault.IsDerived .usbError) →
          ((∃ p, e = .error (.print p) ∧ p.stage = .connection) ∧ LinkEvent.writes es = [] ↔
            ∀ a, ¬ Link.IsChosen c.endpoints wanted a) ∧
          ∀ a, Link.IsChosen c.endpoints wanted a →
            ∃ pieces, Link.IsSplit 16384 job pieces ∧
              (c.sendFault = none → e = .ok () ∧
                LinkEvent.writes es = pieces.map fun piece => (.int a, .bytes piece)) ∧
              ∀ fault (k : Nat), c.sendFault = some fault → c.goodWrites = k → k < pieces.length →
                e = .error fault ∧ LinkEvent.writes es =
                  (pieces.take (k + 1)).map fun piece => (.int a, .bytes piece))) := by
  intro c
  refine (deliver_writes hs hb hname hconnected job).mono fun e es h => ?_
  obtain ⟨rfl, written⟩ := h
  change LinkEvent.writes es = (c.session wanted ((Link.chunks 16384 job).map .bytes)).2 at written
  rw [written]
  have chosen {a : Nat} : Link.endpoint? c.endpoints wanted = some a ↔ _ :=
    Link.endpoint?_eq_some_iff hwanted
  have nonempty : (Link.chunks 16384 job).map Value.bytes ≠ [] := by
    simpa [Link.chunks_eq_nil] using hjob
  refine ⟨fun address piece h => ?_, fun hopen hconfigured => ⟨fun fault hfault => ?_, ?_⟩⟩
  · obtain ⟨a, rfl, ha⟩ := Circumstances.mem_session h
    exact ⟨a, rfl, chosen.1 ha⟩
  · rw [Circumstances.session_aborts_iff hopen hconfigured hfault nonempty name,
      ← not_or, ← Link.isHarmless_iff, Bool.not_eq_true]
  intro hharmless
  have up : c.earlyFault? = none := by
    rw [Circumstances.earlyFault?_of_up hopen hconfigured, Option.filter_eq_none_iff]
    intro fault hfault
    simpa using Link.isHarmless_iff.2 (hharmless fault hfault)
  refine ⟨?_, fun a ha => ⟨_, Link.chunks_isSplit (by decide) job, ?_⟩⟩
  · rw [Circumstances.session_lacks_iff up nonempty name, Option.eq_none_iff_forall_ne_some]
    exact forall_congr' fun a => not_congr chosen
  · have writes := @Circumstances.session_writes c wanted ((Link.chunks 16384 job).map .bytes) up a
      (chosen.2 ha) name
    simp only [List.map_map, List.length_map, ← List.map_take, Function.comp_def] at writes
    exact writes

/-- A job of three pieces goes to a device whose driver does not answer, which is an error of a USB
device of a class of its own, and which takes one piece. The second one is refused, and the third one
is not written. -/
theorem Action.deliver_usb_interrupted :
    let s : Store := { things := [.backend (.usb (.int 0x0A5F) (.int 0x00B9) .none)] }
    let silence : Fault := .incident { kind := .named "USBTimeoutError", args := [110, "timed out"] }
    let refusal : Fault := .incident { kind := .named "USBError", args := [5, "stalled"] }
    let c : Circumstances :=
      { kernelFault := some silence
        sendFault := some refusal
        goodWrites := 1 }
    let job : List UInt8 := List.replicate 40000 65
    silence.IsDerived .usbError ∧ Link.IsChosen c.endpoints .none 2 ∧
      (deliver (.object 0) (.bytes job)).Records (.within c s.depth) s fun e es =>
        e = .error refusal ∧ ∃ pieces, Link.IsSplit 16384 job pieces ∧ pieces.length = 3 ∧
          LinkEvent.writes es = (pieces.take 2).map fun piece => (2, .bytes piece) := by
  intro s silence refusal c job
  have derived : silence.IsDerived .usbError := by decide
  have chosen : Link.IsChosen c.endpoints .none 2 :=
    @Link.IsChosen.first _ [0x81] [] 2 rfl rfl (by decide)
  refine ⟨derived, chosen, ?_⟩
  have around : (Surroundings.within c s.depth).circumstances = c :=
    Surroundings.circumstances_within c s.depth
  obtain ⟨name, hname⟩ := usbName_int 0x0A5F 0x00B9
  have nonempty : job ≠ [] :=
    List.ne_nil_of_length_pos (by rw [List.length_replicate]; decide)
  refine Records.mono (@deliver_usb s (.within c s.depth) 0 _ _ _ (fun _ _ _ => rfl) rfl name hname
    (.inl rfl) (by rw [around]) job nonempty) fun e es h => ?_
  obtain ⟨-, h⟩ := h
  rw [around] at h
  obtain ⟨-, writes⟩ := (h rfl rfl).2 fun fault met => by
    obtain rfl : silence = fault := Option.some.inj met
    exact .inr derived
  obtain ⟨pieces, split, -, refused⟩ := writes 2 chosen
  have count : pieces.length = 3 := by
    rw [split.count, List.length_replicate]
  exact ⟨(refused refusal 1 rfl rfl (by omega)).1, pieces, split, count,
    (refused refusal 1 rfl rfl (by omega)).2⟩

end Zpl
