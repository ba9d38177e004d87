import Zpl.Circumstances
import Zpl.Event
import Zpl.Print.Backend

/-!
# Links to printers

What a backend does to deliver a job is a session: it opens a link, hands the bytes over and
closes the link, whether that went well or not. Where a link can fail is up to its `Circumstances`.
Everything done to a link is issued as an event before it can fail.

## Main definitions

* `Link.chunks`, `Link.pieces` — a job in pieces of a given size.
* `Link.overNetwork`, `overSerial`, `overUsb` — sessions.
-/

namespace Zpl

namespace Link

open Issuing

/-! ### Network and serial line -/

/-- A session on a network connection. -/
def overNetwork (c : Circumstances) (host port timeout job : Value) : Issuing Unit := do
  link (.connect host port timeout)
  check c.openFault
  closing (do link (.sendAll job); check c.sendFault) .close

/-- A session on a serial line. -/
def overSerial (c : Circumstances) (device baudrate timeout job : Value) : Issuing Unit := do
  link (.openPort device baudrate timeout timeout)
  check c.openFault
  closing (do
    link (.write job)
    check c.sendFault
    link .flush
    check c.flushFault) .close

/-! ### USB -/

/-- A sequence in pieces of a given size, the last of which may be smaller. -/
def chunks {α : Type} (size : Nat) (job : List α) : List (List α) :=
  if _ : size = 0 ∨ job = [] then []
  else job.take size :: chunks size (job.drop size)
termination_by job.length
decreasing_by
  rename_i h
  have := List.length_pos_iff.2 fun e => h (.inr e)
  simp only [List.length_drop]
  omega

/-- A job in pieces of a given size. Only sequences have pieces. -/
def piecesOf (d : Directory) (size : Nat) (job : Value) : Except Fault (List Value) :=
  match job.opened d with
  | .bytes bs => .ok ((chunks size bs).map .bytes)
  | .text t => .ok ((chunks size t).map .text)
  | .tuple vs => .ok ((chunks size vs).map .tuple)
  | .list vs => .ok ((chunks size vs).map .list)
  | _ => .error .wrongType

/-- What is written of a job piece by piece: nothing if the size of a piece is below zero. -/
def pieces (d : Directory) (size job : Value) : Except Fault (List Value) := do
  let length ← job.length d
  match size.integer? with
  | none => throw (.notCounting (size.kindName d))
  | some n =>
    if n = 0 then throw .zeroStep
    else if n < 0 ∨ length = 0 then return []
    else piecesOf d n.toNat job

/-- Whether an endpoint takes data from the host. -/
def isOutgoing (address : Nat) : Bool := address / 0x80 % 2 == 0

/-- The endpoint that jobs go to: the one asked for, or the first outgoing one. -/
def endpoint? (addresses : List Nat) : Value → Option Nat
  | .none => addresses.find? isOutgoing
  | wanted => addresses.find? fun address => Value.same (.int address) wanted

/-- Whether a fault of the kernel driver leaves the device usable. -/
def isHarmless (fault : Fault) : Bool :=
  fault.IsDerived .notImplementedError ∨ fault.IsDerived .usbError

/-- Takes the device from the kernel driver, if one holds it. -/
def detachDriver (c : Circumstances) : Issuing Unit := do
  check c.kernelFault
  if c.kernelDriver then
    link (.detach 0)
    check c.detachFault

/-- Takes the device from the kernel driver, or notes why that was not possible. -/
def releaseDevice (c : Circumstances) : Issuing Unit := fun events =>
  match detachDriver c events with
  | .ok () events => .ok () events
  | .error fault events =>
    if isHarmless fault then
      log .debug .backend ("Kernel driver left attached: " ++ fault.text) events
    else .error fault events

/-- Writes pieces to an endpoint, after `written` others. -/
def writePieces (c : Circumstances) (address : Nat) : (written : Int) → List Value → Issuing Unit
  | _, [] => pure ()
  | written, piece :: rest => do
    link (.endpointWrite (.int address) piece)
    if c.goodWrites < written + 1 then check c.sendFault
    writePieces c address (written + 1) rest

/-- A fault of a connection to a printer. -/
def connectionFault (message : Text) (target : Value) : Fault :=
  .print { stage := .connection, message := .text message, target := target }

/-- Why nothing can be written to a device. -/
inductive Lack where
  | device
  | endpoint
  deriving DecidableEq, Repr

def Lack.message : Lack → Text
  | .device => "USB printer not connected"
  | .endpoint => "printer has no bulk OUT endpoint"

/-- Configures a device that was found, and writes a job to it piece by piece, unless it lacks
something. -/
def writeToDevice (c : Circumstances) (wanted : Value) (job : Except Fault (List Value)) :
    Issuing (Option Lack) := do
  link .setConfiguration
  check c.configurationFault
  releaseDevice c
  match endpoint? c.endpoints wanted with
  | none => return some .endpoint
  | some address =>
    writePieces c address 0 (← job)
    return none

/-- A session with a USB device. It is looked up each time. The pieces of the job are only asked for
once they are needed. -/
def overUsb (c : Circumstances) (vendor product wanted : Value) (job : Except Fault (List Value)) :
    Issuing (Option Lack) := do
  link (.find vendor product)
  check c.openFault
  if c.connected then closing (writeToDevice c wanted job) .dispose else return some .device

@[simp] theorem chunks_nil {α : Type} (size : Nat) : chunks size ([] : List α) = [] := by
  rw [chunks]
  simp

theorem chunks_of_ne_nil {α : Type} {size : Nat} (hs : size ≠ 0) {job : List α} (hj : job ≠ []) :
    chunks size job = job.take size :: chunks size (job.drop size) := by
  rw [chunks, dif_neg (by simp [hs, hj])]

/-- Nothing of a job gets lost in its pieces. -/
theorem flatten_chunks {α : Type} {size : Nat} (hs : size ≠ 0) (job : List α) :
    (chunks size job).flatten = job := by
  fun_induction chunks size job with
  | case1 job h =>
    rcases h with h | rfl
    · exact absurd h hs
    · rfl
  | case2 job h ih => simp [ih]

end Link

end Zpl
