import Zpl.Proofs.Regeneration

/-!
# Printing objects

Whatever is printed, and however objects lie within each other, nothing but instructions changes.
If printing fails, it does so for what the objects are: the fault is never one that a printer call
would report. And what it comes to depends on the store alone, as long as no method has been put in
the place of one that printing calls.

The proof is one induction on the depth to which objects print each other. Everything else is
closure under the ways in which actions are put together.

## Main definitions

* `Fault.IsOffline` — a fault that is none of printing jobs.
* `Action.Spells` — an action that generates instructions at most and fails with such faults only.

## Main results

* `Writing.regenerates_within` — printing and generating objects, to any depth.
* `Action.spells_document`, `spells_code`, `spells_shown` — what callers print.
-/

namespace Zpl

/-! ### Actions that spell something out -/

/-- A fault that is none of printing. -/
def Fault.IsOffline (fault : Fault) : Prop := ∀ p, fault ≠ .print p

/-- If a computation fails, its fault is none of printing. -/
def FailsOffline {α : Type} (e : Except Fault α) : Prop :=
  ∀ fault, e = .error fault → fault.IsOffline

namespace FailsOffline

variable {α β : Type}

theorem ok (a : α) : FailsOffline (.ok a) := nofun

theorem error {fault : Fault} (h : fault.IsOffline) :
    FailsOffline (.error fault : Except Fault α) := by
  intro other he
  cases he
  exact h

theorem bind {e : Except Fault α} {f : α → Except Fault β} (he : FailsOffline e)
    (hf : ∀ a, FailsOffline (f a)) : FailsOffline (e >>= f) := by
  cases e with
  | ok a => exact hf a
  | error fault => exact .error (he fault rfl)

theorem mapM {f : α → Except Fault β} (hf : ∀ a, FailsOffline (f a)) (as : List α) :
    FailsOffline (as.mapM f) := by
  induction as with
  | nil => exact .ok []
  | cons a as ih =>
    rw [List.mapM_cons]
    exact (hf a).bind fun _ => ih.bind fun _ => .ok _

theorem arithmetic (e : Except ArithmeticFault α) : FailsOffline (liftArithmetic e) := by
  cases e with
  | ok a => exact .ok a
  | error fault => exact .error nofun

theorem write (n : Int) : FailsOffline (Decimal.write n) := by
  unfold Decimal.write
  split
  · exact .ok _
  · exact .error nofun

end FailsOffline

/-- Whether an event is a record of routine work. -/
def Event.isRoutine : Event → Bool
  | .log .debug _ _ => true
  | _ => false

namespace Store

variable {s t u : Store}

/-- Nothing but routine work was recorded from one store to the other: nobody was warned. -/
def Hushed (s t : Store) : Prop :=
  ∃ notes : List Event, (∀ e ∈ notes, e.isRoutine = true) ∧ t.events = s.events ++ notes

namespace Hushed

theorem of_events (h : t.events = s.events) : s.Hushed t :=
  ⟨[], by simp, by simp [h]⟩

theorem trans (h : s.Hushed t) (k : t.Hushed u) : s.Hushed u := by
  obtain ⟨ms, hms, hm⟩ := h
  obtain ⟨ns, hns, hn⟩ := k
  exact ⟨ms ++ ns, fun e he => (List.mem_append.1 he).elim (hms e) (hns e), by simp [hm, hn]⟩

/-- A sequence of two actions, of which the second starts where the first ends. -/
theorem bind {α β : Type} {x : Action α} {f : α → Action β} {around : Surroundings}
    (hx : s.Hushed (x.after around s))
    (hf : ∀ a, x.outcome around s = .ok a →
      (x.after around s).Hushed ((f a).after around (x.after around s))) :
    s.Hushed ((x >>= f).after around s) := by
  rw [Action.after_bind]
  split
  · rename_i a ha
    exact hx.trans (hf a ha)
  · exact hx

end Hushed

end Store

namespace Action

variable {α β : Type}

/-- An action that generates instructions at most, fails with no fault of printing, and in a genuine
store does the same whatever lies around it, but that the log may be strict. It warns nobody. -/
structure Spells (x : Action α) : Prop where
  regenerates : x.Regenerates
  offline : ∀ (around : Surroundings) (s : Store), s.IsGenuine →
    FailsOffline (x.outcome around s)
  same : ∀ (around around' : Surroundings) (s : Store), around.isStrict = around'.isStrict →
    s.IsGenuine → x around s = x around' s
  hushed : ∀ (around : Surroundings) (s : Store), s.IsGenuine → s.Hushed (x.after around s)

namespace Spells

variable {x : Action α} {f : α → Action β}

/-- An action that leaves the store as it is. -/
theorem of_after (hafter : ∀ around s, x.after around s = s)
    (offline : ∀ around s, FailsOffline (x.outcome around s))
    (same : ∀ around around' s, x around s = x around' s) : x.Spells where
  regenerates := .of_after hafter
  offline around s _ := offline around s
  same around around' s _ _ := same around around' s
  hushed around s _ := .of_events (by rw [hafter])

theorem pure (a : α) : (Pure.pure a : Action α).Spells :=
  of_after (fun _ _ => rfl) (fun _ _ => .ok a) fun _ _ _ => rfl

theorem throw {fault : Fault} (h : fault.IsOffline) : (throw fault : Action α).Spells :=
  of_after (fun _ _ => rfl) (fun _ _ => .error h) fun _ _ _ => rfl

theorem get : (get : Action Store).Spells :=
  of_after (fun _ _ => rfl) (fun _ s => .ok s) fun _ _ _ => rfl

theorem lift {e : Except Fault α} (h : FailsOffline e) : (liftM e : Action α).Spells :=
  of_after (after_lift e) (fun around s => by rwa [outcome_lift]) fun _ _ _ => rfl

/-- Routine work may be recorded. -/
theorem log (source : Source) (message : Text) : (log .debug source message).Spells where
  regenerates := .log _ _ _
  offline _ _ _ := .ok ()
  same _ _ _ _ _ := rfl
  hushed _ _ _ := ⟨[.log .debug source message], by simp [Event.isRoutine], rfl⟩

theorem bind (hx : x.Spells) (hf : ∀ a, (f a).Spells) : (x >>= f).Spells := by
  have genuine (around : Surroundings) (s : Store) (hs : s.IsGenuine) :
      (x.after around s).IsGenuine := (hx.regenerates around s hs).isGenuine hs
  refine ⟨hx.regenerates.bind fun a => (hf a).regenerates, fun around s hs => ?_,
    fun around around' s heard hs => ?_, fun around s hs =>
      .bind (hx.hushed around s hs) fun a _ => (hf a).hushed around _ (genuine around s hs)⟩
  · rw [outcome_bind]
    cases hok : x.outcome around s with
    | ok a => exact (hf a).offline around _ (genuine around s hs)
    | error fault => exact .error (hx.offline around s hs fault hok)
  · rw [bind_apply, bind_apply, hx.same around around' s heard hs]
    cases hok : x around' s with
    | ok a t => exact (hf a).same around around' t heard (after_eq_ok hok ▸ genuine around' s hs)
    | error fault t => rfl

/-- Routine work may be recorded in words that have to be found first. -/
theorem logWorded {words : Action Text} (hwords : words.Spells) (source : Source) :
    (logWorded .debug source words).Spells := by
  have eager : (words >>= fun message => Action.log .debug source message).Spells :=
    bind hwords fun message => log source message
  refine ⟨fun around s hs => ?_, fun around s hs => ?_, fun around around' s heard hs => ?_,
    fun around s hs => ?_⟩
  · rw [after_logWorded]
    exact eager.regenerates around s hs
  · rw [outcome_logWorded]
    split
    · exact .ok ()
    · split
      · exact .error (hwords.offline around s hs _ ‹_›)
      · exact .ok ()
  · rw [Action.logWorded, Action.logWorded, hwords.same around around' s heard hs, heard]
    rfl
  · rw [after_logWorded]
    exact eager.hushed around s hs

theorem directory : directory.Spells :=
  of_after (fun _ _ => rfl) (fun _ s => .ok s.directory) fun _ _ _ => rfl

theorem demand (a? : Option α) : (Action.demand a?).Spells := by
  cases a? with
  | none => exact .throw nofun
  | some a => exact .pure a

theorem component (r : Ref) : (component r).Spells := get.bind fun _ => demand _

theorem label (r : Ref) : (label r).Spells := get.bind fun _ => demand _

theorem thing (r : Ref) : (thing r).Spells := get.bind fun _ => demand _

end Spells

/-- The names under which an instruction is read or asked for. -/
def instructionNames : List String := ["instruction", "generate_instruction"]

/-- Reading what belongs to a kind of components never fails. -/
theorem error_not_mem_fields (k : Kind) (name : String) (fault : Fault) :
    (name, .error fault) ∉ k.fields := by
  cases k with
  | raw size => simp [Kind.fields]
  | text line => simp [Kind.fields, TextLine.fields]
  | barcode b => simp [Kind.fields, Barcode.fields]
  | shape form =>
    cases hfigure : form.figure <;> simp [Kind.fields, Shape.fields, hfigure]

/-- Reading what goes by one of these names never fails, if there is any. -/
theorem attribute?_ne_error {s : Store} {r : Ref} {name : String} (hname : name ∈ instructionNames)
    (fault : Fault) : s.attribute? r name ≠ some (.error fault) := by
  have names : name = "instruction" ∨ name = "generate_instruction" := by
    simpa [instructionNames] using hname
  have own (x : Thing) : (name, .error fault) ∉ x.fields s.directory := by
    cases x with
    | component c =>
      rcases names with rfl | rfl <;>
        simp [Thing.fields, Component.fields, error_not_mem_fields]
    | label l => rcases names with rfl | rfl <;> simp [Thing.fields, Label.fields]
    | backend b =>
      cases b <;> rcases names with rfl | rfl <;>
        simp [Thing.fields, Backend.fields, Backend.shownFields]
    | printer way => simp [Thing.fields]
    | _ => simp [Thing.fields]
  have shared (x : Thing) : (name, .error fault) ∉ x.sharedFields := by
    cases x with
    | backend b => cases b <;> simp [Thing.sharedFields, Backend.sharedFields]
    | _ => simp [Thing.sharedFields]
  have mem {fields : Fields} (h : fields.lookup name = some (.error fault)) :
      (name, .error fault) ∈ fields := by
    obtain ⟨before, after, rfl, -⟩ := List.lookup_eq_some_iff.1 h
    simp
  intro h
  unfold Store.attribute? at h
  split at h
  · cases h
  · split at h
    · rename_i hv
      cases h
      exact own _ (mem hv)
    · split at h
      · cases h
      · exact shared _ (mem h)

namespace Spells

theorem read (v : Value) {name : String} (hname : name ∈ instructionNames) :
    (read v name).Spells := by
  have lacks (v : Value) : (lacking v name >>= MonadExcept.throw : Action Value).Spells :=
    show (MonadState.get >>= fun s : Store => MonadExcept.throw
      (.lacksAttribute (v.kindName s.directory) name) : Action Value).Spells from
    get.bind fun _ => throw nofun
  unfold Action.read
  split
  · refine .bind .get fun s => ?_
    split
    · rename_i e hfound
      exact .lift fun fault h => absurd (h ▸ hfound) (attribute?_ne_error hname fault)
    · exact lacks _
  · exact lacks _

theorem refuseCall {α : Type} (v : Value) {name : String} (hname : name ∈ instructionNames) :
    (refuseCall v name : Action α).Spells := by
  refine ⟨.refuseCall v name, fun around s hs => ?_, fun around around' s heard hs => ?_,
    fun around s hs => .bind ((read v hname).hushed around s hs) fun _ _ => .of_events rfl⟩
  · rw [Action.refuseCall, outcome_bind]
    cases hread : (Action.read v name).outcome around s with
    | ok found => exact .error nofun
    | error fault => exact .error ((read v hname).offline around s hs fault hread)
  · rw [Action.refuseCall, bind_apply, bind_apply, (read v hname).same around around' s heard hs]
    rfl

variable {α : Type}

/-- A method that is in its place does what the operation of the object does. -/
theorem dispatch {own : Action Value} (r : Ref) {name : String} (hname : name ∈ Store.calledNames)
    (values : List Value) (hown : own.Spells) : (dispatch r name values own).Spells := by
  refine ⟨.dispatch r hname values hown.regenerates, fun around s hs => ?_,
    fun around around' s heard hs => ?_, fun around s hs => ?_⟩
  · rw [outcome_dispatch hs hname]
    exact hown.offline around s hs
  · rw [dispatch_of_unattached (hs r _ hname), dispatch_of_unattached (hs r _ hname)]
    exact hown.same around around' s heard hs
  · rw [after_dispatch hs hname]
    exact hown.hushed around s hs

/-- Whatever can be asked for its instruction. -/
theorem dispatchUnitOn (sort? : Store → Ref → Option α) (v : Value) {name : String}
    (hname : name ∈ Store.calledNames) (hread : name ∈ instructionNames) (values : List Value)
    {own : Ref → Action Unit} (hown : ∀ r, (own r).Spells) :
    (dispatchUnitOn sort? v name values own).Spells := by
  refine bind ?_ fun _ => pure _
  unfold dispatchOn
  split
  · refine dispatch _ hname values (get.bind fun s => ?_)
    split
    · exact (hown _).bind fun _ => pure _
    · exact refuseCall _ hread
  · exact refuseCall _ hread

end Spells

end Action

/-! ### Values -/

/-- A scribe who spells objects out. -/
structure Scribe.Regenerates (sc : Scribe Action) : Prop where
  shown : ∀ r, (sc.shown r).Spells
  quoted : ∀ r, (sc.quoted r).Spells

namespace Value

open Zpl.Action

variable {sc : Scribe Action}

mutual

theorem spells_quoted (hsc : sc.Regenerates) : ∀ v : Value, (v.quoted sc).Spells
  | .none => by unfold quoted; exact .pure _
  | .bool true => by unfold quoted; exact .pure _
  | .bool false => by unfold quoted; exact .pure _
  | .int n => by unfold quoted; exact .lift (.write n)
  | .float x => by unfold quoted; exact .pure _
  | .text t => by unfold quoted; exact .pure _
  | .bytes bs => by unfold quoted; exact .pure _
  | .tuple vs => by
    unfold quoted
    exact (spells_quotedItems hsc vs).bind fun _ => .pure _
  | .list vs => by
    unfold quoted
    exact (spells_quotedItems hsc vs).bind fun _ => .pure _
  | .record keys values => by
    unfold quoted
    exact (spells_quotedItems hsc keys).bind fun _ =>
      (spells_quotedItems hsc values).bind fun _ => .pure _
  | .object r => by unfold quoted; exact hsc.quoted r

theorem spells_quotedItems (hsc : sc.Regenerates) :
    ∀ vs : List Value, (quotedItems sc vs).Spells
  | [] => by unfold quotedItems; exact .pure _
  | v :: vs => by
    unfold quotedItems
    exact (spells_quoted hsc v).bind fun _ => (spells_quotedItems hsc vs).bind fun _ => .pure _

end

theorem spells_shown (hsc : sc.Regenerates) (v : Value) : (v.shown sc).Spells := by
  unfold shown
  split
  · exact .pure _
  · exact hsc.shown _
  · exact spells_quoted hsc v

theorem regenerates_quoted (hsc : sc.Regenerates) (v : Value) : (v.quoted sc).Regenerates :=
  (spells_quoted hsc v).regenerates

theorem regenerates_shown (hsc : sc.Regenerates) (v : Value) : (v.shown sc).Regenerates :=
  (spells_shown hsc v).regenerates

theorem spells_token (hsc : sc.Regenerates) (v : Value) : (v.token sc).Spells := by
  cases v <;> first | exact .pure _ | exact (spells_shown hsc _).bind fun _ => .pure _

theorem regenerates_token (hsc : sc.Regenerates) (v : Value) : (v.token sc).Regenerates :=
  (spells_token hsc v).regenerates

end Value

/-! ### Printing objects -/

/-- Operations that print and generate objects, and spell them out. -/
structure Writing.Regenerates (w : Writing) : Prop where
  shown : ∀ r, (w.shown r).Spells
  quoted : ∀ r, (w.quoted r).Spells
  generate : ∀ r, (w.generate r).Spells

namespace Writing

open Zpl.Action

variable {w : Writing} {α : Type}

/-- The scribe of such operations. -/
theorem Regenerates.scribe (hw : w.Regenerates) (s : Store) :
    Scribe.Regenerates { facts := s.directory, shown := w.shown, quoted := w.quoted } :=
  ⟨hw.shown, hw.quoted⟩

/-- Whatever is done with the scribe of such operations. -/
theorem Regenerates.withScribe (hw : w.Regenerates) {f : Scribe Action → Action α}
    (hf : ∀ sc : Scribe Action, sc.Regenerates → (f sc).Spells) :
    (w.scribe >>= f).Spells :=
  ⟨fun around s hs => (hf _ (hw.scribe s)).regenerates around s hs,
    fun around s hs => (hf _ (hw.scribe s)).offline around s hs,
    fun around around' s heard hs => (hf _ (hw.scribe s)).same around around' s heard hs,
    fun around s hs => (hf _ (hw.scribe s)).hushed around s hs⟩

theorem textOf_offline (v : Value) : FailsOffline (textOf v) := by
  cases v with
  | text t => exact .ok t
  | _ => exact .error nofun

theorem spells_textsOf (lines : List Value) :
    (lines.mapM fun line => (liftM (textOf line) : Action Text)).Spells := by
  rw [mapM_lift]
  exact .lift (.mapM textOf_offline lines)

theorem spells_generateFor (hw : w.Regenerates) (v : Value) : (w.generateFor v).Spells :=
  .dispatchUnitOn _ v (by decide) (by decide) _ hw.generate

theorem regenerates_generateFor (hw : w.Regenerates) (v : Value) :
    (w.generateFor v).Regenerates := (spells_generateFor hw v).regenerates

theorem spells_generateBehind (hw : w.Regenerates) (v : Value) : (w.generateBehind v).Spells := by
  unfold generateBehind
  split
  · exact .pure _
  · exact (spells_generateFor hw v).bind fun _ => (Spells.read v (by decide)).bind fun _ => .pure _

theorem write_offline (n : Number) : FailsOffline n.write := by
  cases n with
  | int n => exact .write n
  | float x => exact .ok _

theorem command_offline (form : Shape) : FailsOffline form.command := by
  refine .bind (write_offline _) fun _ => .bind (write_offline _) fun _ => ?_
  refine .bind (.write _) fun _ => ?_
  split
  · exact .bind (.write _) fun _ => .ok _
  · exact .ok _
  · exact .ok _

theorem spells_bodyCommands {sc : Scribe Action} (hsc : sc.Regenerates) (c : Component) :
    (c.bodyCommands sc).Spells := by
  unfold Component.bodyCommands
  split
  · exact .pure _
  · exact .bind (.lift (.write _)) fun _ => (Value.spells_shown hsc _).bind fun _ =>
      (Value.spells_shown hsc _).bind fun _ => .pure _
  · exact .bind (.lift (.write _)) fun _ => .bind (.lift (.write _)) fun _ =>
      (Value.spells_shown hsc _).bind fun _ => .pure _
  · exact .bind (.lift (command_offline _)) fun _ => .pure _

theorem spells_rendered {sc : Scribe Action} (hsc : sc.Regenerates) (c : Component) :
    (c.rendered sc).Spells :=
  .bind ((Value.spells_shown hsc _).bind fun _ => (Value.spells_shown hsc _).bind fun _ =>
    (spells_bodyCommands hsc c).bind fun _ => .pure _) fun _ => .pure _

/-- As `Spells`, for an action that replaces the instruction of one component and relies on it that
this is no ready-made one. -/
def SpellsAt (r : Ref) (x : Action α) : Prop :=
  ∀ (around : Surroundings) (s : Store), s.IsGenuine →
    (∃ c, s.component? r = some c ∧ c.kind.isRaw = false) →
      s.Regenerated (fun _ => True) (x.after around s) ∧ FailsOffline (x.outcome around s) ∧
        (∀ around', around.isStrict = around'.isStrict → x around s = x around' s) ∧
          s.Hushed (x.after around s)

theorem SpellsAt.replace (r : Ref) (v : Value) :
    SpellsAt r (modifyComponent r fun c => { c with instruction := v }) := by
  rintro around s - ⟨c, hc, hraw⟩
  rw [after_modifyComponent hc, outcome_eq_ok (modifyComponent_eq_ok hc _ around)]
  exact ⟨.put_instruction hc hraw trivial v, .ok (), fun around' _ => by
    rw [modifyComponent_eq_ok hc, modifyComponent_eq_ok hc], .of_events rfl⟩

/-- What is generated first leaves the component in place, and still no ready-made one. -/
theorem SpellsAt.bind {β : Type} {r : Ref} {x : Action α} {f : α → Action β}
    (hx : x.Spells) (hf : ∀ a, SpellsAt r (f a)) : SpellsAt r (x >>= f) := by
  rintro around s hs ⟨c, hc, hraw⟩
  have before := hx.regenerates around s hs
  obtain ⟨v, hv, -⟩ := before.component? hc
  have rest (a : α) := hf a around _ (before.isGenuine hs) ⟨_, hv, hraw⟩
  refine ⟨.bind before fun a _ => before.trans (rest a).1, ?_, fun around' heard => ?_,
    .bind (hx.hushed around s hs) fun a _ => (rest a).2.2.2⟩
  · rw [outcome_bind]
    cases hok : x.outcome around s with
    | ok a => exact (rest a).2.1
    | error fault => exact .error (hx.offline around s hs fault hok)
  · rw [bind_apply, bind_apply, ← hx.same around around' s heard hs]
    cases hok : x around s with
    | ok a t =>
      have last := (rest a).2.2.1 around' heard
      rwa [after_eq_ok hok] at last
    | error fault t => rfl

theorem SpellsAt.bind_scribe {r : Ref} (hw : w.Regenerates) {f : Scribe Action → Action α}
    (hf : ∀ sc : Scribe Action, sc.Regenerates → SpellsAt r (f sc)) :
    SpellsAt r (w.scribe >>= f) :=
  fun around s hs => hf _ (hw.scribe s) around s hs

theorem SpellsAt.of_spells {r : Ref} {x : Action α} (hx : x.Spells) : SpellsAt r x :=
  fun around s hs _ => ⟨hx.regenerates around s hs, hx.offline around s hs,
    fun around' heard => hx.same around around' s heard hs, hx.hushed around s hs⟩

/-- Generating a component that is no ready-made instruction. -/
theorem spellsAt_generateComponent (hw : w.Regenerates) (r : Ref) :
    SpellsAt r (w.generateComponent r) := by
  refine .bind (.component r) fun c => ?_
  split
  · exact .of_spells (.pure _)
  · refine .bind (spells_generateBehind hw _) fun behind => .bind (.component r) fun c' => ?_
    refine .bind_scribe hw fun sc hsc => .bind (spells_rendered hsc c') fun bars => ?_
    exact .bind (spells_textsOf _) fun lines => .replace r _
  · refine .bind (.component r) fun c' => .bind_scribe hw fun sc hsc => ?_
    exact .bind (spells_rendered hsc c') fun t => .replace r _

theorem spells_generateComponent (hw : w.Regenerates) (r : Ref) :
    (w.generateComponent r).Spells := by
  have spells (around : Surroundings) (s : Store) (hs : s.IsGenuine) :
      s.Regenerated (fun _ => True) ((w.generateComponent r).after around s) ∧
        FailsOffline ((w.generateComponent r).outcome around s) ∧
          (∀ around', around.isStrict = around'.isStrict →
              w.generateComponent r around s = w.generateComponent r around' s) ∧
            s.Hushed ((w.generateComponent r).after around s) := by
    cases hc : s.component? r with
    | none =>
      have missing (around : Surroundings) :
          w.generateComponent r around s = .error .missingAttribute s := by
        have reads : component r around s = demand (s.component? r) around s := rfl
        rw [generateComponent, bind_apply, reads, hc]
        rfl
      simp only [after, outcome, missing]
      exact ⟨.refl _ s, .error fun _ h => Fault.noConfusion h, fun _ _ => trivial, .of_events rfl⟩
    | some c =>
      cases hraw : c.kind.isRaw with
      | false => exact spellsAt_generateComponent hw r around s hs ⟨c, hc, hraw⟩
      | true =>
        have stays (around : Surroundings) : w.generateComponent r around s = .ok () s := by
          rw [generateComponent, bind_apply, component_eq_ok hc]
          cases hk : c.kind with
          | raw size =>
            simp only [hk]
            rfl
          | _ =>
            rw [hk] at hraw
            cases hraw
        simp only [after, outcome, stays]
        exact ⟨.refl _ s, .ok (), fun _ _ => trivial, .of_events rfl⟩
  exact ⟨fun around s hs => (spells around s hs).1, fun around s hs => (spells around s hs).2.1,
    fun around around' s heard hs => (spells around s hs).2.2.1 around' heard,
    fun around s hs => (spells around s hs).2.2.2⟩

/-! ### Labels -/

theorem spells_generateFrom (hw : w.Regenerates) (l : Ref) (fuel place : Nat) :
    (w.generateFrom l fuel place).Spells := by
  induction fuel generalizing place with
  | zero => exact .pure _
  | succ fuel ih =>
    refine .bind (.label l) fun lab => ?_
    split
    · exact .pure _
    · exact (spells_generateFor hw _).bind fun _ => (Spells.read _ (by decide)).bind fun _ =>
        (ih _).bind fun _ => .pure _

theorem wholeText_offline (v : Value) : FailsOffline (wholeText v) := by
  refine .bind ?_ fun _ => .bind (.arithmetic _) fun n => .write n
  unfold Value.toNumber
  split
  · exact .ok _
  · exact .error nofun

theorem spells_noteGenerated (l : Ref) (count : Nat) : (noteGenerated l count).Spells :=
  .bind (.label l) fun _ => .logWorded (.bind (.lift (wholeText_offline _)) fun _ =>
    .bind (.lift (wholeText_offline _)) fun _ => .pure _) _

theorem spells_code (hw : w.Regenerates) (l : Ref) : (w.code l).Spells :=
  .bind (.label l) fun _ => (spells_generateFrom hw l _ _).bind fun _ =>
    (spells_noteGenerated l _).bind fun _ => (spells_textsOf _).bind fun _ => .pure _

/-! ### Objects within objects -/

theorem spells_quotedComponent (hw : w.Regenerates) (c : Component) :
    (w.quotedComponent c).Spells :=
  hw.withScribe fun _ hsc => (Value.spells_quoted hsc _).bind fun _ =>
    (Value.spells_shown hsc _).bind fun _ => (Value.spells_shown hsc _).bind fun _ => .pure _

theorem spells_quotedWindow (hw : w.Regenerates) (record : Ref) : (w.quotedWindow record).Spells :=
  (hw.quoted record).bind fun _ => .pure _

theorem spells_quotedMethod (hw : w.Regenerates) (x : Thing) (m : BoundMethod) :
    (w.quotedMethod x m).Spells := by
  unfold quotedMethod
  split
  · exact .pure _
  · split
    · exact .bind (.pure _) fun _ => .pure _
    · exact hw.withScribe fun _ hsc => (Value.spells_quoted hsc _).bind fun _ => .pure _

section

variable {inner : List Ref → Writing} (hinner : ∀ around, (inner around).Regenerates)

include hinner

theorem spells_quotedContent (around : List Ref) (r : Ref) (v : Value) :
    (quotedContent inner around r v).Spells := by
  unfold quotedContent
  split
  · exact .pure _
  · exact (hinner _).withScribe fun _ hsc => Value.spells_quoted hsc v

theorem spells_quotedView (around : List Ref) (r : Ref) (x : Thing) :
    (quotedView inner around r x).Spells := by
  unfold quotedView
  split
  · exact .pure _
  · exact .bind .get fun _ => (hinner _).withScribe fun _ hsc =>
      (Value.spells_quoted hsc _).bind fun _ => .pure _

theorem spells_quotedSet (around : List Ref) (r : Ref) (members : List Value) :
    (quotedSet inner around r members).Spells := by
  unfold quotedSet
  split
  · exact .pure _
  · split
    · exact .pure _
    · exact (hinner _).withScribe fun _ hsc =>
        (Value.spells_quotedItems hsc members).bind fun _ => .pure _

theorem spells_shownObject (around : List Ref) (r : Ref) :
    (shownObject inner around r).Spells := by
  refine .bind (.thing r) fun x => ?_
  split
  · exact .lift (textOf_offline _)
  · exact .bind (.dispatch r (by decide) _ ((spells_code (hinner _) r).bind fun _ => .pure _))
      fun _ => .lift (textOf_offline _)
  · exact spells_quotedContent hinner _ _ _
  · exact spells_quotedView hinner _ _ _
  · exact (hinner _).quoted _
  · exact spells_quotedSet hinner _ _ _
  · exact spells_quotedMethod (hinner _) _ _
  · exact .pure _

theorem spells_quotedObject (around : List Ref) (r : Ref) :
    (quotedObject inner around r).Spells := by
  refine .bind (.thing r) fun x => ?_
  split
  · exact spells_quotedComponent (hinner _) _
  · exact spells_quotedContent hinner _ _ _
  · exact spells_quotedView hinner _ _ _
  · exact spells_quotedWindow (hinner _) _
  · exact spells_quotedSet hinner _ _ _
  · exact spells_quotedMethod (hinner _) _ _
  · exact .pure _

end

/-- However deep objects lie within each other, printing them changes instructions only. -/
theorem regenerates_within (fuel : Nat) (around : List Ref) : (within fuel around).Regenerates := by
  induction fuel generalizing around with
  | zero => exact ⟨fun _ => .throw nofun, fun _ => .throw nofun, fun _ => .throw nofun⟩
  | succ fuel ih =>
    exact ⟨spells_shownObject ih around, spells_quotedObject ih around,
      spells_generateComponent (ih around)⟩

end Writing

/-! ### What callers print -/

namespace Action

variable {α : Type}

theorem outcome_writing (around : Surroundings) (s : Store) :
    writing.outcome around s = .ok (Writing.within s.depth []) := rfl

theorem after_writing (around : Surroundings) (s : Store) : writing.after around s = s := rfl

/-- Whatever is done with the operations that print the objects of a store. -/
theorem Spells.withWriting {f : Writing → Action α}
    (hf : ∀ w : Writing, w.Regenerates → (f w).Spells) : (writing >>= f).Spells := by
  constructor
  · intro around s hs
    rw [after_bind, outcome_writing, after_writing]
    exact (hf _ (Writing.regenerates_within s.depth [])).regenerates around s hs
  · intro around s hs
    rw [outcome_bind, outcome_writing, after_writing]
    exact (hf _ (Writing.regenerates_within s.depth [])).offline around s hs
  · exact fun around around' s heard hs =>
      (hf _ (Writing.regenerates_within s.depth [])).same around around' s heard hs
  · intro around s hs
    rw [after_bind, outcome_writing, after_writing]
    exact (hf _ (Writing.regenerates_within s.depth [])).hushed around s hs

/-- Whatever is done with the scribe of a store. -/
theorem Spells.withScribe {f : Scribe Action → Action α}
    (hf : ∀ sc : Scribe Action, sc.Regenerates → (f sc).Spells) : (scribe >>= f).Spells := by
  have reads : scribe >>= f = writing >>= fun w => w.scribe >>= f := by simp [scribe]
  rw [reads]
  exact withWriting fun w hw => hw.withScribe hf

/-- As `Spells.withScribe`, if only the store is of interest. -/
theorem Regenerates.withScribe {f : Scribe Action → Action α}
    (hf : ∀ sc : Scribe Action, sc.Regenerates → (f sc).Regenerates) :
    (scribe >>= f).Regenerates := fun around s hs =>
  hf _ ((Writing.regenerates_within s.depth []).scribe s) around s hs

theorem spells_shown (v : Value) : (shown v).Spells :=
  .withScribe fun _ hsc => Value.spells_shown hsc v

theorem spells_token (v : Value) : (token v).Spells :=
  .withScribe fun _ hsc => Value.spells_token hsc v

theorem spells_code (l : Ref) : (code l).Spells :=
  .withWriting fun _ hw => Writing.spells_code hw l

theorem regenerates_shown (v : Value) : (shown v).Regenerates := (spells_shown v).regenerates

theorem regenerates_quoted (v : Value) : (quoted v).Regenerates :=
  .withScribe fun _ hsc => Value.regenerates_quoted hsc v

theorem regenerates_generate (r : Ref) : (generate r).Regenerates :=
  (Spells.withWriting fun _ hw => hw.generate r).regenerates

theorem regenerates_code (l : Ref) : (code l).Regenerates := (spells_code l).regenerates

/-- A document spells a label out. -/
theorem spells_document (l : Ref) : (document l).Spells :=
  .bind (.dispatch l (by decide) _ ((spells_code l).bind fun _ => .pure _)) fun _ =>
    .bind (.label l) fun _ => (spells_shown _).bind fun _ => (spells_shown _).bind fun _ =>
      .bind .directory fun _ => .bind (.lift (Writing.textOf_offline _)) fun _ => .pure _

theorem regenerates_document (l : Ref) : (document l).Regenerates := (spells_document l).regenerates

end Action

end Zpl
