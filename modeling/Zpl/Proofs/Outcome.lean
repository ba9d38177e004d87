import Zpl.Store.Method.Call

/-!
# What an action comes to

An action ends with a result or a fault, and either way it leaves a store. The two are read apart
here: `outcome` is what callers see, `after` is what they find. Theorems about a sequence of actions
then follow its binds, one equation for each.

## Main definitions

* `Action.outcome` — the result of an action, or why there is none.
* `Action.after` — the store that an action leaves.
* `Store.IsGenuine` — no caller has put anything in the place of a method.

## Main results

* `Action.outcome_bind`, `Action.after_bind` — a sequence of two actions.
* `Action.outcome_dispatch`, `Action.after_dispatch` — where nothing was put in its place, a method
  is carried out.
-/

namespace Zpl

/-- What a computation goes on with is the result of its first part. -/
theorem exists_of_bind_eq_ok {ε α β : Type} {x : Except ε α} {f : α → Except ε β} {b : β}
    (h : x >>= f = .ok b) : ∃ a, x = .ok a ∧ f a = .ok b := by
  cases x with
  | error fault => cases h
  | ok a => exact ⟨a, rfl, h⟩

namespace Action

variable {α β : Type}

/-- The result of an action, or why there is none. -/
def outcome (x : Action α) (around : Surroundings) (s : Store) : Except Fault α :=
  match x around s with
  | .ok a _ => .ok a
  | .error fault _ => .error fault

/-- The store that an action leaves, whether it fails or not. -/
def after (x : Action α) (around : Surroundings) (s : Store) : Store :=
  match x around s with
  | .ok _ t => t
  | .error _ t => t

theorem outcome_congr {x y : Action α} {around around' : Surroundings} {s t : Store}
    (h : x around s = y around' t) : x.outcome around s = y.outcome around' t := by
  rw [outcome, h, outcome]

theorem after_congr {x y : Action α} {around around' : Surroundings} {s t : Store}
    (h : x around s = y around' t) : x.after around s = y.after around' t := by
  rw [after, h, after]

theorem outcome_eq_ok {x : Action α} {around : Surroundings} {s t : Store} {a : α}
    (h : x around s = .ok a t) : x.outcome around s = .ok a := by
  rw [outcome, h]

theorem after_eq_ok {x : Action α} {around : Surroundings} {s t : Store} {a : α}
    (h : x around s = .ok a t) : x.after around s = t := by
  rw [after, h]

/-- What an action does, from its result and the store that it leaves. -/
theorem eq_ok_of_outcome {x : Action α} {around : Surroundings} {s : Store} {a : α}
    (h : x.outcome around s = .ok a) : x around s = .ok a (x.after around s) := by
  unfold outcome at h
  unfold after
  split at h <;> cases h
  rename_i h
  rw [h]

/-- An attempt is the outcome of an action and the store that it leaves. -/
theorem attempt_eq (c : Circumstances) (x : Action α) (s : Store) :
    x.attempt c s = (x.outcome (.within c s.depth) s, x.after (.within c s.depth) s) := by
  simp only [attempt, attemptIn, outcome, after]
  cases x (.within c s.depth) s <;> rfl

/-! ### Sequences -/

/-- A sequence of two actions of which the first is known. -/
theorem bind_eq {x : Action α} {f : α → Action β} {around : Surroundings} {s t : Store} {a : α}
    {o : EStateM.Result Fault Store β} (hx : x around s = .ok a t) (hf : f a around t = o) :
    (x >>= f) around s = o := by
  rw [bind_apply, hx]
  exact hf

theorem outcome_bind (x : Action α) (f : α → Action β) (around : Surroundings) (s : Store) :
    (x >>= f).outcome around s =
      match x.outcome around s with
      | .ok a => (f a).outcome around (x.after around s)
      | .error fault => .error fault := by
  simp only [outcome, after, bind_apply]
  cases x around s <;> rfl

theorem after_bind (x : Action α) (f : α → Action β) (around : Surroundings) (s : Store) :
    (x >>= f).after around s =
      match x.outcome around s with
      | .ok a => (f a).after around (x.after around s)
      | .error _ => x.after around s := by
  simp only [outcome, after, bind_apply]
  cases x around s <;> rfl

/-- What two actions in a row come to, the second comes to. -/
theorem exists_of_outcome_bind {x : Action α} {f : α → Action β} {around : Surroundings}
    {s : Store} {b : β} (h : (x >>= f).outcome around s = .ok b) :
    ∃ a, x.outcome around s = .ok a ∧ (f a).outcome around (x.after around s) = .ok b := by
  rw [outcome_bind] at h
  split at h
  · exact ⟨_, ‹_›, h⟩
  · cases h

@[simp] theorem outcome_pure (a : α) (around : Surroundings) (s : Store) :
    (pure a : Action α).outcome around s = .ok a := rfl

@[simp] theorem after_pure (a : α) (around : Surroundings) (s : Store) :
    (pure a : Action α).after around s = s := rfl

@[simp] theorem outcome_throw (fault : Fault) (around : Surroundings) (s : Store) :
    (throw fault : Action α).outcome around s = .error fault := rfl

@[simp] theorem after_throw (fault : Fault) (around : Surroundings) (s : Store) :
    (throw fault : Action α).after around s = s := rfl

@[simp] theorem outcome_lift (e : Except Fault α) (around : Surroundings) (s : Store) :
    (liftM e : Action α).outcome around s = e := by cases e <;> rfl

@[simp] theorem after_lift (e : Except Fault α) (around : Surroundings) (s : Store) :
    (liftM e : Action α).after around s = s := by cases e <;> rfl

/-- Values that are turned into something one by one, without a look at the store. -/
theorem mapM_lift (g : α → Except Fault β) (as : List α) :
    (as.mapM fun a => (liftM (g a) : Action β)) = liftM (as.mapM g) := by
  induction as with
  | nil => rfl
  | cons a as ih =>
    rw [List.mapM_cons, List.mapM_cons, ih]
    cases g a with
    | error fault => rfl
    | ok b => cases as.mapM g <;> rfl

@[simp] theorem outcome_get (around : Surroundings) (s : Store) :
    (get : Action Store).outcome around s = .ok s := rfl

@[simp] theorem after_get (around : Surroundings) (s : Store) :
    (get : Action Store).after around s = s := rfl

theorem tryCatch_apply (x : Action α) (handler : Fault → Action α) (around : Surroundings)
    (s : Store) :
    (tryCatch x handler : Action α) around s =
      match x around s with
      | .ok a t => .ok a t
      | .error fault t => handler fault around t := by
  change EStateM.tryCatch (x around) (fun fault => handler fault around) s = _
  unfold EStateM.tryCatch
  cases x around s <;> rfl

theorem outcome_tryCatch (x : Action α) (handler : Fault → Action α) (around : Surroundings)
    (s : Store) :
    (tryCatch x handler : Action α).outcome around s =
      match x.outcome around s with
      | .ok a => .ok a
      | .error fault => (handler fault).outcome around (x.after around s) := by
  simp only [outcome, after, tryCatch_apply]
  cases x around s <;> rfl

theorem after_tryCatch (x : Action α) (handler : Fault → Action α) (around : Surroundings)
    (s : Store) :
    (tryCatch x handler : Action α).after around s =
      match x.outcome around s with
      | .ok _ => x.after around s
      | .error fault => (handler fault).after around (x.after around s) := by
  simp only [outcome, after, tryCatch_apply]
  cases x around s <;> rfl

/-! ### Looking at a store -/

@[simp] theorem outcome_directory (around : Surroundings) (s : Store) :
    directory.outcome around s = .ok s.directory := rfl

@[simp] theorem after_directory (around : Surroundings) (s : Store) :
    directory.after around s = s := rfl

@[simp] theorem outcome_circumstances (around : Surroundings) (s : Store) :
    circumstances.outcome around s = .ok around.circumstances := rfl

@[simp] theorem after_circumstances (around : Surroundings) (s : Store) :
    circumstances.after around s = s := rfl

@[simp] theorem outcome_capacity (around : Surroundings) (s : Store) :
    capacity.outcome around s = .ok around.circumstances.capacity := rfl

@[simp] theorem after_capacity (around : Surroundings) (s : Store) :
    capacity.after around s = s := rfl

@[simp] theorem outcome_demand_some (a : α) (around : Surroundings) (s : Store) :
    (demand (some a)).outcome around s = .ok a := rfl

@[simp] theorem after_demand (a? : Option α) (around : Surroundings) (s : Store) :
    (demand a?).after around s = s := by cases a? <;> rfl

@[simp] theorem after_component (r : Ref) (around : Surroundings) (s : Store) :
    (component r).after around s = s := after_demand (s.component? r) around s

@[simp] theorem after_label (r : Ref) (around : Surroundings) (s : Store) :
    (label r).after around s = s := after_demand (s.label? r) around s

@[simp] theorem after_thing (r : Ref) (around : Surroundings) (s : Store) :
    (thing r).after around s = s := after_demand (s.thing? r) around s

theorem outcome_label {s : Store} {r : Ref} {l : Label} (h : s.label? r = some l)
    (around : Surroundings) : (label r).outcome around s = .ok l := by
  have reads : (label r).outcome around s = (demand (s.label? r)).outcome around s := rfl
  rw [reads, h]
  rfl

/-! ### Changing a store -/

theorem after_modifyComponent {s : Store} {r : Ref} {c : Component} (h : s.component? r = some c)
    (f : Component → Component) (around : Surroundings) :
    (modifyComponent r f).after around s = s.put r (.component (f c)) := by
  rw [after, modifyComponent_eq_ok h]

@[simp] theorem outcome_log (level : Level) (source : Source) (message : Text)
    (around : Surroundings) (s : Store) :
    (log level source message).outcome around s = .ok () := rfl

@[simp] theorem after_log (level : Level) (source : Source) (message : Text)
    (around : Surroundings) (s : Store) :
    (log level source message).after around s =
      { s with events := s.events ++ [.log level source message] } := rfl

/-- Only if the log is strict, it matters whether a record can be put into words. -/
theorem outcome_logWorded (level : Level) (source : Source) (words : Action Text)
    (around : Surroundings) (s : Store) :
    (logWorded level source words).outcome around s =
      match words.outcome around s with
      | .ok _ => .ok ()
      | .error fault => if around.isStrict then .error fault else .ok () := by
  simp only [outcome, logWorded]
  cases words around s with
  | ok message t => rfl
  | error fault t => cases around.isStrict <;> rfl

/-- Whether the log is strict or not, what is left is what comes of the words, and the record if
there are any. -/
theorem after_logWorded (level : Level) (source : Source) (words : Action Text)
    (around : Surroundings) (s : Store) :
    (logWorded level source words).after around s =
      (do log level source (← words) : Action Unit).after around s := by
  simp only [after, logWorded, bind_apply]
  cases words around s with
  | ok message t => rfl
  | error fault t => cases around.isStrict <;> rfl

end Action

/-- Whatever a store holds, there is room for operations that call each other twice. -/
theorem Store.depth_eq (s : Store) : ∃ fuel, s.depth = fuel + 2 := by
  refine ⟨s.depth - 2, ?_⟩
  have : 2 * 2 ≤ s.depth := Nat.mul_le_mul (by omega) (by omega)
  omega

/-- Texts agree if they are equal. -/
theorem Store.agree_text (s : Store) (t u : Text) : s.agree (.text t) (.text u) = .ok (t == u) := by
  obtain ⟨fuel, hfuel⟩ := s.depth_eq
  have same : (Value.text t).same (.text u) = (t == u) := rfl
  rw [agree, hfuel, agreeWithin, ← same]
  cases (Value.text t).same (.text u) <;> rfl

/-! ### Methods in their places -/

/-- The methods by which objects work on each other, and what a USB device keeps for all of its
kind. -/
def Store.calledNames : List String :=
  ["generate_instruction", "get_label_code", "to_zpl", "set_label_size", "add_component",
    "add_all_components", "set_margin_left", "set_margin_top", "set_margin_right",
    "set_margin_bottom", "set_margins", "get_barcode_length", "describe", "send", "control",
    Backend.chunkField]

/-- No caller has put anything in the place of a method. -/
def Store.IsGenuine (s : Store) : Prop :=
  ∀ r, ∀ name ∈ calledNames, s.attached.lookup (r, name) = none

theorem Store.IsGenuine.congr {s t : Store} (h : s.IsGenuine) (ha : t.attached = s.attached) :
    t.IsGenuine := by
  intro r name hname
  rw [ha]
  exact h r name hname

namespace Action

variable {α : Type} {s : Store} {name : String}

/-- Where nothing was put in its place, a method is carried out. -/
theorem outcome_dispatch (hs : s.IsGenuine) (hname : name ∈ Store.calledNames) (r : Ref)
    (values : List Value) (own : Action Value) (around : Surroundings) :
    (dispatch r name values own).outcome around s = own.outcome around s := by
  rw [outcome, dispatch_of_unattached (hs r name hname), outcome]

theorem after_dispatch (hs : s.IsGenuine) (hname : name ∈ Store.calledNames) (r : Ref)
    (values : List Value) (own : Action Value) (around : Surroundings) :
    (dispatch r name values own).after around s = own.after around s := by
  rw [after, dispatch_of_unattached (hs r name hname), after]

variable {sort? : Store → Ref → Option α} {r : Ref} {a : α}

/-- Where nothing was put in its place, a method is carried out on what has it. -/
theorem outcome_dispatchUnitOn (hs : s.IsGenuine) (hname : name ∈ Store.calledNames)
    (ha : sort? s r = some a) (values : List Value) (own : Ref → Action Unit)
    (around : Surroundings) :
    (dispatchUnitOn sort? (.object r) name values own).outcome around s =
      (own r).outcome around s := by
  simp only [dispatchUnitOn, dispatchOn, outcome_bind, outcome_dispatch hs hname, outcome_get,
    after_get, ha]
  cases (own r).outcome around s <;> rfl

theorem after_dispatchUnitOn (hs : s.IsGenuine) (hname : name ∈ Store.calledNames)
    (ha : sort? s r = some a) (values : List Value) (own : Ref → Action Unit)
    (around : Surroundings) :
    (dispatchUnitOn sort? (.object r) name values own).after around s =
      (own r).after around s := by
  simp only [dispatchUnitOn, dispatchOn, after_bind, outcome_dispatch hs hname,
    after_dispatch hs hname, outcome_bind, outcome_get, after_get, ha]
  cases (own r).outcome around s <;> rfl

end Action

end Zpl
