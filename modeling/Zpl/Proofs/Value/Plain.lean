import Zpl.Store.Spelling

/-!
# Values without objects

A value in which no object occurs is printed without a look at the store: whoever prints it, the
text is the same, and nothing changes meanwhile. A component is printed in this way if all that its
instruction shows is plain. What the checked attributes hold is always plain, so this is a matter of
the attributes that are stored as given.

## Main definitions

* `Value.IsPlain` — no object occurs in a value.
* `Component.IsPlain` — no object occurs in what the instruction of a component shows.

## Main results

* `Value.shown_eq` — a plain value has one text.
* `Component.rendered_eq` — a plain component has one instruction.
-/

namespace Zpl

/-- Computations without state are steps like all others. -/
instance {σ : Type} : LawfulMonadLift (Except Fault) (EStateM Fault σ) where
  monadLift_pure _ := rfl
  monadLift_bind x _ := by cases x <;> rfl

namespace Value

mutual

/-- No object occurs in a value. -/
def IsPlain : Value → Prop
  | .object _ => False
  | .tuple vs => ArePlain vs
  | .list vs => ArePlain vs
  | .record keys values => ArePlain keys ∧ ArePlain values
  | _ => True

/-- No object occurs in any of some values. -/
def ArePlain : List Value → Prop
  | [] => True
  | v :: vs => IsPlain v ∧ ArePlain vs

end

variable {m : Type → Type} [Monad m] [LawfulMonad m] [MonadLiftT (Except Fault) m]
  [LawfulMonadLiftT (Except Fault) m]

mutual

/-- A plain value has one quoted form, whoever quotes it. -/
theorem quoted_eq (sc : Scribe m) : ∀ v : Value, v.IsPlain →
    v.quoted sc = (liftM (v.quoted .plain) : m Text)
  | .none, _ => by simp [quoted]
  | .bool true, _ => by simp [quoted]
  | .bool false, _ => by simp [quoted]
  | .int n, _ => by simp [quoted]
  | .float x, _ => by simp [quoted]
  | .text t, _ => by simp [quoted]
  | .bytes bs, _ => by simp [quoted]
  | .tuple vs, h => by
    unfold quoted
    rw [quotedItems_eq sc vs h]
    simp
  | .list vs, h => by
    unfold quoted
    rw [quotedItems_eq sc vs h]
    simp
  | .record keys values, h => by
    unfold quoted
    rw [quotedItems_eq sc keys h.1, quotedItems_eq sc values h.2]
    simp
  | .object _, h => h.elim

theorem quotedItems_eq (sc : Scribe m) : ∀ vs : List Value, ArePlain vs →
    quotedItems sc vs = (liftM (quotedItems .plain vs) : m (List Text))
  | [], _ => by simp [quotedItems]
  | v :: vs, h => by
    unfold quotedItems
    rw [quoted_eq sc v h.1, quotedItems_eq sc vs h.2]
    simp

end

/-- A plain value has one text, whoever prints it. -/
theorem shown_eq (sc : Scribe m) {v : Value} (h : v.IsPlain) :
    v.shown sc = (liftM (v.shown .plain) : m Text) := by
  cases v with
  | text t => simp
  | object r => exact h.elim
  | _ => exact quoted_eq sc _ h

/-- A plain value comes to one token, whoever prints it. -/
theorem token_eq (sc : Scribe m) {v : Value} (h : v.IsPlain) :
    v.token sc = (liftM (v.token .plain : Except Fault Text) : m Text) := by
  cases v with
  | none => simp [token]
  | _ =>
    simp only [token, shown_eq sc h]
    simp

/-- Whether a plain value counts as true is the same for every store. -/
theorem truth_eq (d : Directory) {v : Value} (h : v.IsPlain) : v.truth d = v.truth .empty := by
  cases v with
  | object r => exact h.elim
  | _ => rfl

end Value

namespace Action

/-- What does the same with every scribe does not look at the store. -/
theorem scribe_bind_eq {α : Type} {f : Scribe Action → Action α} {e : Except Fault α}
    (h : ∀ sc, f sc = liftM e) : (scribe >>= f) = liftM e := by
  funext around s
  obtain ⟨sc, hsc⟩ : ∃ sc, scribe around s = .ok sc s := ⟨_, rfl⟩
  rw [bind_apply, hsc]
  exact congrFun (congrFun (h sc) around) s

variable {v : Value}

theorem shown_eq (h : v.IsPlain) : shown v = liftM (v.shown .plain) :=
  scribe_bind_eq fun sc => Value.shown_eq sc h

theorem quoted_eq (h : v.IsPlain) : quoted v = liftM (v.quoted .plain) :=
  scribe_bind_eq fun sc => Value.quoted_eq sc v h

theorem token_eq (h : v.IsPlain) : token v = liftM (v.token .plain) :=
  scribe_bind_eq fun sc => Value.token_eq sc h

end Action

namespace Component

/-- No object occurs in what the instruction of a component shows. -/
def IsPlain (c : Component) : Prop :=
  match c.kind with
  | .raw _ => True
  | .text line =>
    c.x.IsPlain ∧ c.y.IsPlain ∧ c.labelWidth.IsPlain ∧ c.alignment.IsPlain ∧
      line.hexEscapes.IsPlain
  | .barcode b => c.x.IsPlain ∧ c.y.IsPlain ∧ b.data.IsPlain ∧ b.checkDigit.IsPlain
  | .shape _ => c.x.IsPlain ∧ c.y.IsPlain

variable {m : Type → Type} [Monad m] [LawfulMonad m] [MonadLiftT (Except Fault) m]
  [LawfulMonadLiftT (Except Fault) m]

/-- A plain component has one list of commands between its origin and its separator. -/
theorem bodyCommands_eq (sc : Scribe m) {c : Component} (h : c.IsPlain) :
    c.bodyCommands sc = (liftM (c.bodyCommands .plain) : m (List Command)) := by
  unfold IsPlain at h
  unfold bodyCommands
  cases hk : c.kind with
  | raw size => simp
  | text line =>
    rw [hk] at h
    obtain ⟨-, -, hwidth, halignment, hescapes⟩ := h
    simp only [Value.shown_eq sc hwidth, Value.shown_eq sc halignment, TextLine.commands,
      Value.truth_eq sc.facts hescapes, Value.truth_eq Scribe.plain.facts hescapes]
    simp
  | barcode b =>
    rw [hk] at h
    obtain ⟨-, -, hdata, hcheck⟩ := h
    simp only [Value.shown_eq sc hdata, Barcode.commands,
      Value.truth_eq sc.facts hcheck, Value.truth_eq Scribe.plain.facts hcheck]
    simp
  | shape form => simp

/-- A plain component has one instruction, whoever prints it. -/
theorem rendered_eq (sc : Scribe m) {c : Component} (h : c.IsPlain)
    (hraw : ∀ size, c.kind ≠ .raw size) :
    c.rendered sc = (liftM (c.rendered .plain) : m Text) := by
  have position : c.x.IsPlain ∧ c.y.IsPlain := by
    unfold IsPlain at h
    cases hk : c.kind with
    | raw size => exact absurd hk (hraw size)
    | text line =>
      rw [hk] at h
      exact ⟨h.1, h.2.1⟩
    | barcode b =>
      rw [hk] at h
      exact ⟨h.1, h.2.1⟩
    | shape form =>
      rw [hk] at h
      exact h
  unfold rendered commands
  simp only [Value.shown_eq sc position.1, Value.shown_eq sc position.2, bodyCommands_eq sc h]
  simp

end Component

end Zpl
