import Mathlib.Logic.Basic
import Zpl.Proofs.Outcome

/-!
# Changing instructions only

The text of a label is what its components say once they are generated anew, so printing anything
may change the store. It changes little: the store afterwards has other instructions in some
components and a few more log records, and nothing else. Ready-made instructions are never among
those that change.

## Main definitions

* `Store.Reprinted` — a store with other instructions in some of its components.
* `Store.Regenerated` — the same, with more log records.
* `Action.Regenerates` — an action that does no more than that, wherever methods are in place.
-/

namespace Zpl

/-- Whether a component is a ready-made instruction. -/
def Kind.isRaw : Kind → Bool
  | .raw _ => true
  | _ => false

/-- Whether an event is a log record. -/
def Event.isNote : Event → Bool
  | .log .. => true
  | _ => false

theorem Event.links_append (xs ys : List Event) : links (xs ++ ys) = links xs ++ links ys := by
  simp [links]

/-- Log records are no actions on links. -/
theorem Event.links_of_notes {events : List Event} (h : ∀ e ∈ events, e.isNote = true) :
    links events = [] := by
  rw [links, List.filterMap_eq_nil_iff]
  intro e he
  cases e with
  | log => rfl
  | warning => rfl
  | link => simpa [isNote] using h _ he

namespace Store

/-! ### Stores that differ in instructions -/

/-- `t` is `s` with other instructions in some components, all of them touched ones and none of
them ready-made. -/
structure Reprinted (touched : Ref → Prop) (s t : Store) : Prop where
  things : ∀ r, t.thing? r = s.thing? r ∨
    touched r ∧ ∃ c v, s.thing? r = some (.component c) ∧ c.kind.isRaw = false ∧
      t.thing? r = some (.component { c with instruction := v })
  length : t.things.length = s.things.length
  attached : t.attached = s.attached

/-- `t` is `s` with other instructions and more log records. -/
structure Regenerated (touched : Ref → Prop) (s t : Store) : Prop
    extends Reprinted touched s t where
  nans : t.nans = s.nans
  notes : ∃ notes : List Event, (∀ e ∈ notes, e.isNote = true) ∧ t.events = s.events ++ notes

variable {touched : Ref → Prop} {s t u : Store} {r : Ref}

theorem component?_eq_some_iff {c : Component} :
    s.component? r = some c ↔ s.thing? r = some (.component c) := by
  unfold component?
  split <;> simp_all

theorem label?_eq_some_iff {l : Label} : s.label? r = some l ↔ s.thing? r = some (.label l) := by
  unfold label?
  split <;> simp_all

namespace Reprinted

theorem refl (touched : Ref → Prop) (s : Store) : s.Reprinted touched s :=
  ⟨fun _ => .inl rfl, rfl, rfl⟩

theorem trans (h : s.Reprinted touched t) (k : t.Reprinted touched u) : s.Reprinted touched u := by
  refine ⟨fun r => ?_, k.length.trans h.length, k.attached.trans h.attached⟩
  rcases h.things r with hr | ⟨hr, c, v, hs, hc, ht⟩
  · rw [← hr]
    exact k.things r
  · rcases k.things r with kr | ⟨-, c', v', ht', -, hu⟩
    · exact .inr ⟨hr, c, v, hs, hc, kr.trans ht⟩
    · obtain rfl : { c with instruction := v } = c' := by simpa [ht] using ht'
      exact .inr ⟨hr, c, v', hs, hc, hu⟩

theorem mono {touched' : Ref → Prop} (h : s.Reprinted touched t)
    (hle : ∀ r, touched r → touched' r) : s.Reprinted touched' t :=
  ⟨fun r => (h.things r).imp_right fun ⟨hr, rest⟩ => ⟨hle r hr, rest⟩, h.length, h.attached⟩

/-- A component stays what it is, apart from its instruction. -/
theorem component? (h : s.Reprinted touched t) {c : Component} (hc : s.component? r = some c) :
    ∃ v, t.component? r = some { c with instruction := v } ∧
      (c.kind.isRaw = true ∨ ¬ touched r → v = c.instruction) := by
  rw [component?_eq_some_iff] at hc
  simp only [component?_eq_some_iff]
  rcases h.things r with hr | ⟨hr, c', v, hs, hraw, ht⟩
  · exact ⟨c.instruction, hr.trans hc, fun _ => rfl⟩
  · obtain rfl : c = c' := by simpa [hc] using hs
    refine ⟨v, ht, fun hor => ?_⟩
    rcases hor with hraw' | hr'
    · simp [hraw] at hraw'
    · exact absurd hr hr'

/-- What is no component stays as it is. -/
theorem thing?_of_ne_component (h : s.Reprinted touched t) {x : Thing} (hx : s.thing? r = some x)
    (hne : ∀ c, x ≠ .component c) : t.thing? r = some x := by
  rcases h.things r with hr | ⟨-, c, -, hs, -⟩
  · exact hr.trans hx
  · exact absurd (Option.some.inj (hx.symm.trans hs)) (hne c)

theorem label? (h : s.Reprinted touched t) (r : Ref) : t.label? r = s.label? r := by
  rcases h.things r with hr | ⟨-, c, v, hs, -, ht⟩
  · simp [Store.label?, hr]
  · simp [Store.label?, hs, ht]

theorem backend? (h : s.Reprinted touched t) (r : Ref) : t.backend? r = s.backend? r := by
  rcases h.things r with hr | ⟨-, c, v, hs, -, ht⟩
  · simp [Store.backend?, hr]
  · simp [Store.backend?, hs, ht]

theorem content? (h : s.Reprinted touched t) (r : Ref) : t.content? r = s.content? r := by
  rcases h.things r with hr | ⟨-, c, v, hs, -, ht⟩
  · simp only [Store.content?, hr]
    split
    · rfl
    · rename_i record _
      rcases h.things record with hq | ⟨-, c, v, hs, -, ht⟩
      · rw [hq]
      · rw [hs, ht]
    · rfl
  · simp [Store.content?, hs, ht]

theorem isGenuine (h : s.Reprinted touched t) (hs : s.IsGenuine) : t.IsGenuine :=
  hs.congr h.attached

end Reprinted

namespace Regenerated

theorem refl (touched : Ref → Prop) (s : Store) : s.Regenerated touched s :=
  ⟨.refl touched s, rfl, [], by simp, by simp⟩

theorem trans (h : s.Regenerated touched t) (k : t.Regenerated touched u) :
    s.Regenerated touched u := by
  obtain ⟨ms, hms, hm⟩ := h.notes
  obtain ⟨ns, hns, hn⟩ := k.notes
  refine ⟨h.toReprinted.trans k.toReprinted, k.nans.trans h.nans, ms ++ ns, ?_, by simp [hm, hn]⟩
  intro e he
  exact (List.mem_append.1 he).elim (hms e) (hns e)

theorem mono {touched' : Ref → Prop} (h : s.Regenerated touched t)
    (hle : ∀ r, touched r → touched' r) : s.Regenerated touched' t :=
  ⟨h.toReprinted.mono hle, h.nans, h.notes⟩

/-- Nothing is done to a link. -/
theorem links (h : s.Regenerated touched t) : Event.links t.events = Event.links s.events := by
  obtain ⟨notes, hnotes, he⟩ := h.notes
  rw [he, Event.links_append, Event.links_of_notes hnotes, List.append_nil]

theorem log (level : Level) (source : Source) (message : Text) (around : Surroundings) :
    s.Regenerated touched ((Action.log level source message).after around s) :=
  ⟨⟨fun _ => .inl rfl, rfl, rfl⟩, rfl, [.log level source message], by simp [Event.isNote], rfl⟩

/-- One component gets another instruction. -/
theorem put_instruction {c : Component} (hc : s.component? r = some c) (hraw : c.kind.isRaw = false)
    (hr : touched r) (v : Value) :
    s.Regenerated touched (s.put r (.component { c with instruction := v })) := by
  have hlt := lt_length_of_component? hc
  refine ⟨⟨fun q => ?_, by simp [put], rfl⟩, rfl, [], by simp, by simp⟩
  rcases eq_or_ne r q with rfl | hq
  · exact .inr ⟨hr, c, v, component?_eq_some_iff.1 hc, hraw, thing?_put_self hlt _⟩
  · exact .inl (thing?_put_of_ne hq _)

/-- A sequence of two actions, of which the second starts where the first ends. -/
theorem bind {α β : Type} {x : Action α} {f : α → Action β} {around : Surroundings}
    (hx : s.Regenerated touched (x.after around s))
    (hf : ∀ a, x.outcome around s = .ok a →
      s.Regenerated touched ((f a).after around (x.after around s))) :
    s.Regenerated touched ((x >>= f).after around s) := by
  rw [Action.after_bind]
  split
  · rename_i a ha
    exact hf a ha
  · exact hx

/-- A record that is put into words, whether that succeeds or not. -/
theorem logWorded {words : Action Text} {level : Level} {source : Source} {around : Surroundings}
    (h : s.Regenerated touched (words.after around s)) :
    s.Regenerated touched ((Action.logWorded level source words).after around s) := by
  rw [Action.after_logWorded]
  exact .bind h fun message _ => h.trans (.log level source message around)

end Regenerated

end Store

/-! ### Actions that generate instructions at most -/

namespace Action

variable {α β : Type}

/-- An action that changes instructions and writes log records, and does nothing else, as long as
methods are in their places. -/
def Regenerates (x : Action α) : Prop :=
  ∀ (around : Surroundings) (s : Store), s.IsGenuine →
    s.Regenerated (fun _ => True) (x.after around s)

namespace Regenerates

variable {x : Action α} {f : α → Action β}

/-- An action that leaves the store as it is. -/
theorem of_after (h : ∀ around s, x.after around s = s) : x.Regenerates := by
  intro around s _
  rw [h]
  exact .refl _ s

theorem pure (a : α) : (Pure.pure a : Action α).Regenerates := of_after fun _ _ => rfl

theorem throw (fault : Fault) : (throw fault : Action α).Regenerates := of_after fun _ _ => rfl

theorem get : (get : Action Store).Regenerates := of_after fun _ _ => rfl

theorem lift (e : Except Fault α) : (liftM e : Action α).Regenerates := of_after (after_lift e)

theorem log (level : Level) (source : Source) (message : Text) :
    (log level source message).Regenerates := by
  intro around s _
  exact .log level source message around

theorem bind (hx : x.Regenerates) (hf : ∀ a, (f a).Regenerates) : (x >>= f).Regenerates := by
  intro around s hs
  refine .bind (hx around s hs) fun a _ => ?_
  have hx := hx around s hs
  exact hx.trans (hf a around _ (hx.isGenuine hs))

/-- What catches a fault goes on from the store that the fault leaves. -/
theorem tryCatch {handler : Fault → Action α} (hx : x.Regenerates)
    (hh : ∀ fault, (handler fault).Regenerates) :
    (MonadExcept.tryCatch x handler : Action α).Regenerates := by
  intro around s hs
  have hx := hx around s hs
  rw [after_tryCatch]
  split
  · exact hx
  · exact hx.trans (hh _ around _ (hx.isGenuine hs))

theorem logWorded {words : Action Text} (h : words.Regenerates) (level : Level) (source : Source) :
    (logWorded level source words).Regenerates := by
  intro around s hs
  exact .logWorded (h around s hs)

theorem directory : directory.Regenerates := of_after fun _ _ => rfl

theorem capacity : capacity.Regenerates := of_after fun _ _ => rfl

theorem demand (a? : Option α) : (Action.demand a?).Regenerates := of_after (after_demand a?)

theorem component (r : Ref) : (component r).Regenerates := of_after (after_component r)

theorem label (r : Ref) : (label r).Regenerates := of_after (after_label r)

theorem thing (r : Ref) : (thing r).Regenerates := of_after (after_thing r)

theorem lacking (v : Value) (name : String) : (lacking v name).Regenerates :=
  of_after fun _ _ => rfl

theorem read (v : Value) (name : String) : (read v name).Regenerates := by
  unfold Action.read
  split
  · refine get.bind fun s => ?_
    split
    · exact lift _
    · exact (lacking _ _).bind fun _ => throw _
  · exact (lacking _ _).bind fun _ => throw _

theorem refuseCall (v : Value) (name : String) : (refuseCall v name : Action α).Regenerates :=
  (read v name).bind fun _ => bind (of_after fun _ _ => rfl) fun _ => throw _

/-- A method that is in its place does what the operation of the object does. -/
theorem dispatch {own : Action Value} (r : Ref) {name : String} (hname : name ∈ Store.calledNames)
    (values : List Value) (hown : own.Regenerates) : (dispatch r name values own).Regenerates := by
  intro around s hs
  rw [after_dispatch hs hname]
  exact hown around s hs

theorem dispatchOn (sort? : Store → Ref → Option β) (v : Value) {name : String}
    (hname : name ∈ Store.calledNames) (values : List Value) {own : Ref → β → Action Value}
    (hown : ∀ r b, (own r b).Regenerates) : (dispatchOn sort? v name values own).Regenerates := by
  unfold Action.dispatchOn
  split
  · refine dispatch _ hname values (get.bind fun s => ?_)
    split
    · exact hown _ _
    · exact refuseCall _ _
  · exact refuseCall _ _

theorem dispatchUnitOn (sort? : Store → Ref → Option β) (v : Value) {name : String}
    (hname : name ∈ Store.calledNames) (values : List Value) {own : Ref → Action Unit}
    (hown : ∀ r, (own r).Regenerates) : (dispatchUnitOn sort? v name values own).Regenerates :=
  bind (dispatchOn sort? v hname values fun r _ => (hown r).bind fun _ => pure _) fun _ => pure _

end Regenerates

end Action

end Zpl
