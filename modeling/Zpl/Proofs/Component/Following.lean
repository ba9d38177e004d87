import Zpl.Proofs.Spelling
import Zpl.Store.Method.Call

/-!
# Relations that actions follow

What an action does to a store is told by a relation between the store before and the store after,
which is there whether the action fails or not. Such a relation goes on from one action to the next,
so it holds of a whole method if it holds of each step. What it has to provide for that is said
once, and each of the relations is then followed through the methods by the same rules.

Much of what a method does is not about components at all. Values are computed, which makes further
objects where they are lists or sets. A relation that is open to further objects is followed by all
of that.

## Main definitions

* `Store.IsQuiet` — only methods of objects are called, and none of them later.
* `Store.IsFrame` — a relation that goes on from one action to the next.
* `Store.IsOpenFrame` — one that is open to further objects.
* `Action.Follows`, `Action.Yields` — an action that follows a relation, without and with a promise
  on its result.

## Main results

* `Action.Follows.bind` and others — closure under what actions are made of.
* `Action.follows_made`, `Collection.follows_difference?` — making values and sets.
-/

namespace Zpl

namespace Store

/-- Nobody put anything in the place of a method, and nobody asked for a method to call it later. -/
structure IsQuiet (s : Store) : Prop where
  genuine : s.IsGenuine
  methods : ∀ r m, s.thing? r ≠ some (.method m)

end Store

/-- An object that is neither a component nor a method to be called later. -/
def Thing.IsAside : Thing → Prop
  | .component _ | .method _ => False
  | _ => True

namespace Store

/-! ### Relations between stores -/

/-- A relation between the stores before and after an action. It goes on from one action to the
next, and nobody can tell methods to be called later. -/
class IsFrame (R : Store → Store → Prop) : Prop where
  refl (s : Store) : R s s
  trans {s t u : Store} : R s t → R t u → R s u
  quiet {s t : Store} : R s t → s.IsQuiet → t.IsQuiet

/-- A relation that is open to further objects, as long as these are neither components nor methods.
Only objects and what is attached to them matter, not events. -/
class IsOpenFrame (R : Store → Store → Prop) : Prop extends IsFrame R where
  of_things {s t : Store} : t.things = s.things → t.attached = s.attached → R s t
  add {s : Store} {x : Thing} : x.IsAside → R s { s with things := s.things ++ [x] }

end Store

/-! ### Following a relation -/

namespace Action

variable {α β : Type} {R R' : Store → Store → Prop} {P Q : α → Store → Prop}
  {around : Surroundings} {s : Store} {r : Ref}

/-- What is demanded is there if it is found. -/
theorem eq_some_of_outcome_demand {a? : Option α} {a : α}
    (h : (demand a?).outcome around s = .ok a) : a? = some a := by
  cases a? <;> cases h
  rfl

/-- After an action a quiet store stands in relation to what it was before, whether the action fails
or not. -/
def Follows (x : Action α) (R : Store → Store → Prop) (around : Surroundings) (s : Store) : Prop :=
  s.IsQuiet → R s (x.after around s)

/-- After an action a quiet store stands in relation to what it was before, whether the action fails
or not, and `Q` holds of what the action results in. -/
def Yields (x : Action α) (R : Store → Store → Prop) (Q : α → Store → Prop)
    (around : Surroundings) (s : Store) : Prop :=
  s.IsQuiet → R s (x.after around s) ∧ ∀ a, x.outcome around s = .ok a → Q a (x.after around s)

theorem Yields.follows {x : Action α} (h : x.Yields R Q around s) : x.Follows R around s :=
  fun hs => (h hs).1

/-- Whatever an action results in is `a`. -/
def Returns (x : Action α) (a : α) : Prop := ∀ around s b, x.outcome around s = .ok b → b = a

theorem Returns.pure (a : α) : (Pure.pure a : Action α).Returns a := by
  rintro _ _ _ ⟨⟩
  rfl

theorem Returns.bind {x : Action α} {f : α → Action β} {b : β} (hf : ∀ a, (f a).Returns b) :
    (x >>= f).Returns b := by
  intro around s b' hb
  obtain ⟨a, -, hb⟩ := exists_of_outcome_bind hb
  exact hf a around _ b' hb

namespace Follows

theorem mono {x : Action α} (h : x.Follows R around s) (hR : ∀ t, R s t → R' s t) :
    x.Follows R' around s :=
  fun hs => hR _ (h hs)

/-- A promise on what an action results in. -/
theorem yields {x : Action α} (h : x.Follows R around s)
    (hQ : ∀ a, x.outcome around s = .ok a → s.IsQuiet → Q a (x.after around s)) :
    x.Yields R Q around s :=
  fun hs => ⟨h hs, fun a ha => hQ a ha hs⟩

/-- A promise on an action whose result is known. -/
theorem returning {x : Action α} {a : α} (h : x.Follows R around s) (hx : x.Returns a)
    (hQ : ∀ t, R s t → Q a t) : x.Yields R Q around s :=
  h.yields fun b hb hs => hx around s b hb ▸ hQ _ (h hs)

variable [frame : Store.IsFrame R]

include frame

theorem of_after {x : Action α} (h : x.after around s = s) : x.Follows R around s := by
  intro _
  rw [h]
  exact frame.refl s

theorem pure (a : α) : (Pure.pure a : Action α).Follows R around s := of_after rfl

theorem throw (fault : Fault) : (throw fault : Action α).Follows R around s := of_after rfl

theorem lift (e : Except Fault α) : (liftM e : Action α).Follows R around s :=
  of_after (after_lift e around s)

/-- What comes second starts from a store to which the first one leads, and may depend on what the
first one promises. -/
theorem yields_bind {x : Action α} {f : α → Action β} (hx : x.Yields R P around s)
    (hf : ∀ a t, R s t → P a t → (f a).Follows R around t) : (x >>= f).Follows R around s := by
  intro hs
  obtain ⟨ht, hP⟩ := hx hs
  rw [after_bind]
  split
  · rename_i a ha
    exact frame.trans ht (hf a _ ht (hP a ha) (frame.quiet ht hs))
  · exact ht

theorem bind {x : Action α} {f : α → Action β} (hx : x.Follows R around s)
    (hf : ∀ a t, R s t → (f a).Follows R around t) : (x >>= f).Follows R around s :=
  yields_bind (P := fun _ _ => True) (hx.yields fun _ _ _ => trivial) fun a t ht _ => hf a t ht

omit frame in
/-- What comes second starts from the same store where the first only looks at it. -/
theorem look_bind {x : Action α} {f : α → Action β} (hx : x.after around s = s)
    (hR : R s s) (hf : ∀ a, x.outcome around s = .ok a → (f a).Follows R around s) :
    (x >>= f).Follows R around s := by
  intro hs
  rw [after_bind, hx]
  split
  · rename_i a ha
    exact hf a ha hs
  · exact hR

theorem component_bind {f : Component → Action α}
    (hf : ∀ c, s.component? r = some c → (f c).Follows R around s) :
    (component r >>= f).Follows R around s :=
  look_bind (after_component r around s) (frame.refl s) fun c hc =>
    hf c (eq_some_of_outcome_demand hc)

omit frame in
theorem get_bind {f : Store → Action α} (hf : (f s).Follows R around s) :
    ((get : Action Store) >>= f).Follows R around s := by
  intro hs
  rw [after_bind]
  exact hf hs

omit frame in
theorem directory_bind {f : Directory → Action α} (hf : (f s.directory).Follows R around s) :
    (directory >>= f).Follows R around s := by
  intro hs
  rw [after_bind]
  exact hf hs

omit frame in
theorem capacity_bind {f : Nat → Action α}
    (hf : (f around.circumstances.capacity).Follows R around s) :
    (capacity >>= f).Follows R around s := by
  intro hs
  rw [after_bind]
  exact hf hs

omit frame in
/-- Whatever is done with the scribe of a store. -/
theorem scribe_bind {f : Scribe Action → Action α}
    (hf : ∀ sc : Scribe Action, sc.Regenerates → (f sc).Follows R around s) :
    (scribe >>= f).Follows R around s := by
  intro hs
  have hw := Writing.regenerates_within s.depth []
  rw [after_bind]
  exact hf _ ⟨hw.shown, hw.quoted⟩ hs

theorem forM {f : α → Action Unit} {as : List α}
    (hf : ∀ a ∈ as, ∀ t, R s t → (f a).Follows R around t) : (as.forM f).Follows R around s := by
  induction as generalizing s with
  | nil => exact .pure ()
  | cons a as ih =>
    refine bind (hf a (List.mem_cons_self ..) s (frame.refl s)) fun _ t ht => ?_
    exact ih fun a ha u hu => hf a (List.mem_cons_of_mem _ ha) u (frame.trans ht hu)

theorem foldlM {f : β → α → Action β} (hf : ∀ b a t, R s t → (f b a).Follows R around t)
    (as : List α) (b : β) : (as.foldlM f b).Follows R around s := by
  induction as generalizing b s with
  | nil => exact .pure b
  | cons a as ih =>
    rw [List.foldlM_cons]
    refine bind (hf b a s (frame.refl s)) fun b t ht => ?_
    exact ih (fun b a u hu => hf b a u (frame.trans ht hu)) b

omit frame in
/-- Where nothing was put in its place, a method is carried out. -/
theorem dispatch {name : String} (hname : name ∈ Store.calledNames) (values : List Value)
    {own : Action Value} (h : own.Follows R around s) :
    (dispatch r name values own).Follows R around s := by
  intro hs
  rw [after_dispatch hs.genuine hname]
  exact h hs

/-- Where nothing was put in its place, a method without a result is carried out. -/
theorem dispatchUnit {name : String} (hname : name ∈ Store.calledNames) (values : List Value)
    {own : Action Unit} (h : own.Follows R around s) :
    (dispatchUnit r name values own).Follows R around s :=
  bind (dispatch hname values (bind h fun _ _ _ => .pure _)) fun _ _ _ => .pure _

/-- Where nothing was put in its place, a method is carried out on what has it. -/
theorem dispatchUnitOn (sort? : Store → Ref → Option β) (v : Value) {name : String}
    (hname : name ∈ Store.calledNames) (values : List Value) {own : Ref → Action Unit}
    (refused : ∀ v, (refuseCall v name : Action Value).Follows R around s)
    (h : ∀ r b, sort? s r = some b → (own r).Follows R around s) :
    (dispatchUnitOn sort? v name values own).Follows R around s := by
  refine bind ?_ fun _ _ _ => .pure _
  unfold dispatchOn
  split
  · refine dispatch hname values (get_bind ?_)
    split
    · exact bind (h _ _ ‹_›) fun _ _ _ => .pure _
    · exact refused _
  · exact refused _

end Follows

namespace Yields

variable [frame : Store.IsFrame R]

include frame

theorem bind {x : Action α} {f : α → Action β} {Q : β → Store → Prop} (hx : x.Yields R P around s)
    (hf : ∀ a t, R s t → P a t → (f a).Yields R Q around t) : (x >>= f).Yields R Q around s := by
  refine Follows.yields (.yields_bind hx fun a t ht ha => (hf a t ht ha).follows) ?_
  intro b hb hs
  obtain ⟨ht, hP⟩ := hx hs
  obtain ⟨a, ha, hb⟩ := exists_of_outcome_bind hb
  rw [after_bind, ha]
  exact (hf a _ ht (hP a ha) (frame.quiet ht hs)).2 b hb

/-- What comes second starts from the same store where the first only looks at it. -/
theorem look_bind {x : Action α} {f : α → Action β} {Q : β → Store → Prop}
    (hx : x.after around s = s)
    (hf : ∀ a, x.outcome around s = .ok a → (f a).Yields R Q around s) :
    (x >>= f).Yields R Q around s := by
  refine .bind (P := fun a t => t = s ∧ x.outcome around s = .ok a)
    ((Follows.of_after hx).yields fun a ha _ => ⟨hx, ha⟩) fun a t _ hat => ?_
  obtain ⟨rfl, ha⟩ := hat
  exact hf a ha

end Yields

/-! ### Values that are made -/

section

variable [frame : Store.IsOpenFrame R]

include frame

theorem follows_add {x : Thing} (hx : x.IsAside) : (add x).Follows R around s :=
  fun _ => frame.add hx

theorem follows_distinct (x : Binary64) : (distinct x).Follows R around s := by
  intro _
  unfold distinct
  split <;> exact frame.of_things rfl rfl

omit around s in
mutual

/-- Making a value of one's own adds rows, lists and records. -/
theorem follows_made : ∀ (v : Value) (around : Surroundings) (s : Store),
    (made v).Follows R around s
  | .float x, _, _ => .bind (follows_distinct x) fun _ _ _ => .pure _
  | .tuple vs, around, s =>
    .bind (follows_madeAll vs around s) fun _ _ _ =>
      .bind (follows_add trivial) fun _ _ _ => .pure _
  | .list vs, around, s =>
    .bind (follows_madeAll vs around s) fun _ _ _ =>
      .bind (follows_add trivial) fun _ _ _ => .pure _
  | .record keys values, around, s =>
    .bind (follows_madeAll keys around s) fun _ t _ =>
      .bind (follows_madeAll values around t) fun _ _ _ =>
        .bind (follows_add trivial) fun _ _ _ => .pure _
  | .none, _, _ => .pure _
  | .bool _, _, _ => .pure _
  | .int _, _, _ => .pure _
  | .text _, _, _ => .pure _
  | .bytes _, _, _ => .pure _
  | .object _, _, _ => .pure _

theorem follows_madeAll : ∀ (vs : List Value) (around : Surroundings) (s : Store),
    (madeAll vs).Follows R around s
  | [], _, _ => .pure _
  | v :: vs, around, s =>
    .bind (follows_made v around s) fun _ t _ =>
      .bind (follows_madeAll vs around t) fun _ _ _ => .pure _

end

end

end Action

/-! ### Sets -/

namespace Collection

open Zpl.Action

variable {R : Store → Store → Prop} {around : Surroundings} {s : Store}

section

variable [frame : Store.IsFrame R]

include frame

theorem follows_parts (v : Value) : (parts v).Follows R around s := .directory_bind (.lift _)

/-- A set that changes by some values, if keeping each intermediate set does no harm. -/
theorem follows_changeBy {keep : Seats Value → Action Unit}
    (hkeep : ∀ seats t, R s t → (keep seats).Follows R around t) (change : Change)
    (seats : Seats Value) (vs : List Value) :
    (changeBy keep change seats vs).Follows R around s := by
  refine .foldlM (fun seats v t ht => .get_bind (.bind (.lift _) fun seats u hu => ?_)) vs seats
  exact .bind (hkeep seats u (frame.trans ht hu)) fun _ _ _ => .pure _

theorem follows_part {keep : Seats Value → Action Unit}
    (hkeep : ∀ seats t, R s t → (keep seats).Follows R around t) (seats : Seats Value)
    (v : Value) : (part keep seats v).Follows R around s :=
  .bind (follows_parts v) fun vs _ ht =>
    .bind (follows_changeBy (fun seats u hu => hkeep seats u (frame.trans ht hu)) _ seats vs)
      fun _ _ _ => .pure _

theorem follows_join {keep : Seats Value → Action Unit}
    (hkeep : ∀ seats t, R s t → (keep seats).Follows R around t) (seats : Seats Value)
    (v : Value) : (join keep seats v).Follows R around s := by
  refine .get_bind ?_
  dsimp only
  split
  · split
    · exact .pure _
    · split
      · exact .pure _
      · exact follows_changeBy hkeep _ _ _
  · exact follows_changeBy hkeep _ _ _
  · exact .bind (follows_parts v) fun vs _ ht =>
      follows_changeBy (fun seats u hu => hkeep seats u (frame.trans ht hu)) _ _ vs

theorem follows_forget (seats : Seats Value) (t : Store) (_ : R s t) :
    (forget seats).Follows R around t := .pure _

theorem follows_select (wanted : Bool) (members : List Value) {among : Value → Action Bool}
    (h : ∀ v t, R s t → (among v).Follows R around t) :
    (select wanted members among).Follows R around s := by
  refine .foldlM (fun seats v t ht => .bind (h v t ht) fun found u hu => ?_) members _
  split
  · exact .get_bind (.lift _)
  · exact .pure _

theorem follows_remaining (seats : Seats Value) (v : Value) :
    (remaining seats v).Follows R around s := by
  refine .get_bind ?_
  dsimp only
  split
  · split
    · exact follows_part follows_forget _ v
    · exact follows_select _ _ fun _ _ _ => .get_bind (.bind (.lift _) fun _ _ _ => .pure _)
  · split
    · exact follows_part follows_forget _ v
    · exact follows_select _ _ fun _ _ _ => .get_bind (.lift _)
  · exact follows_part follows_forget _ v

theorem follows_collectView (v : Value) : (collectView v).Follows R around s := by
  unfold collectView
  split
  · refine .get_bind ?_
    split <;> exact follows_join follows_forget _ _
  · exact follows_join follows_forget _ _

end

section

variable [frame : Store.IsOpenFrame R]

include frame

theorem follows_make (seats : Seats Value) : (make seats).Follows R around s :=
  .bind (follows_add trivial) fun _ _ _ => .pure _

theorem follows_difference? (v w : Value) : (difference? v w).Follows R around s := by
  refine .get_bind ?_
  split
  · exact .bind (follows_remaining _ w) fun _ _ _ =>
      .bind (follows_make _) fun _ _ _ => .pure _
  · split
    · exact .bind (follows_collectView v) fun _ _ _ =>
        .bind (follows_part follows_forget _ w) fun _ _ _ =>
          .bind (follows_make _) fun _ _ _ => .pure _
    · exact .pure _

end

end Collection

/-! ### Arithmetic -/

namespace Edit

open Zpl.Action

variable {R : Store → Store → Prop} [frame : Store.IsOpenFrame R] {around : Surroundings}
  {s : Store}

include frame

theorem follows_add (v w : Value) : (add v w).Follows R around s :=
  .directory_bind (.bind (.lift _) fun _ _ _ => follows_made _ _ _)

theorem follows_twice (margin : Value) : (twice margin).Follows R around s :=
  .capacity_bind (.directory_bind (.bind (.lift _) fun _ _ _ => follows_made _ _ _))

theorem follows_sub (v w : Value) : (sub v w).Follows R around s := by
  refine .bind (Collection.follows_difference? v w) fun left _ _ => ?_
  split
  · exact .pure _
  · exact .bind (.lift _) fun _ _ _ => follows_made _ _ _

theorem follows_explained (sign : String) (v w : Value) (result : Except Fault Value) :
    (explained sign v w result).Follows R around s := by
  unfold explained
  split
  · exact .directory_bind (.throw _)
  · exact .lift _

theorem follows_centeringGap (outer inner : Value) :
    (centeringGap outer inner).Follows R around s :=
  .bind (.lift _) fun _ _ _ => .bind (.lift _) fun _ _ _ => .bind (.lift _) fun _ _ _ =>
    follows_made _ _ _

theorem follows_barcodeLength (r : Ref) : (barcodeLength r).Follows R around s := by
  refine .component_bind fun _ _ => ?_
  split
  · exact .directory_bind (.bind (.lift _) fun _ _ _ => .pure _)
  · exact .throw _

theorem follows_printedLength (r : Ref) : (printedLength r).Follows R around s :=
  .dispatch (by decide) _ (follows_barcodeLength r)

end Edit

end Zpl
