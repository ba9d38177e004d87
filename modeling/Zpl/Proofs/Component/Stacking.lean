import Mathlib.Algebra.Order.BigOperators.Group.List
import Zpl.Proofs.Component.Ownership
import Zpl.Proofs.Component.Placing

/-!
# Stacks of components

Components are put below each other, one after the other. Each is moved down by where the one above
it ends by then, and nothing else changes, whatever the sizes are. Where the sizes are whole numbers
a component ends up at the sum of the places of all components down to it and the sizes of those
above it, so that no two of them overlap if none of these numbers is negative. Whatever is done to a
component of the stack afterwards moves no other one.

## Main definitions

* `Store.Displaced` — some components stand at another height, and nothing else is different.
* `Action.stackAll` — objects are put below each other.
* `Component.topOf` — where a component of a stack begins.

## Main results

* `Edit.displaces_stackBelow`, `Action.displaces_stackAll` — stacking changes nothing but heights.
* `Action.stackAll_whole` — where whole numbers lead.
* `Action.stacking` — what holds of every stack.
-/

namespace Zpl

/-! ### Standing at another height -/

namespace Store

variable {moved moved' : Ref → Prop} {s t u : Store} {r : Ref} {c : Component}

/-- Some components stand at another height, and nothing else is different. Only a number that is
none may have been counted. -/
structure Displaced (moved : Ref → Prop) (s t : Store) : Prop where
  same : t = { s with things := t.things, nans := t.nans }
  thing : ∀ q, ¬moved q → t.thing? q = s.thing? q
  component : ∀ q d, s.component? q = some d → ∃ v, t.component? q = some { d with y := v }

namespace Displaced

theorem refl (s : Store) : s.Displaced moved s := ⟨rfl, fun _ _ => rfl, fun _ d hd => ⟨d.y, hd⟩⟩

theorem trans (h : s.Displaced moved t) (k : t.Displaced moved u) : s.Displaced moved u where
  same := by rw [k.same, h.same]
  thing q hq := (k.thing q hq).trans (h.thing q hq)
  component q d hd := by
    obtain ⟨v, hv⟩ := h.component q d hd
    obtain ⟨w, hw⟩ := k.component q _ hv
    exact ⟨w, hw⟩

theorem mono (h : s.Displaced moved t) (hm : ∀ q, moved q → moved' q) : s.Displaced moved' t :=
  { h with thing := fun q hq => h.thing q fun hq' => hq (hm q hq') }

theorem nans (s : Store) (n : Nat) : s.Displaced moved { s with nans := n } :=
  ⟨rfl, fun _ _ => rfl, fun _ d hd => ⟨d.y, hd⟩⟩

theorem put (hr : moved r) (hc : s.component? r = some c) (v : Value) :
    s.Displaced moved (s.put r (.component { c with y := v })) where
  same := rfl
  thing q hq := thing?_put_of_ne (by rintro rfl; exact hq hr) _
  component q d hd := by
    by_cases h : r = q
    · subst h
      obtain rfl := Option.some.inj (hc.symm.trans hd)
      exact ⟨v, component?_put_self (lt_length_of_component? hc) _⟩
    · exact ⟨d.y, by rw [component?_put_of_ne h, hd]⟩

theorem component?_of_not (h : s.Displaced moved t) {q : Ref} (hq : ¬moved q) :
    t.component? q = s.component? q := by
  rw [Store.component?, Store.component?, h.thing q hq]

theorem isQuiet (h : s.Displaced moved t) (hs : s.IsQuiet)
    (hm : ∀ q, moved q → ∃ d, s.component? q = some d) : t.IsQuiet where
  genuine := hs.genuine.congr (by rw [h.same])
  methods q m hq := by
    by_cases hmoved : moved q
    · obtain ⟨d, hd⟩ := hm q hmoved
      obtain ⟨v, hv⟩ := h.component q d hd
      rw [component?_eq_some_iff.1 hv] at hq
      cases hq
    · exact hs.methods q m ((h.thing q hmoved).symm.trans hq)

end Displaced

end Store

/-! ### Putting one component below another -/

/-- Where an action fails, nothing comes after it. -/
theorem Action.bind_error {α β : Type} {x : Action α} {around : Surroundings} {s t : Store}
    {fault : Fault} (hx : x around s = .error fault t) (f : α → Action β) :
    (x >>= f) around s = .error fault t := by
  rw [bind_apply, hx]

namespace Edit

open Zpl.Action (bind_eq bind_error component_eq_ok modifyComponent_eq_ok read read_component)

variable {around : Surroundings} {s : Store} {r q : Ref} {c d : Component}

/-- An action computes a number, or it fails. Only a number that is none may have been counted. -/
def Computes (x : Action Value) (around : Surroundings) (s : Store) : Prop :=
  (∃ fault, x around s = .error fault s) ∨
    ∃ (n : Number) (k : Nat), x around s = .ok (.ofNumber n) { s with nans := k }

/-- A number that was just computed is a number again. -/
theorem computes_made (e : Except Fault Number) (around : Surroundings) (s : Store) :
    Computes ((liftM (e.map Value.ofNumber) : Action Value) >>= Action.made) around s := by
  cases e with
  | error fault => exact .inl ⟨fault, rfl⟩
  | ok n =>
    right
    cases n with
    | int n => exact ⟨.int n, s.nans, rfl⟩
    | float x =>
      have told : ∃ y k, Action.distinct x around s = .ok y { s with nans := k } := by
        unfold Action.distinct
        split
        · exact ⟨_, _, rfl⟩
        · exact ⟨x, s.nans, rfl⟩
      obtain ⟨y, k, hy⟩ := told
      exact ⟨.float y, k, bind_eq rfl (bind_eq hy rfl)⟩

/-- Whatever a number is added to, the sum is a number or there is none. -/
theorem add_ofNumber (d : Directory) (v : Value) (n : Number) :
    ∃ e : Except Fault Number, v.add d (.ofNumber n) = e.map Value.ofNumber := by
  have number : (Value.ofNumber n).opened d = .ofNumber n := by cases n <;> rfl
  have arithmetic (w : Value) : ∃ e : Except Fault Number,
      Value.arithmetic Number.add w (.ofNumber n) = e.map Value.ofNumber := by
    unfold Value.arithmetic
    cases w.toNumber with
    | error fault => exact ⟨.error fault, rfl⟩
    | ok a =>
      refine ⟨liftArithmetic (a.add n), ?_⟩
      rw [Value.toNumber_ofNumber]
      simp only [bind, Except.bind]
      cases liftArithmetic (a.add n) <;> rfl
  unfold Value.add
  rw [number]
  split
  case h_5 => exact arithmetic _
  all_goals
    rename_i h
    cases n <;> cases h

theorem computes_add (v : Value) (n : Number) (around : Surroundings) (s : Store) :
    Computes (add v (.ofNumber n)) around s := by
  obtain ⟨e, he⟩ := add_ofNumber s.directory v n
  have computes := computes_made e around s
  rw [← he] at computes
  exact computes

theorem computes_addInto (y : Int) (n : Number) (around : Surroundings) (s : Store) :
    Computes (addInto (.int y) (.ofNumber n)) around s := by
  obtain ⟨e, he⟩ := add_ofNumber s.directory (.int y) n
  have told : addInto (.int y) (.ofNumber n) around s =
      (explained "+=" (.int y) (.ofNumber n) (e.map Value.ofNumber) >>= Action.made) around s :=
    bind_eq rfl (by rw [he])
  rw [Computes, told]
  cases e with
  | ok n => exact computes_made (.ok n) around s
  | error fault =>
    left
    cases fault <;> exact ⟨_, rfl⟩

/-- To be put below another component changes nothing of a component but its height. -/
theorem displaces_stackBelow (hr : s.component? r = some c) (hq : s.component? q = some d) {y : Int}
    (hy : c.y = .int y) : s.Displaced (Eq r) ((stackBelow r (.object q)).after around s) := by
  have position : read (.object q) "y" around s = .ok d.y s := read_component hq rfl
  have sized : read (.object q) "component_size" around s =
      (liftM (d.footprint.map Value.ofNumber) : Action Value) around s := by
    have found : s.attribute? q "component_size" = some (d.footprint.map Value.ofNumber) := by
      simp only [Store.attribute?, Store.component?_eq_some_iff.1 hq]
      rfl
    refine bind_eq rfl ?_
    rw [found]
  suffices stands : ∃ t, s.Displaced (Eq r) t ∧ ((∃ fault,
      stackBelow r (.object q) around s = .error fault t) ∨
        stackBelow r (.object q) around s = .ok () t) by
    obtain ⟨t, displaced, ⟨fault, failed⟩ | done⟩ := stands
    · rwa [Action.after, failed]
    · rwa [Action.after, done]
  unfold stackBelow
  cases hsize : d.footprint with
  | error fault =>
    rw [hsize] at sized
    exact ⟨s, .refl s, .inl ⟨fault, bind_eq position (bind_error sized _)⟩⟩
  | ok size =>
    rw [hsize] at sized
    obtain ⟨fault, failed⟩ | ⟨below, k, below_eq⟩ := computes_add d.y size around s
    · exact ⟨s, .refl s, .inl ⟨fault, bind_eq position (bind_eq sized (bind_error failed _))⟩⟩
    · have there : { s with nans := k }.component? r = some c := hr
      obtain ⟨fault, failed⟩ | ⟨height, l, height_eq⟩ :=
        computes_addInto y below around { s with nans := k }
      · refine ⟨{ s with nans := k }, .nans s k, .inl ⟨fault, ?_⟩⟩
        refine bind_eq position (bind_eq sized (bind_eq below_eq ?_))
        refine bind_eq (component_eq_ok there around) (bind_error ?_ _)
        rw [hy, failed]
      · have there' : { s with nans := l }.component? r = some c := hr
        refine ⟨_, .trans (.nans s l) (.put rfl there' (.ofNumber height)), .inr ?_⟩
        refine bind_eq position (bind_eq sized (bind_eq below_eq ?_))
        refine bind_eq (component_eq_ok there around) (bind_eq (by rw [hy, height_eq]) ?_)
        exact modifyComponent_eq_ok there' _ around

end Edit

/-! ### Putting components below each other -/

namespace Action

variable {s : Store} {above r : Ref} {rest : List Ref} {c : Circumstances}

/-- Objects are put below each other one after the other, the first one below `above`, whether that
fails or not: what comes of it, and the store that is left. -/
def stackAll (c : Circumstances) (above : Ref) :
    List Ref → Store → List (Except Fault Value) × Store
  | [], s => ([], s)
  | r :: rest, s =>
    let (answer, t) := (call (.object r) "below_of" { inRow := [.object above] }).attempt c s
    let (answers, u) := stackAll c r rest t
    (answer :: answers, u)

/-- What comes of putting a component below another one. -/
theorem attempt_stackBelow {comp : Component} (hr : s.component? r = some comp)
    (unattached : s.attached.lookup (r, "below_of") = none) (v : Value) (c : Circumstances) :
    (call (.object r) "below_of" { inRow := [v] }).attempt c s =
      (((Edit.stackBelow r v).outcome (.inside c s) s).map fun _ => .none,
        (Edit.stackBelow r v).after (.inside c s) s) := by
  obtain ⟨method, offered, signature, run⟩ : ∃ method : Method Ref,
      comp.methods.find? (·.name == "below_of") = some method ∧
        method.signature = .required ["other"] ∧
          method.run r [v] = (do Edit.stackBelow r v; return .none) := ⟨_, rfl, rfl, rfl⟩
  exact attempt_procedure hr unattached offered (by rw [signature]; rfl) c run

variable {comp : Ref → Component} {y size : Ref → Int}

/-- Components that are put below each other stand at another height, and nothing else is
different. -/
theorem displaces_stackAll (c : Circumstances) {d : Component}
    (habove : s.component? above = some d)
    (distinct : rest.Nodup) (there : ∀ r ∈ rest, s.component? r = some (comp r))
    (hy : ∀ r ∈ rest, (comp r).y = .int (y r))
    (unattached : ∀ r ∈ rest, s.attached.lookup (r, "below_of") = none) :
    s.Displaced (· ∈ rest) (stackAll c above rest s).2 := by
  induction rest generalizing above s d with
  | nil => exact .refl s
  | cons r rest ih =>
    obtain ⟨fresh, distinct⟩ := List.nodup_cons.1 distinct
    obtain ⟨hr, hrest⟩ := List.forall_mem_cons.1 there
    obtain ⟨hyr, hyrest⟩ := List.forall_mem_cons.1 hy
    obtain ⟨unattachedHere, unattachedRest⟩ := List.forall_mem_cons.1 unattached
    have first : s.Displaced (Eq r) ((Edit.stackBelow r (.object above)).after (.inside c s) s) :=
      Edit.displaces_stackBelow hr habove hyr
    rw [stackAll, attempt_stackBelow hr unattachedHere]
    dsimp only
    generalize (Edit.stackBelow r (.object above)).after (.inside c s) s = t at first ⊢
    obtain ⟨v, hv⟩ := first.component r _ hr
    have others : ∀ q ∈ rest, t.component? q = some (comp q) := fun q hq => by
      have other : ¬r = q := by
        rintro rfl
        exact fresh hq
      rw [first.component?_of_not other, hrest q hq]
    have later := ih hv distinct others hyrest fun q hq => by
      rw [first.same]
      exact unattachedRest q hq
    exact (first.mono fun q hq => List.mem_cons.2 (.inl hq.symm)).trans
      (later.mono fun q hq => List.mem_cons.2 (.inr hq))

end Action

/-! ### Heights in a stack -/

namespace Component

/-- A component at another height. -/
def atHeight (c : Component) (n : Int) : Component := { c with y := .int n }

@[simp] theorem atHeight_y (c : Component) (n : Int) : (c.atHeight n).y = .int n := rfl

@[simp] theorem atHeight_footprint (c : Component) (n : Int) :
    (c.atHeight n).footprint = c.footprint := rfl

variable {y size : Ref → Int} {stack : List Ref} {r : Ref}

/-- Where a component of a stack begins: the places of all components down to it, and the sizes of
those above it. -/
def topOf (y size : Ref → Int) (stack : List Ref) (k : Nat) : Int :=
  ((stack.take (k + 1)).map y).sum + ((stack.take k).map size).sum

theorem topOf_cons_zero (r : Ref) (rest : List Ref) : topOf y size (r :: rest) 0 = y r := by
  simp [topOf]

theorem topOf_cons_succ (r : Ref) (rest : List Ref) (k : Nat) :
    topOf y size (r :: rest) (k + 1) = y r + size r + topOf y size rest k := by
  simp [topOf]
  omega

theorem topOf_nonneg (hsize : ∀ q ∈ stack, 0 ≤ size q) (hy : ∀ q ∈ stack, 0 ≤ y q) (k : Nat) :
    0 ≤ topOf y size stack k := by
  refine Int.add_nonneg (List.sum_nonneg ?_) (List.sum_nonneg ?_)
  · exact List.forall_mem_map.2 fun q hq => hy q (List.mem_of_mem_take hq)
  · exact List.forall_mem_map.2 fun q hq => hsize q (List.mem_of_mem_take hq)

/-- Components do not overlap: each begins where all those above it have ended. -/
theorem topOf_add_le {i j : Nat} (hi : stack[i]? = some r) (hij : i < j) (hj : j < stack.length)
    (hsize : ∀ q ∈ stack, 0 ≤ size q) (hy : ∀ q ∈ stack.tail, 0 ≤ y q) :
    topOf y size stack i + size r ≤ topOf y size stack j := by
  induction stack generalizing i j with
  | nil => cases hi
  | cons q rest ih =>
    obtain ⟨-, hsize⟩ := List.forall_mem_cons.1 hsize
    obtain ⟨j, rfl⟩ := Nat.exists_eq_add_one_of_ne_zero (Nat.ne_zero_of_lt hij)
    rw [topOf_cons_succ]
    cases i with
    | zero =>
      obtain rfl := Option.some.inj hi
      have := topOf_nonneg hsize hy j
      rw [topOf_cons_zero]
      omega
    | succ i =>
      have below := ih hi (Nat.lt_of_succ_lt_succ hij) (Nat.lt_of_succ_lt_succ hj) hsize
        fun q hq => hy q (List.mem_of_mem_tail hq)
      rw [topOf_cons_succ]
      omega

end Component

namespace Action

variable {s : Store} {above : Ref} {rest : List Ref} {comp : Ref → Component} {y size : Ref → Int}

open Component (topOf)

/-- Components that take a whole number of dots each end up below the one above. -/
theorem stackAll_whole (c : Circumstances) {d : Component} (habove : s.component? above = some d)
    {top : Int} (htop : d.y = .int top) (hd : d.footprint = .ok (.int (size above)))
    (distinct : rest.Nodup) (fresh : above ∉ rest)
    (there : ∀ r ∈ rest, s.component? r = some (comp r))
    (hy : ∀ r ∈ rest, (comp r).y = .int (y r))
    (hsize : ∀ r ∈ rest, (comp r).footprint = .ok (.int (size r)))
    (unattached : ∀ r ∈ rest, s.attached.lookup (r, "below_of") = none) :
    ∃ t, stackAll c above rest s = (rest.map fun _ => .ok .none, t) ∧ t.nans = s.nans ∧
      ∀ k r, rest[k]? = some r → t.component? r =
        some ((comp r).atHeight (top + size above + topOf y size rest k)) := by
  induction rest generalizing above s d top with
  | nil => exact ⟨s, rfl, rfl, fun k r h => by cases h⟩
  | cons r rest ih =>
    obtain ⟨freshHere, distinct⟩ := List.nodup_cons.1 distinct
    obtain ⟨hr, hrest⟩ := List.forall_mem_cons.1 there
    obtain ⟨hyr, hyrest⟩ := List.forall_mem_cons.1 hy
    obtain ⟨hsizer, hsizerest⟩ := List.forall_mem_cons.1 hsize
    obtain ⟨unattachedHere, unattachedRest⟩ := List.forall_mem_cons.1 unattached
    have placed : Edit.stackBelow r (.object above) (.inside c s) s =
        .ok () (s.put r (.component ((comp r).atHeight (y r + (top + size above))))) :=
      Edit.stackBelow_eq_ok hr habove htop hd hyr
    have called := attempt_stackBelow hr unattachedHere (.object above) c
    rw [outcome_eq_ok placed, after_eq_ok placed] at called
    -- The component is there at its new height, and the others are as they were.
    have self := Store.component?_put_self (Store.lt_length_of_component? hr)
      ((comp r).atHeight (y r + (top + size above)))
    have others : ∀ q ∈ rest, (s.put r (.component ((comp r).atHeight
        (y r + (top + size above))))).component? q = some (comp q) := fun q hq => by
      rw [Store.component?_put_of_ne (by rintro rfl; exact freshHere hq), hrest q hq]
    obtain ⟨t, ht, nans, tops⟩ := ih self rfl hsizer distinct freshHere others hyrest hsizerest
      unattachedRest
    refine ⟨t, by rw [stackAll, called]; dsimp only; rw [ht]; rfl, nans, fun k q hq => ?_⟩
    cases k with
    | succ k =>
      rw [tops k q hq, Component.topOf_cons_succ]
      congr 2
      omega
    | zero =>
      obtain rfl := Option.some.inj hq
      -- Nobody below puts it anywhere else.
      have stays := (displaces_stackAll c self distinct others hyrest
        unattachedRest).component?_of_not freshHere
      rw [ht] at stays
      rw [stays, self, Component.topOf_cons_zero]
      congr 2
      omega

end Action

/-! ### What is done afterwards -/

namespace Deed

/-- The store that deeds leave, one after the other. -/
def leaveAll (c : Circumstances) : List Deed → Store → Store
  | [], s => s
  | d :: ds, s => leaveAll c ds (d.leaves c s)

/-- Whatever adjusts other components leaves a component as it is. -/
theorem component?_leaveAll {s : Store} (hs : s.IsQuiet) {q : Ref} {d : Component}
    (hq : s.component? q = some d) (c : Circumstances) {deeds : List Deed}
    (others : ∀ deed ∈ deeds, ∃ r, r ≠ q ∧ (s.component? r).isSome ∧ deed.Adjusts r) :
    ∃ v, (leaveAll c deeds s).component? q = some { d with instruction := v } := by
  induction deeds generalizing s d with
  | nil => exact ⟨d.instruction, hq⟩
  | cons deed deeds ih =>
    obtain ⟨⟨r, hne, hr, adjusts⟩, others⟩ := List.forall_mem_cons.1 others
    obtain ⟨comp, hr⟩ := Option.isSome_iff_exists.1 hr
    have edited := edits_of_adjusts hs c hr adjusts
    obtain ⟨d', hd', -, here | ⟨v, rfl⟩⟩ := edited.component q d hq
    · exact absurd here hne
    · obtain ⟨w, hw⟩ := ih (edited.quiet hs) hd' fun deed hdeed => by
        obtain ⟨r', hne', hr', adjusts'⟩ := others deed hdeed
        obtain ⟨comp', hr'⟩ := Option.isSome_iff_exists.1 hr'
        obtain ⟨comp'', hr'', -⟩ := edited.component r' comp' hr'
        exact ⟨r', hne', by rw [hr'']; rfl, adjusts'⟩
      exact ⟨w, hw⟩

end Deed

namespace Action

variable {s : Store} {above : Ref} {rest : List Ref} {comp : Ref → Component} {y : Ref → Int}

open Component (topOf)

/-- What holds of every stack, of whatever kinds its components are. Stacking changes nothing but
the heights of those that are put below others. Where the sizes are whole numbers each of them ends
up at the sum of the places down to it and of the sizes above it, so that they do not overlap.
Afterwards each of them stays where it is, whatever is done to others. -/
theorem stacking (distinct : (above :: rest).Nodup)
    (there : ∀ r ∈ above :: rest, s.component? r = some (comp r))
    (hy : ∀ r ∈ above :: rest, (comp r).y = .int (y r))
    (unattached : ∀ r ∈ rest, s.attached.lookup (r, "below_of") = none) (c : Circumstances) :
    let stack := above :: rest
    let run := stackAll c above rest s
    s.Displaced (· ∈ rest) run.2 ∧
    (∀ size : Ref → Int, (∀ r ∈ stack, (comp r).footprint = .ok (.int (size r))) →
      run.1 = (rest.map fun _ => .ok .none) ∧ run.2.nans = s.nans ∧
      (∀ k r, stack[k]? = some r →
        run.2.component? r = some ((comp r).atHeight (topOf y size stack k))) ∧
      ((∀ r ∈ stack, 0 ≤ size r) → (∀ r ∈ rest, 0 ≤ y r) →
        ∀ i j r, i < j → j < stack.length → stack[i]? = some r →
          topOf y size stack i + size r ≤ topOf y size stack j)) ∧
    (s.IsQuiet → ∀ (deeds : List Deed) (q : Ref) (d : Component), run.2.component? q = some d →
      (∀ deed ∈ deeds, ∃ r, r ≠ q ∧ (run.2.component? r).isSome ∧ deed.Adjusts r) →
      ∃ v, (Deed.leaveAll c deeds run.2).component? q = some { d with instruction := v }) := by
  intro stack run
  obtain ⟨fresh, distinctRest⟩ := List.nodup_cons.1 distinct
  obtain ⟨habove, hrest⟩ := List.forall_mem_cons.1 there
  obtain ⟨hyabove, hyrest⟩ := List.forall_mem_cons.1 hy
  have displaced : s.Displaced (· ∈ rest) run.2 :=
    displaces_stackAll c habove distinctRest hrest hyrest unattached
  refine ⟨displaced, fun size hsize => ?_, fun hs deeds q d hq others => ?_⟩
  · obtain ⟨hsizeabove, hsizerest⟩ := List.forall_mem_cons.1 hsize
    obtain ⟨t, ht, nans, tops⟩ := stackAll_whole c habove hyabove hsizeabove distinctRest fresh
      hrest hyrest hsizerest unattached
    have run_eq : run = (rest.map fun _ => .ok .none, t) := ht
    rw [run_eq] at displaced ⊢
    refine ⟨rfl, nans, fun k r hr => ?_, fun positive below i j r hij hj hi =>
      Component.topOf_add_le hi hij hj positive below⟩
    cases k with
    | zero =>
      obtain rfl := Option.some.inj hr
      rw [displaced.component?_of_not fresh, habove, Component.topOf_cons_zero,
        Component.atHeight, ← hyabove]
    | succ k => rw [tops k r hr, Component.topOf_cons_succ]
  · refine Deed.component?_leaveAll (displaced.isQuiet hs fun q hq => ⟨_, hrest q hq⟩) hq c others

/-- A stack of a text, a barcode and a rectangle, and what is left of it when the text is moved. -/
theorem stacking_mixed :
    let text : Component := { y := .int 100, kind := .text { content := "A" } }
    let bars : Component := { y := .int 5, kind := .barcode { data := "A1", placement := .below } }
    let box : Component :=
      { y := .int 7, kind := .shape { figure := .rectangle 0, width := 10, height := .int 40 } }
    let s : Store := { things := [.component text, .component bars, .component box] }
    let run := stackAll {} 0 [1, 2] s
    run.1 = [.ok .none, .ok .none] ∧
      run.2.component? 1 = some (bars.atHeight 135) ∧
      run.2.component? 2 = some (box.atHeight 232) ∧
      ∃ v, (Deed.leaveAll {} [.call 0 "set_margin_top" { inRow := [50] }] run.2).component? 2 =
        some { box.atHeight 232 with instruction := v } := by
  intro text bars box s run
  have quiet : s.IsQuiet := by
    refine ⟨fun _ _ _ => rfl, fun r m h => ?_⟩
    have mem : Thing.method m ∈ s.things := List.mem_of_getElem? h
    simp [s] at mem
  have there : ∀ r ∈ [0, 1, 2], s.component? r = some ([text, bars, box].getD r text) := by
    simp [s, Store.component?, Store.thing?]
  have distinct : ([0, 1, 2] : List Ref).Nodup := by decide
  obtain ⟨-, whole, later⟩ := stacking (s := s) distinct there (y := fun r => [100, 5, 7].getD r 0)
    (by simp [text, bars, box]) (fun _ _ => rfl) {}
  have sizes : ∀ r ∈ [0, 1, 2], ([text, bars, box].getD r text).footprint =
      .ok (.int ([30, 90, 41].getD r 0)) := by
    simp only [List.forall_mem_cons]
    exact ⟨rfl, rfl, rfl, List.forall_mem_nil _⟩
  obtain ⟨answers, -, tops, -⟩ := whole (fun r => [30, 90, 41].getD r 0) sizes
  have adjusted : ∀ deed ∈ [Deed.call 0 "set_margin_top" { inRow := [50] }],
      ∃ r, r ≠ 2 ∧ (run.2.component? r).isSome ∧ deed.Adjusts r :=
    List.forall_mem_singleton.2
      ⟨0, by decide, Option.isSome_iff_exists.2 ⟨_, tops 0 0 rfl⟩, rfl, by decide⟩
  exact ⟨answers, tops 1 1 rfl, tops 2 2 rfl, later quiet _ 2 _ (tops 2 2 rfl) adjusted⟩

/-- A rectangle that a margin took half a dot from, below a text that ends at an odd number that no
binary floating-point number is equal to. What is put below the rectangle does not begin where the
text has ended. -/
theorem stacking_fractional :
    let high : Component :=
      { y := .int 9007199254740992, kind := .text { content := "A", fontSize := 1 } }
    let half : Component :=
      { kind := .shape
          { figure := .rectangle 0, width := .int 10, height := .float (.finite true 1 (-1)) } }
    let low : Component := { kind := .text { content := "C" } }
    let s : Store := { things := [.component high, .component half, .component low] }
    high.footprint = .ok (.int 1) ∧
      half.footprint.toOption.map (·.isPositive) = some true ∧
      ∃ top, ((stackAll {} 0 [1, 2] s).2.component? 2).bind (·.y.number?) = some top ∧
        top.atLeast (9007199254740992 + 1) = false := by
  intro high half low s
  exact ⟨rfl, by decide +kernel, .float (.finite false 4503599627370496 1), by decide +kernel,
    by decide +kernel⟩

end Action

end Zpl
