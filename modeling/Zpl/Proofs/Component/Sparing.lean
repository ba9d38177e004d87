import Zpl.Proofs.Component.Following

/-!
# What components are spared

Much of what an edit does is not about components at all. Values are computed, and stored where they
are lists or sets; texts are printed, which may generate instructions on the way; a warning is
logged and its handler is told. All of that spares the components: they stay what they are, apart
from their instructions. It is one of the relations that actions follow, open to further objects.

The handler of a warning may be anything that callers put there. It spares the components because
nobody asked for a method of theirs to be called later, which is what a store being quiet means.

## Main definitions

* `Store.Spared` — the components of one store are those of another one.
* `Action.Spares` — an action after which the components are spared, whether it fails or not.

## Main results

* `Action.Spares.bind` and others — closure under what actions are made of.
* `Edit.spares_addInto`, `spares_subInto` — arithmetic on stored values.
* `Edit.spares_warn` — warnings.
-/

namespace Zpl

namespace Store

/-- The components of `t` are those of `s`, apart from their instructions. There may be more
objects, but no component is among them. -/
structure Spared (s t : Store) : Prop where
  components : ∀ r, t.component? r = s.component? r ∨
    ∃ c v, s.component? r = some c ∧ t.component? r = some { c with instruction := v }
  methods : ∀ r m, t.thing? r = some (.method m) → s.thing? r = some (.method m)
  attached : t.attached = s.attached
  grows : s.things.length ≤ t.things.length

variable {s t u : Store} {r : Ref}

namespace Spared

theorem refl (s : Store) : s.Spared s :=
  ⟨fun _ => .inl rfl, fun _ _ h => h, rfl, Nat.le_refl _⟩

theorem trans (h : s.Spared t) (k : t.Spared u) : s.Spared u := by
  refine ⟨fun r => ?_, fun r m hm => h.methods r m (k.methods r m hm),
    k.attached.trans h.attached, Nat.le_trans h.grows k.grows⟩
  rcases k.components r with hr | ⟨c, v, hc, hr⟩
  · rw [hr]
    exact h.components r
  · rcases h.components r with kr | ⟨c', v', hc', kr⟩
    · exact .inr ⟨c, v, kr.symm.trans hc, hr⟩
    · obtain rfl := Option.some.inj (hc.symm.trans kr)
      exact .inr ⟨c', v, hc', hr⟩

theorem isQuiet (h : s.Spared t) (hs : s.IsQuiet) : t.IsQuiet :=
  ⟨hs.genuine.congr h.attached, fun r m hm => hs.methods r m (h.methods r m hm)⟩

/-- What is a component afterwards was one before, apart from its instruction. -/
theorem component?_before (h : s.Spared t) {c : Component} (hc : t.component? r = some c) :
    ∃ v, s.component? r = some { c with instruction := v } := by
  rcases h.components r with hr | ⟨c', v, hc', hr⟩
  · exact ⟨c.instruction, hr.symm.trans hc⟩
  · obtain rfl := Option.some.inj (hr.symm.trans hc)
    exact ⟨c'.instruction, hc'⟩

/-- A component is still there, apart from its instruction. -/
theorem component? (h : s.Spared t) {c : Component} (hc : s.component? r = some c) :
    ∃ v, t.component? r = some { c with instruction := v } := by
  rcases h.components r with hr | ⟨c', v, hc', hr⟩
  · exact ⟨c.instruction, hr.trans hc⟩
  · obtain rfl := Option.some.inj (hc'.symm.trans hc)
    exact ⟨v, hr⟩

/-- What is no component does not become one. -/
theorem component?_eq_none (h : s.Spared t) (hn : s.component? r = none) :
    t.component? r = none := by
  rcases h.components r with hr | ⟨c, v, hc, -⟩
  · exact hr.trans hn
  · simp [hn] at hc

/-- Only objects and what is attached to them matter, not events. -/
theorem of_things (ht : t.things = s.things) (ha : t.attached = s.attached) : s.Spared t := by
  have thing (r : Ref) : t.thing? r = s.thing? r := by rw [thing?, ht, thing?]
  refine ⟨fun r => .inl ?_, fun r m hm => thing r ▸ hm, ha, Nat.le_of_eq (congrArg _ ht).symm⟩
  rw [Store.component?, thing, Store.component?]

theorem of_reprinted {touched : Ref → Prop} (h : s.Reprinted touched t) : s.Spared t := by
  refine ⟨fun r => ?_, fun r m hm => ?_, h.attached, Nat.le_of_eq h.length.symm⟩
  · rcases h.things r with hr | ⟨-, c, v, hs, -, ht⟩
    · left
      rw [Store.component?, hr, Store.component?]
    · exact .inr ⟨c, v, component?_eq_some_iff.2 hs, component?_eq_some_iff.2 ht⟩
  · rcases h.things r with hr | ⟨-, c, v, -, -, ht⟩
    · exact hr ▸ hm
    · simp [ht] at hm

end Spared

/-! ### Objects that are no components -/

/-- Where an object was added, what else there is was there before. -/
theorem thing?_of_add {q : Ref} {x y : Thing}
    (h : Store.thing? { s with things := s.things ++ [x] } q = some y) :
    s.thing? q = some y ∨ y = x := by
  rcases Nat.lt_or_ge q s.things.length with hq | hq
  · exact .inl ((List.getElem?_append_left hq).symm.trans h)
  · right
    have hlt := (List.getElem?_eq_some_iff.1 h).1
    rw [List.length_append, List.length_singleton] at hlt
    obtain rfl : q = s.things.length := Nat.le_antisymm (Nat.lt_succ_iff.1 hlt) hq
    simpa [Store.thing?, eq_comm] using h

namespace Spared

variable {x : Thing}

/-- What is no component is replaced by something that is none. -/
theorem put (hn : s.component? r = none) (hx : x.IsAside) : s.Spared (s.put r x) := by
  have there {y : Thing} (hy : (s.put r x).thing? r = some y) : y = x := by
    have hlt : r < s.things.length := by
      simpa [Store.put] using (List.getElem?_eq_some_iff.1 hy).1
    rw [thing?_put_self hlt] at hy
    exact (Option.some.inj hy).symm
  refine ⟨fun q => .inl ?_, fun q m hm => ?_, rfl, by simp [Store.put]⟩
  · by_cases hq : r = q
    · subst hq
      rw [hn, Option.eq_none_iff_forall_ne_some]
      intro c hc
      cases there (component?_eq_some_iff.1 hc)
      exact hx
    · rw [component?_put_of_ne hq]
  · by_cases hq : r = q
    · subst hq
      cases there hm
      exact hx.elim
    · rwa [thing?_put_of_ne hq] at hm

/-- An object is added that is no component. -/
theorem add (hx : x.IsAside) : s.Spared { s with things := s.things ++ [x] } := by
  refine ⟨fun q => .inl ?_, fun q m hm => ?_, rfl, by simp⟩
  · rw [Option.ext_iff]
    intro c
    rw [component?_eq_some_iff, component?_eq_some_iff]
    refine ⟨fun hc => (thing?_of_add hc).resolve_right fun h => ?_, fun hc => ?_⟩
    · exact (h ▸ hx : (Thing.component c).IsAside)
    · exact (List.getElem?_append_left (List.getElem?_eq_some_iff.1 hc).1).trans hc
  · refine (thing?_of_add hm).resolve_right fun h => ?_
    exact (h ▸ hx : (Thing.method m).IsAside)

instance : IsOpenFrame Spared where
  refl := refl
  trans := trans
  quiet := isQuiet
  of_things := of_things
  add := add

end Spared

end Store

/-! ### Actions -/

namespace Action

variable {α β : Type} {around : Surroundings} {s : Store} {r : Ref}

/-- The components of a quiet store are spared by an action, whether it fails or not. -/
def Spares (x : Action α) (around : Surroundings) (s : Store) : Prop :=
  s.IsQuiet → s.Spared (x.after around s)

namespace Spares

/-- What prints at most spares the components. -/
theorem of_regenerates {x : Action α} (h : x.Regenerates) : x.Spares around s :=
  fun hs => .of_reprinted (h around s hs.genuine).toReprinted

theorem pure (a : α) : (Pure.pure a : Action α).Spares around s :=
  Follows.pure (R := Store.Spared) a

theorem throw (fault : Fault) : (throw fault : Action α).Spares around s :=
  Follows.throw (R := Store.Spared) fault

theorem lift (e : Except Fault α) : (liftM e : Action α).Spares around s :=
  Follows.lift (R := Store.Spared) e

/-- What comes second starts from some store in which the components were spared. -/
theorem bind {x : Action α} {f : α → Action β} (hx : x.Spares around s)
    (hf : ∀ a t, s.Spared t → (f a).Spares around t) : (x >>= f).Spares around s :=
  Follows.bind (R := Store.Spared) hx hf

theorem component_bind {f : Component → Action α}
    (hf : ∀ c, (f c).Spares around s) : (component r >>= f).Spares around s :=
  Follows.component_bind (R := Store.Spared) fun c _ => hf c

theorem get_bind {f : Store → Action α} (hf : (f s).Spares around s) :
    ((get : Action Store) >>= f).Spares around s :=
  Follows.get_bind (R := Store.Spared) hf

theorem directory_bind {f : Directory → Action α} (hf : (f s.directory).Spares around s) :
    (directory >>= f).Spares around s :=
  Follows.directory_bind (R := Store.Spared) hf

/-- Whatever is done with the scribe of a store. -/
theorem scribe_bind {f : Scribe Action → Action α}
    (hf : ∀ sc : Scribe Action, sc.Regenerates → (f sc).Spares around s) :
    (scribe >>= f).Spares around s :=
  Follows.scribe_bind (R := Store.Spared) hf

theorem add {x : Thing} (hx : x.IsAside) : (add x).Spares around s := fun _ => .add hx

/-- What is no component is replaced by something that is none. -/
theorem put (hn : s.component? r = none) {x : Thing} (hx : x.IsAside) :
    (put r x).Spares around s :=
  fun _ => .put hn hx

/-- Issuing events changes no object. -/
theorem issue (op : Issuing α) : (issue op).Spares around s := by
  intro _
  simp only [after, Action.issue]
  cases op s.events <;> exact .of_things rfl rfl

end Spares

end Action

/-! ### Sets -/

namespace Collection

open Zpl.Action

variable {around : Surroundings} {s : Store}

/-- What is a set is no component. -/
theorem component?_of_seats? {r : Ref} {seats : Seats Value}
    (h : seats? s (.object r) = some seats) : s.component? r = none := by
  unfold seats? at h
  dsimp only at h
  split at h
  · rename_i hthing
    simp [Store.component?, hthing]
  · simp at h

/-- Taking a set from a set changes an object that is a set. -/
theorem spares_subtractFrom? (v w : Value) : (subtractFrom? v w).Spares around s := by
  refine .get_bind ?_
  split
  · rename_i r seats _ _ hseats
    have isSet := component?_of_seats? hseats
    have putting (seats : Seats Value) (t : Store) (ht : s.Spared t) :
        (put r (.set seats)).Spares around t :=
      .put (x := .set seats) (ht.component?_eq_none isSet) trivial
    split
    · exact (putting _ s (.refl s)).bind fun _ _ _ => .pure _
    · exact Spares.bind (follows_part putting seats w) fun seats t ht =>
        (putting seats t ht).bind fun _ _ _ => .pure _
  · exact follows_difference? _ w

end Collection

/-! ### Arithmetic -/

namespace Edit

open Zpl.Action

variable {around : Surroundings} {s : Store}

/-- What is a list is no component. -/
theorem component?_of_items? {r : Ref} {vs : List Value} (h : s.items? r = some vs) :
    s.component? r = none := by
  unfold Store.items? Store.content? at h
  cases hthing : s.thing? r with
  | none => simp [hthing] at h
  | some x =>
    unfold Store.component?
    cases x <;> simp_all

/-- A stored list that takes values in is no component. -/
theorem spares_addInto (v w : Value) : (addInto v w).Spares around s := by
  unfold addInto
  split
  · rename_i r
    refine .get_bind ?_
    split
    · rename_i vs hvs
      have isList := component?_of_items? hvs
      refine .directory_bind (.bind (.lift _) fun ws t ht => ?_)
      exact (Spares.put (x := .content (.list (vs ++ ws)))
        (ht.component?_eq_none isList) trivial).bind fun _ _ _ => .pure _
    · exact .directory_bind (.bind (follows_explained _ _ _ _) fun _ _ _ => follows_made _ _ _)
  · exact .directory_bind (.bind (follows_explained _ _ _ _) fun _ _ _ => follows_made _ _ _)

theorem spares_subInto (v w : Value) : (subInto v w).Spares around s := by
  refine (Collection.spares_subtractFrom? v w).bind fun left _ _ => ?_
  split
  · exact .pure _
  · exact Spares.bind (follows_explained _ _ _ _) fun _ _ _ => follows_made _ _ _

/-- A size less a margin may be a value of its own. -/
theorem spares_reduced (size : Number) (margin : Value) :
    (reduced size margin).Spares around s := by
  refine (spares_subInto _ _).bind fun _ _ _ => .bind (.lift _) fun n _ _ => ?_
  cases n with
  | int n => exact .pure _
  | float x => exact .bind (follows_distinct x) fun _ _ _ => .pure _

end Edit

/-! ### Calling values -/

/-- Components are spared when a value is called that stands in the place of a method. -/
def Surroundings.IsSparing (around : Surroundings) : Prop :=
  ∀ v call s, (Action.invoke v call).Spares around s

namespace Action

variable {around : Surroundings} {s : Store}

/-- A handler is told of a warning, and that is all. -/
theorem spares_tell (call : Call) : (tell call).Spares around s := by
  refine .bind (.lift _) fun values _ _ => ?_
  split
  · exact (Spares.of_regenerates (.read _ _)).bind fun _ _ _ =>
      .directory_bind ((Spares.issue _).bind fun _ _ _ => .pure _)
  · exact .throw _

/-- Where no method was asked for, handlers are all that can be called. -/
theorem spares_callObject (v : Value) (call : Call) : (callObject v call).Spares around s := by
  have refused (v : Value) : (uncallable v >>= fun fault => throw fault : Action Value).Spares
      around s := .of_regenerates (.bind (.of_after fun _ _ => rfl) fun _ => .throw _)
  unfold callObject
  split
  · rename_i r
    intro hs
    rw [after_bind, after_thing]
    split
    · rename_i x hx
      have there : s.thing? r = some x := eq_some_of_outcome_demand hx
      cases x with
      | handler => exact spares_tell call hs
      | method m => exact (hs.methods r m there).elim
      | _ => exact refused _ hs
    · exact .refl s
  · exact refused _

/-- What goes by a name is looked at; a window on a record may be made of it. -/
theorem spares_attribute? (r : Ref) (name : String) :
    (attribute? (.object r) name).Spares around s := by
  have opening : (windowOf? r name).Spares around s := by
    refine .get_bind ?_
    split
    · split
      · exact Spares.bind (.add trivial) fun _ _ _ => .pure _
      · exact .pure _
    · exact .pure _
  refine .get_bind (opening.bind fun _ _ _ => ?_)
  split
  · exact .bind (.lift _) fun _ _ _ => .pure _
  · exact .pure _

end Action

/-- Calling a value spares components, to whatever depth operations call each other. -/
theorem Surroundings.isSparing_within (c : Circumstances) (fuel : Nat) :
    (Surroundings.within c fuel).IsSparing := by
  intro v call s
  cases fuel with
  | zero => exact fun _ => .refl s
  | succ fuel =>
    have called : (Action.callObject v call).Spares (.within c fuel) s :=
      Action.spares_callObject v call
    exact called

namespace Edit

open Zpl.Action

variable {around : Surroundings} {s : Store}

/-- A handler is told of a warning, or whatever stands in its place is called. -/
theorem spares_listener (sparing : around.IsSparing) (r : Ref) (c : Component) (message : Text) :
    (match c.listener with
      | .none => pure ()
      | listener => do
        if (← get).isHandler listener then
          issue (Issuing.emit (.warning c.kind.name c.id (.text message)))
        else
          let _ ← invoke listener { inRow := [.object r, .text message] } : Action Unit).Spares
      around s := by
  split
  · exact .pure _
  · refine .get_bind ?_
    split
    · exact .issue _
    · exact Spares.bind (sparing _ _ s) fun _ _ _ => .pure _

/-- A warning prints the component, and tells its handler. -/
theorem spares_warn (sparing : around.IsSparing) (r : Ref) (message : Text) :
    (warn r message).Spares around s := by
  refine .component_bind fun c => .directory_bind ?_
  by_cases named : c.id.truth s.directory = true
  · simp only [named, if_true]
    refine (Spares.of_regenerates (regenerates_shown _)).bind fun id t _ => ?_
    exact (Spares.pure _).bind fun tag t _ => (Spares.issue _).bind fun _ t _ =>
      spares_listener sparing r c message
  · simp only [named]
    exact (Spares.pure _).bind fun tag t _ => (Spares.issue _).bind fun _ t _ =>
      spares_listener sparing r c message

theorem spares_alignmentOf (v : Value) : (alignmentOf v).Spares around s :=
  .bind (.scribe_bind fun _ hsc => .of_regenerates (Value.regenerates_token hsc v)) fun _ _ _ =>
    .pure _

/-- The length by which a barcode is laid out is a whole number. -/
theorem int_of_printedLength (hs : s.IsQuiet) {r : Ref} {v : Value}
    (h : (printedLength r).outcome around s = .ok v) : ∃ n, v = .int n := by
  rw [printedLength, outcome_dispatch hs.genuine (by decide)] at h
  obtain ⟨c, -, h⟩ := exists_of_outcome_bind h
  split at h
  · obtain ⟨d, -, h⟩ := exists_of_outcome_bind h
    obtain ⟨n, -, h⟩ := exists_of_outcome_bind h
    cases h
    exact ⟨n, rfl⟩
  · cases h

theorem spares_ignoreAlignment (source : Source) (before : Text) (v : Value) (after : Text) :
    (ignoreAlignment source before v after).Spares around s :=
  .of_regenerates (.logWorded ((regenerates_quoted v).bind fun _ => .pure _) _ _)

end Edit

end Zpl
