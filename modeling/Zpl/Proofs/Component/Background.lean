import Zpl.Proofs.Component.Setting
import Zpl.Proofs.Component.Touching

/-!
# Making a background

A background is a rectangle of its own: it is made from nothing but what the barcode shows, and only
the barcode gets to know of it. So all other objects stay exactly what they are, whatever becomes of
the attempt, and the barcode gets nothing new but the reference. That is as long as nothing is
printed on the way which might be a label: a plain color is not, and the sizes that are computed are
numbers, which an attribute of a rectangle takes or leaves without a word.

## Main definitions

* `Action.Looks` — an action that only looks at a store.
* `Store.Kept` — all objects but some stay exactly as they are.
* `Action.IsCalm` — a judgement that neither prints nor rejects.

## Main results

* `Action.keeps_makeBackground` — making a background keeps all objects that there were.
* `Action.yields_makeBackground` — and what is made is a new component with nothing behind it.
* `Action.applyBackground_spec` — what becomes of a barcode that is given a background.
-/

namespace Zpl

/-! ### Looking -/

namespace Action

variable {α β : Type}

/-- An action that leaves every store as it is. -/
def Looks (x : Action α) : Prop := ∀ around s, x.after around s = s

namespace Looks

theorem pure (a : α) : (Pure.pure a : Action α).Looks := fun _ _ => rfl

theorem lift (e : Except Fault α) : (liftM e : Action α).Looks := after_lift e

theorem bind {x : Action α} {f : α → Action β} (hx : x.Looks) (hf : ∀ a, (f a).Looks) :
    (x >>= f).Looks := by
  intro around s
  rw [after_bind, hx]
  split
  · exact hf _ around s
  · rfl

end Looks

end Action

/-! ### Objects that stay -/

namespace Store

variable {changed : Ref → Prop} {s t u : Store} {r : Ref}

/-- All objects of `s` but some stay exactly as they are, and so does all that is attached. There
may be more objects. -/
structure Kept (changed : Ref → Prop) (s t : Store) : Prop where
  thing : ∀ r x, s.thing? r = some x → changed r ∨ t.thing? r = some x
  attached : t.attached = s.attached
  methods : ∀ r m, t.thing? r = some (.method m) → s.thing? r = some (.method m)
  grows : s.things.length ≤ t.things.length

namespace Kept

theorem of_things (ht : t.things = s.things) (ha : t.attached = s.attached) : s.Kept changed t := by
  have thing (r : Ref) : t.thing? r = s.thing? r := by rw [thing?, ht, thing?]
  exact ⟨fun r x hx => .inr ((thing r).trans hx), ha, fun r m hm => thing r ▸ hm,
    Nat.le_of_eq (congrArg _ ht).symm⟩

theorem trans (h : s.Kept changed t) (k : t.Kept changed u) : s.Kept changed u :=
  ⟨fun r x hx => (h.thing r x hx).elim .inl (k.thing r x), k.attached.trans h.attached,
    fun r m hm => h.methods r m (k.methods r m hm), Nat.le_trans h.grows k.grows⟩

theorem component? (h : s.Kept changed t) {c : Component} (hc : s.component? r = some c) :
    changed r ∨ t.component? r = some c :=
  (h.thing r _ (component?_eq_some_iff.1 hc)).imp_right component?_eq_some_iff.2

theorem add {x : Thing} (hx : ∀ m, x ≠ .method m) :
    s.Kept changed { s with things := s.things ++ [x] } where
  thing r y hy :=
    .inr ((List.getElem?_append_left (List.getElem?_eq_some_iff.1 hy).1).trans hy)
  attached := rfl
  methods r m hm := (thing?_of_add hm).resolve_right fun h => hx m h.symm
  grows := by simp

instance : IsOpenFrame (Kept changed) where
  refl _ := of_things rfl rfl
  trans := trans
  quiet h hs := ⟨hs.genuine.congr h.attached, fun r m hm => hs.methods r m (h.methods r m hm)⟩
  of_things := of_things
  add hx := add fun m hm => (hm ▸ hx : (Thing.method m).IsAside)

/-- What is no method is put in the place of an object that may change. -/
theorem put (hr : changed r) {x : Thing} (hx : ∀ m, x ≠ .method m) :
    s.Kept changed (s.put r x) where
  thing q y hy := by
    by_cases hq : r = q
    · exact .inl (hq ▸ hr)
    · exact .inr ((thing?_put_of_ne hq x).trans hy)
  attached := rfl
  methods q m hm := by
    by_cases hq : r = q
    · subst hq
      have there : r < s.things.length := by
        simpa [Store.put] using (List.getElem?_eq_some_iff.1 hm).1
      rw [thing?_put_self there] at hm
      exact absurd (Option.some.inj hm) (hx m)
    · rwa [thing?_put_of_ne hq] at hm
  grows := by simp [Store.put]

end Kept

end Store

namespace Action

variable {α : Type} {changed : Ref → Prop} {around : Surroundings} {s : Store} {r : Ref}

/-- An action that keeps all objects of a quiet store but some, whether it fails or not. -/
abbrev Keeps (x : Action α) (changed : Ref → Prop) (around : Surroundings) (s : Store) : Prop :=
  x.Follows (Store.Kept changed) around s

theorem keeps_add {x : Thing} (hx : ∀ m, x ≠ .method m) : (add x).Keeps changed around s :=
  fun _ => .add hx

theorem keeps_modifyComponent (hr : changed r) (f : Component → Component) :
    (modifyComponent r f).Keeps changed around s :=
  .component_bind fun _ _ _ => .put hr nofun

end Action

/-! ### Judging without a word -/

namespace Action

variable {α β : Type}

/-- A judgement that only looks at the store and does not reject. -/
structure IsCalm (judgement : Action (Verdict α)) : Prop where
  looks : judgement.Looks
  accepts : ∀ around s message, judgement.outcome around s ≠ .ok (.rejected message)

namespace IsCalm

theorem ignored : (pure .ignored : Action (Verdict α)).IsCalm := ⟨.pure _, by simp⟩

theorem accepted (a : α) : (pure (.accepted a) : Action (Verdict α)).IsCalm := ⟨.pure _, by simp⟩

theorem map {f : α → β} {judgement : Action (Verdict α)} (h : judgement.IsCalm) :
    (Verdict.map f <$> judgement).IsCalm := by
  rw [map_eq_pure_bind]
  refine ⟨.bind h.looks fun _ => .pure _, fun around s message hm => ?_⟩
  obtain ⟨verdict, hverdict, hm⟩ := exists_of_outcome_bind hm
  cases verdict with
  | rejected message' => exact h.accepts around s message' hverdict
  | accepted a => cases hm
  | ignored => cases hm

end IsCalm

end Action

namespace Judgement

open Zpl.Action

variable {sc : Scribe Action} {v : Value} {a : Number}

theorem acceptWhole_isCalm (a : Number) : (acceptWhole a : Action (Verdict Int)).IsCalm := by
  refine ⟨.bind (.lift _) fun _ => .pure _, fun around s message hm => ?_⟩
  obtain ⟨n, -, hm⟩ := exists_of_outcome_bind hm
  cases hm

theorem dots_isCalm (h : v.dots? = some a) (name : Text) : (dots sc name v).IsCalm := by
  rw [dots, h]
  dsimp only
  split
  · exact acceptWhole_isCalm a
  · exact .ignored

theorem thickness_isCalm (h : v.dots? = some a) : (thickness sc v).IsCalm := by
  rw [thickness, h]
  dsimp only
  split
  · exact acceptWhole_isCalm a
  · split
    · exact .accepted 1
    · exact .ignored

theorem cornerRadius_isCalm : (cornerRadius sc (.int 0)).IsCalm := acceptWhole_isCalm (.int 0)

/-- A plain value that names a color is accepted as that color. -/
theorem color_isCalm (hplain : v.IsPlain) {t : Text} (ht : v.token .plain = .ok t) {c : Color}
    (h : choice? t = some c) : (color sc v).IsCalm := by
  have reads : v.token sc = (pure t : Action Text) := by
    rw [Value.token_eq sc hplain, ht]
    rfl
  have accepted : color sc v = (pure (.accepted c) : Action (Verdict Color)) := by
    rw [color, reads, pure_bind, h]
  rw [accepted]
  exact .accepted c

end Judgement

/-- Values that an attribute of a shape takes or leaves without a word. -/
def Attribute.IsCalm (v : Value) : Attribute → Prop
  | .width | .height | .thickness => ∃ a, v.dots? = some a
  | .color => v.IsPlain ∧ ∃ t c, v.token .plain = .ok t ∧ choice? (α := Color) t = some c
  | .cornerRadius => v = .int 0
  | _ => False

section

open Zpl.Action Judgement

theorem Shape.assign?_isCalm {sc : Scribe Action} {form : Shape} {a : Attribute} {v : Value}
    (h : a.IsCalm v) {judgement : Action (Verdict Shape)}
    (hj : form.assign? sc v a = some judgement) : judgement.IsCalm := by
  obtain ⟨figure, width, height, thickness, color⟩ := form
  cases a with
  | width => obtain ⟨_, h⟩ := h; cases hj; exact (dots_isCalm h _).map
  | height => obtain ⟨_, h⟩ := h; cases hj; exact (dots_isCalm h _).map
  | thickness => obtain ⟨_, h⟩ := h; cases hj; exact (thickness_isCalm h).map
  | color => obtain ⟨hplain, t, c, ht, h⟩ := h; cases hj; exact (color_isCalm hplain ht h).map
  | cornerRadius =>
    cases h
    cases figure <;> cases hj
    exact cornerRadius_isCalm.map
  | _ => exact h.elim

/-- What only shapes have is not set otherwise. -/
theorem Kind.assign?_isCalm {sc : Scribe Action} {k : Kind} {a : Attribute} {v : Value}
    (h : a.IsCalm v) {judgement : Action (Verdict Kind)}
    (hj : k.assign? sc a v = some judgement) : judgement.IsCalm := by
  cases k with
  | shape form =>
    obtain ⟨_, hassign, hj⟩ := Option.bind_eq_some_iff.1 hj
    cases hj
    exact (form.assign?_isCalm h hassign).map
  | _ => cases a <;> first | exact h.elim | cases hj

end

theorem Edit.keeps_assign {changed : Ref → Prop} {around : Surroundings} {s : Store} {r : Ref}
    (hr : changed r) {a : Attribute} {v : Value} (h : a.IsCalm v) :
    (Edit.assign r a v).Keeps changed around s := by
  refine .component_bind fun c _ => .scribe_bind fun sc _ => ?_
  split
  · exact .throw _
  · rename_i judgement hjudgement
    obtain ⟨looks, accepts⟩ := Kind.assign?_isCalm h hjudgement
    refine .look_bind (looks around s) (Store.IsFrame.refl s) fun verdict hverdict => ?_
    cases verdict with
    | accepted kind => exact Action.keeps_modifyComponent hr _
    | ignored => exact .pure _
    | rejected message => exact absurd hverdict (accepts around s message)

/-! ### Backgrounds -/

/-- A whole number to which something was added is a number. -/
theorem Edit.dots_of_add {around : Surroundings} {s : Store} {n : Int} {v w : Value}
    (h : (Edit.add (.int n) w).outcome around s = .ok v) : ∃ a, v.dots? = some a := by
  obtain ⟨d, -, h⟩ := Action.exists_of_outcome_bind h
  obtain ⟨u, hu, h⟩ := Action.exists_of_outcome_bind h
  rw [Action.outcome_lift] at hu
  have sum : ∃ a, u = Value.ofNumber a := by
    have summed : ∃ w', Value.arithmetic Number.add (.int n) w' = .ok u := by
      have number : (Value.int n).opened d = .int n := rfl
      rw [Value.add, number] at hu
      split at hu <;> first | contradiction | exact ⟨_, hu⟩
    obtain ⟨w', summed⟩ := summed
    obtain ⟨a, -, summed⟩ := exists_of_bind_eq_ok summed
    obtain ⟨b, -, summed⟩ := exists_of_bind_eq_ok summed
    obtain ⟨c, -, summed⟩ := exists_of_bind_eq_ok summed
    exact ⟨c, (Except.ok.inj summed).symm⟩
  obtain ⟨a, rfl⟩ := sum
  cases a with
  | int m =>
    cases h
    exact ⟨.int m, rfl⟩
  | float x =>
    obtain ⟨y, -, h⟩ := Action.exists_of_outcome_bind h
    cases h
    exact ⟨.float y, rfl⟩

namespace Action

variable {changed edited : Ref → Prop} {around : Surroundings} {s : Store} {r : Ref} {n : Nat}

/-- A plain color is read without a look at the store, and comes to a plain color. -/
theorem maskColor_of_plain {v : Value} (h : v.IsPlain) : (maskColor v).Looks ∧
    ∀ around s v', (maskColor v).outcome around s = .ok v' → Attribute.color.IsCalm v' := by
  rw [maskColor, token_eq h]
  refine ⟨.bind (.lift _) fun t => ?_, fun around s v' hv' => ?_⟩
  · split <;> exact .pure _
  · obtain ⟨t, ht, hv'⟩ := exists_of_outcome_bind hv'
    rw [outcome_lift] at ht
    split at hv' <;> cases hv'
    · exact ⟨h, t, _, ht, ‹_›⟩
    · exact ⟨trivial, _, .white, rfl, by decide⟩

/-- An empty rectangle is made without a word. -/
theorem keeps_create_emptyRectangle (c : Component) (hn : n ≤ s.things.length) :
    (create (emptyRectangle c)).Yields (Store.Kept (n ≤ ·)) (fun r _ => n ≤ r) around s := by
  have added (c : Component) :
      (add (.component c)).Yields (Store.Kept (n ≤ ·)) (fun r _ => n ≤ r) around s :=
    (keeps_add (by simp)).yields fun r hr _ => by cases hr; exact hn
  refine .look_bind rfl fun d _ => .look_bind (after_lift _ _ _) fun blank _ =>
    .bind (added blank) fun r t ht hr => ?_
  refine Follows.returning
    (.bind (.forM fun e he _ _ => Edit.keeps_assign hr ?_) fun _ _ _ => .pure r)
    (.bind fun _ => .pure r) fun _ _ => hr
  simp only [emptyRectangle, Ingredients.assignments, List.mem_cons, List.not_mem_nil,
    or_false] at he
  rcases he with rfl | rfl | rfl | rfl | rfl
  · exact ⟨.int 0, rfl⟩
  · exact ⟨.int 0, rfl⟩
  · exact ⟨.int 1, rfl⟩
  · exact ⟨trivial, _, .black, rfl, by decide⟩
  · rfl

/-- A whole number that is grown by a padding is a number. -/
theorem keeps_grown (m : Int) (padding : Value) : (grown (.int m) padding).Yields
    (Store.Kept changed) (fun v _ => ∃ a, v.dots? = some a) around s := by
  refine Follows.yields (.bind (Edit.follows_twice _) fun _ _ _ => Edit.follows_add _ _)
    fun v hv _ => ?_
  obtain ⟨_, -, hv⟩ := exists_of_outcome_bind hv
  exact Edit.dots_of_add hv

/-- A background is filled by half of a side, which is a number. -/
theorem keeps_fillBackground (hr : changed r) : (Edit.fillBackground r).Keeps changed around s := by
  refine .component_bind fun c _ => ?_
  split
  · exact .bind (.lift _) fun a _ _ => Edit.keeps_assign hr ⟨a, Value.dots?_ofNumber a⟩
  · exact .throw _

/-- Making a background of a plain color keeps all objects that there were. -/
theorem keeps_makeBackground (r : Ref) (c : Component) (b : Barcode) {color : Value}
    (hcolor : color.IsPlain) (paddingX paddingY : Value) (hn : n ≤ s.things.length) :
    (makeBackground r c b color paddingX paddingY).Keeps (n ≤ ·) around s := by
  obtain ⟨looks, calm⟩ := maskColor_of_plain hcolor
  refine .bind (.lift _) fun paddingX _ hx => .bind (.lift _) fun paddingY t hy => ?_
  have hn : n ≤ t.things.length := Nat.le_trans hn (hx.trans hy).grows
  refine .look_bind (looks around t) (Store.IsFrame.refl t) fun color hmasked => ?_
  refine .yields_bind (keeps_create_emptyRectangle c hn) fun behind _ _ hbehind => ?_
  refine .yields_bind (P := fun v _ => ∃ m, v = .int m)
    ((Edit.follows_printedLength r).yields fun v hv hs => Edit.int_of_printedLength hs hv) ?_
  rintro _ _ _ ⟨length, rfl⟩
  refine .yields_bind (keeps_grown _ _) fun width _ _ hwidth =>
    .bind (Edit.keeps_assign (a := .width) hbehind hwidth) fun _ _ _ =>
      .yields_bind (keeps_grown _ _) fun height _ _ hheight =>
        .bind (Edit.keeps_assign (a := .height) hbehind hheight) fun _ _ _ => ?_
  exact .bind (Edit.follows_sub _ _) fun _ _ _ =>
    .bind (keeps_modifyComponent hbehind _) fun _ _ _ =>
      .bind (Edit.follows_sub _ _) fun _ _ _ =>
        .bind (keeps_modifyComponent hbehind _) fun _ _ _ =>
          .bind (Edit.keeps_assign hbehind (calm around t color hmasked)) fun _ _ _ =>
            .bind (keeps_fillBackground hbehind) fun _ _ _ => .pure _

/-! #### What is made -/

/-- A component starts out as its ingredients say. -/
theorem kind_of_blank {d : Directory} {recipe : Recipe} {c : Component}
    (h : recipe.blank d = .ok c) : c.kind = recipe.ingredients.initialKind d := by
  obtain ⟨x, -, h⟩ := exists_of_bind_eq_ok h
  obtain ⟨y, -, h⟩ := exists_of_bind_eq_ok h
  obtain ⟨width, -, h⟩ := exists_of_bind_eq_ok h
  obtain ⟨height, -, h⟩ := exists_of_bind_eq_ok h
  cases h
  rfl

/-- Nothing lies behind what was just made. -/
theorem behind_initialKind (d : Directory) (ingredients : Ingredients) {v : Value}
    (h : (ingredients.initialKind d).behind? = some v) : v = .none := by
  cases ingredients <;> cases h
  rfl

/-- What is made is a new component that has the same behind it as the kind it starts out as. -/
theorem yields_create (sparing : around.IsSparing) (recipe : Recipe) (hn : n ≤ s.things.length) :
    (create recipe).Yields (Store.Edited (n ≤ ·)) (fun q t => n ≤ q ∧ ∃ c, t.component? q = some c ∧
      c.kind.behind? = (recipe.ingredients.initialKind s.directory).behind?) around s := by
  refine .look_bind rfl fun d hd => .look_bind (after_lift _ _ _) fun blank hblank => ?_
  cases hd
  rw [outcome_lift] at hblank
  have kind := kind_of_blank hblank
  have added : (add (.component blank)).Yields (Store.Edited (n ≤ ·))
      (fun q t => n ≤ q ∧ t.component? q = some blank) around s := by
    refine Follows.yields (fun _ => .add fun v hv => ?_) fun q hq _ => ?_
    · rw [kind] at hv
      exact behind_initialKind _ _ hv
    · cases hq
      have there : (s.things ++ [.component blank])[s.things.length]? = some (.component blank) :=
        List.getElem?_concat_length
      exact ⟨hn, Store.component?_eq_some_iff.2 there⟩
  refine .bind added fun q t _ ⟨hq, there⟩ =>
    Follows.returning (.bind (.forM fun e _ _ _ => Edit.edits_assign sparing hq _ _) fun _ _ _ =>
      .pure q) (.bind fun _ => .pure q) fun u hu => ⟨hq, ?_⟩
  obtain ⟨c, hc, behind, -⟩ := hu.component q blank there
  exact ⟨c, hc, behind.trans (congrArg _ kind)⟩

/-- A background is a new component with nothing behind it. -/
theorem yields_makeBackground (sparing : around.IsSparing) (r : Ref) (c : Component) (b : Barcode)
    (color paddingX paddingY : Value) (hn : n ≤ s.things.length) :
    (makeBackground r c b color paddingX paddingY).Yields (Store.Edited (n ≤ ·))
      (fun q t => n ≤ q ∧ ∃ d, t.component? q = some d ∧ d.kind.behind? = none) around s := by
  have masked (t : Store) : (maskColor color).Edits (n ≤ ·) around t := by
    refine .bind (.scribe_bind fun _ hsc => .of_regenerates (Value.regenerates_token hsc color))
      fun _ _ _ => ?_
    split <;> exact .pure _
  have growing (size padding : Value) (t : Store) : (grown size padding).Edits (n ≤ ·) around t :=
    .bind (Edit.follows_twice _) fun _ _ _ => Edit.follows_add _ _
  refine .look_bind (after_lift _ _ _) fun paddingX _ =>
    .look_bind (after_lift _ _ _) fun paddingY _ =>
    .bind (P := fun _ _ => True) ((masked s).yields fun _ _ _ => trivial) fun color t ht _ =>
      .bind (yields_create sparing _ (Nat.le_trans hn ht.grows)) fun behind t _ made => ?_
  obtain ⟨new, d, there, empty⟩ := made
  refine Follows.returning (a := behind) ?_ ?_ fun u hu => ⟨new, ?_⟩
  · exact .bind (Edit.follows_printedLength r) fun _ _ _ =>
      .bind (growing _ _ _) fun _ _ _ =>
        .bind (Edit.edits_assign sparing new _ _) fun _ _ _ =>
          .bind (growing _ _ _) fun _ _ _ =>
            .bind (Edit.edits_assign sparing new _ _) fun _ _ _ =>
              .bind (Edit.follows_sub _ _) fun _ _ _ =>
                .bind (Edit.edits_setX new _) fun _ _ _ =>
                  .bind (Edit.follows_sub _ _) fun _ _ _ =>
                    .bind (Edit.edits_setY new _) fun _ _ _ =>
                      .bind (Edit.edits_assign sparing new _ _) fun _ _ _ =>
                        .bind (Edit.edits_fillBackground new sparing) fun _ _ _ => .pure _
  · exact .bind fun _ => .bind fun _ => .bind fun _ => .bind fun _ => .bind fun _ => .bind fun _ =>
      .bind fun _ => .bind fun _ => .bind fun _ => .bind fun _ => .bind fun _ => .pure _
  · obtain ⟨d', there', same, -⟩ := hu.component behind d there
    exact ⟨d', there', same.trans empty⟩

/-- What becomes of a barcode to which a background is applied: where none can be made, the attempt
ends there, and otherwise the barcode refers to the one that was made. -/
theorem applyBackground_spec (sparing : around.IsSparing) (hs : s.IsQuiet) {c : Component}
    {b : Barcode} (hc : s.component? r = some c) (hk : c.kind = .barcode b)
    (color paddingX paddingY : Value) :
    let making := makeBackground r c b color paddingX paddingY
    let applying := applyBackground r color paddingX paddingY
    (∃ fault, making.outcome around s = .error fault ∧ applying.outcome around s = .error fault ∧
      applying.after around s = making.after around s) ∨
    ∃ q v, making.outcome around s = .ok q ∧
      (making.after around s).component? r = some { c with instruction := v } ∧
      applying.outcome around s = .ok (.object q) ∧
      applying.after around s = (making.after around s).put r (.component { c with
        instruction := v
        kind := .barcode { b with background := .object q } }) := by
  intro making applying
  have opened : applying around s =
      (do
        let behind ← making
        Edit.modifyBarcode r fun b => { b with background := .object behind }
        return .object behind : Action Value) around s := by
    refine bind_eq (component_eq_ok hc around) ?_
    rw [hk]
  cases hmaking : making.outcome around s with
  | error fault =>
    refine .inl ⟨fault, rfl, ?_, ?_⟩
    · rw [outcome_congr opened, outcome_bind, hmaking]
    · rw [after_congr opened, after_bind, hmaking]
  | ok q =>
    obtain ⟨edited, -⟩ :=
      yields_makeBackground sparing r c b color paddingX paddingY (Nat.le_refl _) hs
    obtain ⟨c', hc', -, old | ⟨v, rfl⟩⟩ := edited.component r c hc
    · exact absurd (Store.lt_length_of_component? hc) (Nat.not_lt.2 old)
    · have changed : Edit.modifyBarcode r (fun b => { b with background := .object q }) around
          (making.after around s) = .ok () ((making.after around s).put r (.component { c with
            instruction := v
            kind := .barcode { b with background := .object q } })) :=
        Edit.modifyBarcode_eq_ok hc' hk _ around
      refine .inr ⟨q, v, rfl, hc', ?_, ?_⟩
      · rw [outcome_congr opened, outcome_bind, hmaking]
        exact outcome_eq_ok (bind_eq changed rfl)
      · rw [after_congr opened, after_bind, hmaking]
        exact after_eq_ok (bind_eq changed rfl)

end Action

end Zpl
