import Zpl.Proofs.Component.Arranging
import Zpl.Proofs.Component.Filling

/-!
# Whose background it is

A barcode owns its background: nobody else has the same one. Callers may well get hold of a
background, since applying one hands it over. They may change it, put it on a label and go on with
it as with any other rectangle, all of which is none of the barcode's business, and vice versa: what
is done to a barcode does not show on its background. The one thing that callers must not do is to
assign the background of a barcode by themselves.

## Main definitions

* `Deed.IsArranging` — deeds about components and labels that assign no background.
* `Store.IsArranged` — the stores that callers get to by such deeds.
* `Deed.Adjusts` — a call or an assignment that is about something else than a background.
* `Store.AppliesTo` — what an attempt to apply a background comes to.

## Main results

* `Deed.arranges`, `Deed.edits_of_adjusts` — one step of callers.
* `Action.applyBackground_keeps` — a background of a plain color changes nothing but the reference.
* `Store.IsArranged.ownership` — what holds after every run.
-/

namespace Zpl

/-! ### Runs of callers -/

namespace Deed

/-- Deeds about components and labels that put nothing in the place of a method. No background is
assigned to a barcode. -/
def IsArranging (s : Store) : Deed → Prop
  | .construct kind _ _ => (Action.ingredients? kind).isSome ∨ kind = "Label"
  | .call r _ _ => (s.component? r).isSome ∨ (s.label? r).isSome
  | .write r name _ => ((s.component? r).isSome ∨ (s.label? r).isSome) ∧
      name ∉ Store.calledNames ∧
        (name = "background" → ∀ c, s.component? r = some c → c.kind.behind? = none)

/-- What is called on a component other than to apply or to remove a background, or what is assigned
to it other than a background. -/
def Adjusts (r : Ref) : Deed → Prop
  | .construct .. => False
  | .call q name _ => q = r ∧ name ∉ Component.backgroundMethods
  | .write q name _ => q = r ∧ name ∉ Store.calledNames ∧ name ≠ "background"

variable {s : Store} {r : Ref} {d : Deed}

/-- What is called on an object is carried out within some surroundings. -/
theorem leaves_call (c : Circumstances) (r : Ref) (name : String) (given : Call) :
    (Deed.call r name given).leaves c s =
      (Action.callNamed (.object r) name given).after (.inside c s) s := by
  obtain ⟨fuel, hfuel⟩ := s.depth_eq
  rw [leaves, Action.attempt_eq, Surroundings.inside, hfuel]
  rfl

/-- Callers who arrange components make no barcodes share a background. -/
theorem arranges (hs : s.IsQuiet) (c : Circumstances) (arranging : d.IsArranging s) :
    s.Arranges (d.leaves c s) := by
  have sparing (fuel : Nat) := Surroundings.isSparing_within c fuel
  cases d with
  | construct kind heard given =>
    rw [leaves, Action.attempt_eq]
    exact (Action.edits_construct (sparing _) arranging heard given hs).arranges
  | call r name given =>
    rw [leaves_call]
    rcases arranging with hc | hl
    · obtain ⟨comp, hc⟩ := Option.isSome_iff_exists.1 hc
      refine Action.follows_callNamed (sparing _) (Store.component?_eq_some_iff.1 hc) (by simp) rfl
        (fun m hm _ vs => ?_) given hs
      rcases Component.adjusts_methods (sparing _) comp m hm with edits | ⟨-, follows⟩
      · exact (edits r vs s).arranges
      · exact follows r vs s
    · obtain ⟨lab, hl⟩ := Option.isSome_iff_exists.1 hl
      exact Action.follows_callNamed (sparing _) (Store.label?_eq_some_iff.1 hl) (by simp) rfl
        (fun m hm _ vs => (Label.edits_methods m hm r vs s).arranges) given hs
  | write r name v =>
    rw [leaves, Action.attempt_eq]
    obtain ⟨hc | hl, hmethod, hname⟩ := arranging
    · obtain ⟨comp, hc⟩ := Option.isSome_iff_exists.1 hc
      exact (Action.edits_write (sparing _) hc v hmethod (hname · comp hc) hs).arranges
    · obtain ⟨lab, hl⟩ := Option.isSome_iff_exists.1 hl
      exact (Action.edits_write_label hl v hmethod hs).arranges

/-- What adjusts a component edits no other one. -/
theorem edits_of_adjusts (hs : s.IsQuiet) (c : Circumstances) {comp : Component}
    (hc : s.component? r = some comp) (adjusts : d.Adjusts r) :
    s.Edited (Eq r) (d.leaves c s) := by
  have sparing (fuel : Nat) := Surroundings.isSparing_within c fuel
  cases d with
  | construct kind heard given => exact adjusts.elim
  | call q name given =>
    obtain ⟨rfl, hname⟩ := adjusts
    rw [leaves_call]
    refine Action.follows_callNamed (sparing _) (Store.component?_eq_some_iff.1 hc) (by simp) rfl
      (fun m hm named vs => ?_) given hs
    rcases Component.adjusts_methods (sparing _) comp m hm with edits | ⟨changes, -⟩
    · exact edits q vs s
    · exact absurd (named ▸ changes) hname
  | write q name v =>
    obtain ⟨rfl, hmethod, hname⟩ := adjusts
    rw [leaves, Action.attempt_eq]
    exact Action.edits_write (sparing _) hc v hmethod (fun h => absurd h hname) hs

end Deed

namespace Store

variable {s : Store}

/-- The stores that callers get to who start without components and then arrange components on
labels, whatever comes of it. -/
inductive IsArranged : Store → Prop where
  | start {s : Store} (genuine : s.IsGenuine)
      (empty : ∀ r x, s.thing? r = some x → (∀ c, x ≠ .component c) ∧ ∀ m, x ≠ .method m) :
      IsArranged s
  | deed {s : Store} (before : IsArranged s) (c : Circumstances) {d : Deed}
      (arranging : d.IsArranging s) : IsArranged (d.leaves c s)

/-- A run of callers ends where backgrounds are exclusive. -/
theorem IsArranged.isExclusive (h : s.IsArranged) : s.IsQuiet ∧ s.IsExclusive := by
  induction h with
  | @start s genuine empty =>
    have none (r : Ref) (c : Component) (hc : s.component? r = some c) : False :=
      (empty r _ (component?_eq_some_iff.1 hc)).1 c rfl
    exact ⟨⟨genuine, fun r m hm => (empty r _ hm).2 m rfl⟩,
      ⟨fun r c _ hc _ => (none r c hc).elim, fun r _ c _ _ hc _ _ _ => (none r c hc).elim⟩⟩
  | deed _ c arranging ih =>
    have step := Deed.arranges ih.1 c arranging
    exact ⟨step.quiet ih.1, step.exclusive ih.2⟩

/-- The component `r` is a barcode that has the object `q` as its background. -/
abbrev HasBackground (s : Store) (r q : Ref) : Prop :=
  (s.component? r).bind (·.background?) = some q

theorem hasBackground_iff {r q : Ref} :
    s.HasBackground r q ↔ ∃ c, s.component? r = some c ∧ c.kind.behind? = some (.object q) := by
  simp only [HasBackground, Option.bind_eq_some_iff, Component.background?_eq_some_iff]

end Store

/-! ### What a call leaves -/

namespace Action

variable {s : Store} {r : Ref} {comp : Component} {b : Barcode} {given : Call}
  {color paddingX paddingY : Value}

/-- What comes of a call that asks for a background. -/
theorem attempt_applyBackground (hs : s.IsQuiet) (hc : s.component? r = some comp)
    (hk : comp.kind = .barcode b) (unattached : s.attached.lookup (r, "apply_background") = none)
    (hbind : backgroundSignature.bind given = .ok [color, paddingX, paddingY]) (c : Circumstances) :
    (call (.object r) "apply_background" given).attempt c s =
      ((applyBackground r color paddingX paddingY).outcome (.inside c s) s,
        (applyBackground r color paddingX paddingY).after (.inside c s) s) := by
  rw [attempt_background hc hk unattached hbind c]
  simp only [outcome_bind, after_bind]
  rcases applyBackground_spec (Surroundings.isSparing_within c (s.depth - 1)) hs hc hk color
    paddingX paddingY with ⟨fault, -, failed, -⟩ | ⟨q, -, -, -, came, -⟩
  · rw [Surroundings.inside, failed]
  · rw [Surroundings.inside, came]
    rfl

end Action

/-- What an attempt to apply a background to a barcode comes to: nothing, or the barcode refers to
a new component, which is handed over. The barcode may have another instruction. -/
def Store.AppliesTo (s : Store) (r : Ref) (c : Component) (b : Barcode) (instruction : Value)
    (result : Except Fault Value × Store) : Prop :=
  (∃ fault, result.1 = .error fault ∧
    result.2.component? r = some { c with instruction := instruction }) ∨
  ∃ q, result.1 = .ok (.object q) ∧ s.thing? q = none ∧ (result.2.component? q).isSome ∧
    result.2.component? r = some { c with
      instruction := instruction
      kind := .barcode { b with background := .object q } }

namespace Action

variable {around : Surroundings} {s : Store} {r : Ref} {comp : Component} {b : Barcode}

/-- A barcode to which a background was applied refers to it, and has the instruction that it had
when the background was made. All other objects stay what they were then. -/
theorem applyBackground_applies (sparing : around.IsSparing) (hs : s.IsQuiet)
    (hc : s.component? r = some comp) (hk : comp.kind = .barcode b)
    (color paddingX paddingY : Value) :
    let making := makeBackground r comp b color paddingX paddingY
    let applying := applyBackground r color paddingX paddingY
    ∃ v, (making.after around s).component? r = some { comp with instruction := v } ∧
      s.AppliesTo r comp b v (applying.outcome around s, applying.after around s) ∧
      (making.after around s).Kept (Eq r) (applying.after around s) := by
  intro making applying
  obtain ⟨edited, made⟩ :=
    yields_makeBackground sparing r comp b color paddingX paddingY (Nat.le_refl _) hs
  have here := Store.lt_length_of_component? hc
  rcases applyBackground_spec sparing hs hc hk color paddingX paddingY with
    ⟨fault, -, failed, ended⟩ | ⟨q, v, hq, there, came, ended⟩
  · rw [ended]
    obtain ⟨comp', there, -, new | ⟨v, rfl⟩⟩ := edited.component r comp hc
    · exact absurd here (Nat.not_lt.2 new)
    · exact ⟨v, there, .inl ⟨fault, failed, there⟩, .of_things rfl rfl⟩
  · obtain ⟨new, d, hd, -⟩ := made q hq
    have hqr : r ≠ q := Nat.ne_of_lt (Nat.lt_of_lt_of_le here new)
    rw [ended]
    refine ⟨v, there, .inr ⟨q, came, List.getElem?_eq_none new, ?_, ?_⟩, .put rfl (by simp)⟩
    · rw [Store.component?_put_of_ne hqr, hd]
      rfl
    · exact Store.component?_put_self (Store.lt_length_of_component? there) _

/-- Applying a background changes other components in their instructions at most. -/
theorem component?_applyBackground (sparing : around.IsSparing) (hs : s.IsQuiet)
    (hc : s.component? r = some comp) (hk : comp.kind = .barcode b)
    (color paddingX paddingY : Value) {q : Ref} (hq : q ≠ r) {d : Component}
    (hd : s.component? q = some d) :
    ∃ v, ((applyBackground r color paddingX paddingY).after around s).component? q =
      some { d with instruction := v } := by
  obtain ⟨-, -, -, kept⟩ := applyBackground_applies sparing hs hc hk color paddingX paddingY
  obtain ⟨edited, -⟩ :=
    yields_makeBackground sparing r comp b color paddingX paddingY (Nat.le_refl _) hs
  obtain ⟨d', hd', -, new | ⟨v, rfl⟩⟩ := edited.component q d hd
  · exact absurd (Store.lt_length_of_component? hd) (Nat.not_lt.2 new)
  · exact ⟨v, (kept.component? hd').resolve_left hq.symm⟩

/-- Applying a background of a plain color changes nothing but the reference. -/
theorem applyBackground_keeps (sparing : around.IsSparing) (hs : s.IsQuiet)
    (hc : s.component? r = some comp) (hk : comp.kind = .barcode b) {color : Value}
    (hcolor : color.IsPlain) (paddingX paddingY : Value) :
    let applying := applyBackground r color paddingX paddingY
    s.AppliesTo r comp b comp.instruction (applying.outcome around s, applying.after around s) ∧
      s.Kept (Eq r) (applying.after around s) := by
  intro applying
  obtain ⟨v, there, applies, kept⟩ :=
    applyBackground_applies sparing hs hc hk color paddingX paddingY
  have making : s.Kept (s.things.length ≤ ·)
      ((makeBackground r comp b color paddingX paddingY).after around s) :=
    keeps_makeBackground r comp b hcolor paddingX paddingY (Nat.le_refl _) hs
  have old {q : Ref} {x : Thing} (hx : s.thing? q = some x) : ¬ s.things.length ≤ q :=
    Nat.not_le.2 (List.getElem?_eq_some_iff.1 hx).1
  have same := (making.component? hc).resolve_left (old (Store.component?_eq_some_iff.1 hc))
  obtain rfl : comp.instruction = v :=
    congrArg Component.instruction (Option.some.inj (same.symm.trans there))
  refine ⟨applies, Store.Kept.trans { making with thing := fun q x hx => .inr ?_ } kept⟩
  exact (making.thing q x hx).resolve_left (old hx)

end Action

namespace Store

variable {s : Store}

/-- After every run of callers who assign no background, no two barcodes share one.

A call that applies a background to a barcode changes no other component but in its instruction, and
the barcode in nothing but its instruction and the reference to its background. Instructions change
only where the color is an object whose text is printed: if it is plain, as the name of a color is,
every object but the barcode stays exactly what it was, and the barcode gets nothing new but the
reference.

Whatever else is called on a barcode or assigned to it leaves its background as it is, apart from
the instruction. -/
theorem IsArranged.ownership (h : s.IsArranged) :
    (∀ r r' q, s.HasBackground r q → s.HasBackground r' q → r = r') ∧
    (∀ c r comp b given color paddingX paddingY, s.component? r = some comp →
      comp.kind = .barcode b → s.attached.lookup (r, "apply_background") = none →
      Action.backgroundSignature.bind given = .ok [color, paddingX, paddingY] →
      let result := (Action.call (.object r) "apply_background" given).attempt c s
      (∃ v, s.AppliesTo r comp b v result) ∧
      (∀ q d, q ≠ r → s.component? q = some d →
        ∃ v, result.2.component? q = some { d with instruction := v }) ∧
      (color.IsPlain → s.AppliesTo r comp b comp.instruction result ∧ s.Kept (Eq r) result.2)) ∧
    ∀ c r q (d : Deed), s.HasBackground r q → d.Adjusts r →
      (d.leaves c s).HasBackground r q ∧
      ∃ rectangle v, s.component? q = some rectangle ∧
        (d.leaves c s).component? q = some { rectangle with instruction := v } := by
  obtain ⟨quiet, exclusive⟩ := h.isExclusive
  refine ⟨fun r r' q hr hr' => ?_, ?_, ?_⟩
  · obtain ⟨c, hc, hq⟩ := hasBackground_iff.1 hr
    obtain ⟨c', hc', hq'⟩ := hasBackground_iff.1 hr'
    exact exclusive.exclusive r r' c c' q hc hc' hq hq'
  · intro c r comp b given color paddingX paddingY hc hk unattached hbind result
    have called : result = _ := Action.attempt_applyBackground quiet hc hk unattached hbind c
    have sparing := Surroundings.isSparing_within c (s.depth - 1)
    rw [called]
    refine ⟨?_, fun q d hq hd => ?_, ?_⟩
    · obtain ⟨v, -, applies, -⟩ :=
        Action.applyBackground_applies sparing quiet hc hk color paddingX paddingY
      exact ⟨v, applies⟩
    · exact Action.component?_applyBackground sparing quiet hc hk color paddingX paddingY hq hd
    · exact fun hcolor => Action.applyBackground_keeps sparing quiet hc hk hcolor paddingX paddingY
  · intro c r q d hr adjusts
    obtain ⟨comp, hc, hq⟩ := hasBackground_iff.1 hr
    have edited := d.edits_of_adjusts quiet c hc adjusts
    obtain ⟨comp', hc', same, -⟩ := edited.component r comp hc
    refine ⟨hasBackground_iff.2 ⟨comp', hc', same.trans hq⟩, ?_⟩
    obtain nothing | ⟨p, rectangle, same, there, empty⟩ := exclusive.owned r comp _ hc hq
    · cases nothing
    · cases same
      obtain ⟨rectangle', there', -, rfl | ⟨v, rfl⟩⟩ := edited.component q rectangle there
      · -- What lies behind a barcode is no barcode, so it is another component.
        obtain rfl := Option.some.inj (hc.symm.trans there)
        rw [hq] at empty
        cases empty
      · exact ⟨rectangle, v, there, there'⟩

/-- Two barcodes get backgrounds. One of these is moved and put on a label, and its barcode is moved
as well, and gets another background. -/
theorem IsArranged.ownership_label :
    let masking (r : Ref) : Deed := .call r "apply_background" { inRow := ["W", 10, 10] }
    let s := [.construct "Barcode" false { inRow := ["A1"] },
      .construct "Barcode" false { inRow := ["B2"] }, masking 0, masking 1,
      .construct "Label" false { inRow := [4, 2] }, .call 2 "set_margin_left" { inRow := [5] },
      .call 4 "add_component" { inRow := [.object 2] }].foldl (fun s d => Deed.leaves {} s d) {}
    let moved := (Deed.call 0 "set_margin_left" { inRow := [7] }).leaves {} s
    let t := (masking 0).leaves {} s
    s.IsArranged ∧ s.HasBackground 0 2 ∧ ¬ s.HasBackground 1 2 ∧
      (∃ rectangle v, s.component? 2 = some rectangle ∧
        moved.component? 2 = some { rectangle with instruction := v }) ∧
      t.HasBackground 0 5 ∧ s.Kept (Eq 0) t := by
  intro masking s moved t
  have own : s.HasBackground 0 2 := by decide +kernel
  have start : IsArranged {} := .start (fun _ _ _ => rfl) (by simp [Store.thing?])
  have barcodes := (start.deed {} (d := .construct "Barcode" false { inRow := ["A1"] })
    (.inl rfl)).deed {} (d := .construct "Barcode" false { inRow := ["B2"] }) (.inl rfl)
  have masked := (barcodes.deed {} (d := masking 0) (.inl (by decide +kernel))).deed {}
    (d := masking 1) (.inl (by decide +kernel))
  have label := masked.deed {} (d := .construct "Label" false { inRow := [4, 2] }) (.inr rfl)
  have shifted := label.deed {} (d := .call 2 "set_margin_left" { inRow := [5] })
    (.inl (by decide +kernel))
  have arranged : s.IsArranged :=
    shifted.deed {} (d := .call 4 "add_component" { inRow := [.object 2] })
      (.inr (by decide +kernel))
  obtain ⟨exclusive, applies, adjusts⟩ := arranged.ownership
  obtain ⟨comp, hc, hq⟩ := hasBackground_iff.1 own
  obtain ⟨b, hk, -⟩ := Kind.behind?_eq_some_iff.1 hq
  have unattached : s.attached.lookup (0, "apply_background") = none :=
    Option.isNone_iff_eq_none.1 (by decide +kernel)
  obtain ⟨-, -, keeps⟩ :=
    applies {} 0 comp b { inRow := ["W", 10, 10] } "W" 10 10 hc hk unattached rfl
  refine ⟨arranged, own, fun other => ?_, ?_, ?_, (keeps trivial).2⟩
  · cases exclusive 0 1 2 own other
  · exact (adjusts {} 0 2 (.call 0 "set_margin_left" { inRow := [7] }) own ⟨rfl, by decide⟩).2
  · decide +kernel

end Store

end Zpl
