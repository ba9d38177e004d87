import Zpl.Proofs.Component.Deed
import Zpl.Proofs.Component.Placing

/-!
# How far components reach downwards

What is stacked below a component moves down by its footprint. Everything that a footprint is made
of is checked not to be negative when it is assigned. Margins are not: a bottom margin takes from
the height of a rectangle or a line whatever it is given, and once it has taken more than there was,
the footprint may be negative and things go up when they are put below. This is the only way, as
long as callers hand over integers.

## Main definitions

* `Value.IsExact` — an integer, or what is no number.
* `Component.isSunken` — a rectangle or a line whose height is below zero.
* `Deed.IsExact` — what callers do with integers.
* `Deed.sinks?` — the component that a bottom margin leaves sunken.

## Main results

* `Discipline.Holds.exact_deed` — one step.
* `Store.IsReachableBy.footprint_of_run` — what no bottom margin has sunk does not reach upwards,
  and nothing goes up that is put below it.
* `Store.IsReachableBy.footprint_of_sunken` — a bottom margin makes a footprint negative.
-/

namespace Zpl

/-! ### Exact arithmetic -/

namespace Value

/-- A value that is an integer. -/
def IsInt (v : Value) : Prop := ∃ n, v = .int n

/-- A value that is computed with exactly, if at all: an integer, or what is no number. -/
inductive IsExact : Value → Prop
  | none : IsExact .none
  | bool (b : Bool) : IsExact (.bool b)
  | int (n : Int) : IsExact (.int n)
  | text (t : Text) : IsExact (.text t)

variable {v w u : Value}

theorem IsInt.isExact (h : v.IsInt) : v.IsExact := by
  obtain ⟨n, rfl⟩ := h
  exact .int n

theorem isExact_repeated {capacity : Nat} {t : Text} {n : Int}
    (h : (Value.text t).repeated capacity n = .ok u) :
    u.IsExact := by
  obtain ⟨count, -, h⟩ := exists_of_bind_eq_ok h
  cases h
  exact .text _

end Value

namespace Edit

variable {around : Surroundings} {s : Store} {v w u : Value}

theorem isInt_addInto (hv : v.IsInt) (hw : w.IsExact)
    (h : (addInto v w).outcome around s = .ok u) : u.IsInt := by
  obtain ⟨n, rfl⟩ := hv
  cases hw <;> cases h <;> exact ⟨_, rfl⟩

theorem isInt_subInto (hv : v.IsInt) (hw : w.IsExact)
    (h : (subInto v w).outcome around s = .ok u) : u.IsInt := by
  obtain ⟨n, rfl⟩ := hv
  cases hw <;> cases h <;> exact ⟨_, rfl⟩

theorem isInt_sub (hv : v.IsInt) (hw : w.IsExact) (h : (sub v w).outcome around s = .ok u) :
    u.IsInt := by
  obtain ⟨n, rfl⟩ := hv
  cases hw <;> cases h <;> exact ⟨_, rfl⟩

theorem isExact_add (hv : v.IsExact) (hw : w.IsExact) (h : (add v w).outcome around s = .ok u) :
    u.IsExact := by
  cases hv <;> cases hw <;> cases h <;> constructor

theorem isExact_twice (hv : v.IsExact) (h : (twice v).outcome around s = .ok u) : u.IsExact := by
  cases hv with
  | none => cases h
  | bool b => cases h; exact .int _
  | int n => cases h; exact .int _
  | text t =>
    obtain ⟨capacity, -, h⟩ := Action.exists_of_outcome_bind h
    obtain ⟨d, -, h⟩ := Action.exists_of_outcome_bind h
    obtain ⟨several, hseveral, h⟩ := Action.exists_of_outcome_bind h
    rw [Action.outcome_lift] at hseveral
    have exact := Value.isExact_repeated hseveral
    cases exact <;> cases h <;> constructor

theorem isInt_centeringGap (hv : v.IsInt) (hw : w.IsInt)
    (h : (centeringGap v w).outcome around s = .ok u) : u.IsInt := by
  obtain ⟨outer, rfl⟩ := hv
  obtain ⟨inner, rfl⟩ := hw
  rw [Action.outcome, centeringGap_int] at h
  cases h
  exact ⟨_, rfl⟩

/-- What a margin leaves of a side is an integer. -/
theorem int_of_reduced {n : Int} {m : Number} (hv : v.IsExact)
    (h : (reduced (.int n) v).outcome around s = .ok m) : ∃ k, m = .int k := by
  obtain ⟨left, hleft, h⟩ := Action.exists_of_outcome_bind h
  obtain ⟨k, rfl⟩ := isInt_subInto ⟨n, rfl⟩ hv hleft
  cases h
  exact ⟨k, rfl⟩

end Edit

/-! ### The discipline of footprints -/

/-- A rectangle or a line whose height is below zero. -/
def Component.isSunken (c : Component) : Bool :=
  match c.kind with
  | .shape form => form.figure.name != Figure.ellipse.name && form.height.isNegative
  | _ => false

theorem Component.isSunken_iff {c : Component} {form : Shape} (hk : c.kind = .shape form) {n : Int}
    (hh : form.height = .int n) :
    c.isSunken = true ↔ form.figure.name ≠ Figure.ellipse.name ∧ n < 0 := by
  simp [isSunken, hk, hh, Number.isNegative, Int.compare_eq_lt]

namespace Discipline

/-- Callers hand over integers, and only components that have been sunken are below zero high. -/
def footprint (sunken : Ref → Prop) : Discipline where
  place := Value.IsInt
  margin := Value.IsExact
  sides r name w h := ∃ m n : Int, w = .int m ∧ h = .int n ∧
    (0 ≤ n ∨ name ≠ Figure.ellipse.name ∧ sunken r)
  least := 0
  aligned := False

variable {sunken : Ref → Prop} {s : Store} {r : Ref}

theorem laws_footprint (sunken : Ref → Prop) : (footprint sunken).Laws where
  least := Int.zero_le_ofNat 1
  int n := ⟨n, rfl⟩
  margin_of_place := Value.IsInt.isExact
  none := .none
  add := Edit.isExact_add
  twice := Edit.isExact_twice
  addInto := Edit.isInt_addInto
  subInto := Edit.isInt_subInto
  sub := Edit.isInt_sub
  gap := Edit.isInt_centeringGap
  empty r name := ⟨0, 0, rfl, rfl, .inl (Int.le_refl 0)⟩
  width sides hn := by
    obtain ⟨_, n, -, rfl, above⟩ := sides
    exact ⟨_, n, rfl, rfl, above⟩
  height sides hn := by
    obtain ⟨m, _, rfl, -, -⟩ := sides
    exact ⟨m, _, rfl, rfl, .inl hn⟩
  places sides := by
    obtain ⟨m, n, rfl, rfl, -⟩ := sides
    exact ⟨⟨m, rfl⟩, ⟨n, rfl⟩⟩
  size sides h := by
    obtain ⟨_, n, -, rfl, -⟩ := sides
    cases h
    exact ⟨_, rfl⟩
  narrowed sides hv h := by
    obtain ⟨m, n, rfl, rfl, above⟩ := sides
    obtain ⟨k, rfl⟩ := Edit.int_of_reduced hv h
    exact ⟨k, n, rfl, rfl, above⟩

/-- A bottom margin may sink what has been sunken. -/
theorem lowers_footprint (hr : sunken r) : (footprint sunken).Lowers r := by
  intro name w h h' v around s hname sides hv hreduced
  obtain ⟨m, n, rfl, rfl, -⟩ := sides
  obtain ⟨k, rfl⟩ := Edit.int_of_reduced hv hreduced
  exact ⟨m, k, rfl, rfl, .inr ⟨hname, hr⟩⟩

/-- It does not matter of what is not sunken whether it may be. -/
theorem Holds.footprint_imp {other : Ref → Prop} (hs : (footprint sunken).Holds s)
    (h : ∀ r c, s.component? r = some c → c.isSunken = true → sunken r → other r) :
    (footprint other).Holds s := by
  refine ⟨hs.quiet, fun r c hc => ?_⟩
  obtain ⟨x, y, labelWidth, labelHeight, ⟨sound, shape⟩, alignment⟩ := hs.fits r c hc
  refine ⟨x, y, labelWidth, labelHeight, ⟨sound, fun form hk => ?_⟩, alignment⟩
  obtain ⟨thickness, m, n, hw, hh, above⟩ := shape form hk
  refine ⟨thickness, m, n, hw, hh, ?_⟩
  by_cases hn : 0 ≤ n
  · exact .inl hn
  · obtain ⟨hname, hr⟩ := above.resolve_left hn
    have sunk := (Component.isSunken_iff hk hh).2 ⟨hname, Int.not_le.1 hn⟩
    exact .inr ⟨hname, h r c hc sunk hr⟩

/-- A component that is not sunken has a footprint, which is not negative. -/
theorem Fits.exists_footprint {c : Component} (fits : (footprint sunken).Fits r c)
    (hr : sunken r → c.isSunken = false) :
    ∃ size : Int, c.footprint = .ok (.int size) ∧ 0 ≤ size := by
  have sound := fits.kind.sound
  unfold Component.footprint
  cases hk : c.kind with
  | raw size => exact ⟨size, rfl, by simpa [hk, Kind.IsSound] using sound⟩
  | text line => exact ⟨line.fontSize, rfl, by simpa [hk, Kind.IsSound] using sound⟩
  | barcode b =>
    rw [hk] at sound
    exact ⟨b.footprint, rfl, Int.le_trans (by decide) (Component.footprint_barcode sound.2.1)⟩
  | shape form =>
    obtain ⟨border, _, n, -, hh, above⟩ := fits.kind.shape form hk
    have height : 0 ≤ n := by
      rcases above with above | ⟨hname, heavy⟩
      · exact above
      · have upright := hr heavy
        rw [Bool.eq_false_iff, ne_eq, Component.isSunken_iff hk hh] at upright
        exact Int.not_lt.1 fun hn => upright ⟨hname, hn⟩
    have border : 0 ≤ form.thickness := border
    refine ⟨n + form.thickness, ?_, by omega⟩
    simp only [Shape.footprint, hh]
    rfl

end Discipline

/-! ### Deeds with integers -/

namespace Deed

/-- Integers are handed over where places and margins are, and components are put below nothing or
below components. -/
def IsExact (s : Store) : Deed → Prop
  | .construct .. => True
  | .call _ name given => (name ∈ Discipline.marginMethods → ∀ v ∈ given.values, v.IsExact) ∧
      (name = "below_of" → ∀ v ∈ given.values,
        v = .none ∨ ∃ q c, v = .object q ∧ s.component? q = some c)
  | .write _ name v => name ∈ ["x", "y", "label_width", "label_height"] → v.IsInt

/-- The component at whose bottom a margin is set. -/
def lowers? : Deed → Option Ref
  | .call r name _ => if name ∈ Discipline.loweringMethods then some r else none
  | _ => none

/-- The component that a margin at its bottom leaves sunken. -/
def sinks? (d : Deed) (t : Store) : Option Ref :=
  d.lowers?.filter fun r => (t.component? r).any Component.isSunken

theorem IsExact.allows {sunken : Ref → Prop} {s : Store} {d : Deed} (exact : d.IsExact s)
    (lowers : ∀ r, d.lowers? = some r → sunken r) : (Discipline.footprint sunken).Allows s d := by
  have thick (v : Value) : v.IsThick 0 := v.isThick_zero
  cases d with
  | construct kind heard given => exact fun e _ _ => thick e.2
  | call r name given =>
    exact ⟨fun _ v _ => thick v, exact.1, fun hname v hv => .inr (exact.2 hname v hv),
      fun hname => Discipline.lowers_footprint (lowers r (if_pos hname))⟩
  | write r name v => exact ⟨fun _ => thick v, exact, False.elim⟩

end Deed

namespace Discipline.Holds

variable {sunken : Ref → Prop} {s : Store}

/-- What is done with integers sinks nothing but what a bottom margin leaves sunken. While the
margin is set its component may be anything; what counts is how it is left. -/
theorem exact_deed (hs : (footprint sunken).Holds s) (c : Circumstances) {d : Deed}
    (proper : d.IsProper s) (exact : d.IsExact s)
    (h : ∀ r, d.sinks? (d.leaves c s) = some r → sunken r) :
    (footprint sunken).Holds (d.leaves c s) := by
  have wide : (footprint fun r => sunken r ∨ d.lowers? = some r).Holds s :=
    hs.footprint_imp fun _ _ _ _ hr => .inl hr
  have left := (wide.deed (laws_footprint _) c proper (exact.allows fun _ => .inr)).holds
  refine left.footprint_imp fun r comp hcomp sunk hr => ?_
  rcases hr with hr | lowers
  · exact hr
  · refine h r (Option.filter_eq_some_iff.2 ⟨lowers, ?_⟩)
    rw [hcomp, Option.any_some, sunk]

end Discipline.Holds

/-! ### Stacking -/

/-- What callers put below a component moves down by where that component ends. -/
theorem Deed.leaves_below_of (around : Circumstances) {s : Store} {q r : Ref} {c d : Component}
    (hq : s.component? q = some d) (own : s.attached.lookup (q, "below_of") = none)
    (hr : s.component? r = some c) {above y size : Int} (hy : c.y = .int y)
    (hsize : c.footprint = .ok (.int size)) (habove : d.y = .int above) :
    ((call q "below_of" { inRow := [.object r] }).leaves around s).component? q =
      some { d with y := .int (above + (y + size)) } := by
  have stacked : Edit.stackBelow q (.object r) (.inside around s) s = .ok () _ :=
    Edit.stackBelow_eq_ok hq hr hy hsize habove
  let method : Method Ref := .taking "below_of" "other" Edit.stackBelow
  have bound : method.signature.bind { inRow := [.object r] } = .ok [.object r] := rfl
  have run : method.run q [.object r] = do Edit.stackBelow q (.object r); return .none := rfl
  rw [leaves, Action.attempt_procedure hq own rfl bound around run, Action.after_eq_ok stacked]
  exact Store.component?_put_self (Store.lt_length_of_component? hq) _

/-! ### Runs -/

/-- What callers do with integers, if only some components are left sunken by a bottom margin. -/
def Deed.SinksOnly (sunken : Ref → Prop) (s : Store) (d : Deed) (t : Store) : Prop :=
  d.IsExact s ∧ ∀ r, d.sinks? t = some r → sunken r

namespace Store.IsReachableBy

variable {sunken : Ref → Prop} {s : Store}

theorem holds_footprint (h : s.IsReachableBy (Deed.SinksOnly sunken)) :
    (Discipline.footprint sunken).Holds s := by
  induction h with
  | start genuine empty => exact Discipline.holds_of_empty genuine empty
  | deed _ c proper h ih => exact ih.exact_deed c proper h.1 h.2

/-- In a run with integers, a component takes no negative number of dots downwards, unless a bottom
margin has left it sunken and it still is. So whatever is at the top of the canvas does not come to
stand above it when it is put below it. -/
theorem footprint_of_run (h : s.IsReachableBy (Deed.SinksOnly sunken)) {r : Ref} {c : Component}
    (hc : s.component? r = some c) (hr : sunken r → c.isSunken = false) :
    ∃ y size : Int, c.y = .int y ∧ c.footprint = .ok (.int size) ∧ 0 ≤ size ∧
      ∀ (around : Circumstances) (q : Ref) (d : Component), s.component? q = some d →
        d.y = .int 0 → s.attached.lookup (q, "below_of") = none → ∃ below, y ≤ below ∧
          ((Deed.call q "below_of" { inRow := [.object r] }).leaves around s).component? q =
            some { d with y := .int below } := by
  have fits := h.holds_footprint.fits r c hc
  obtain ⟨y, hy⟩ := fits.y
  obtain ⟨size, hsize, above⟩ := fits.exists_footprint hr
  refine ⟨y, size, hy, hsize, above, fun around q d hq top own => ⟨0 + (y + size), by omega, ?_⟩⟩
  exact Deed.leaves_below_of around hq own hc hy hsize top

/-- Margins are set around a rectangle, which leave it some height, and another rectangle at the top
of the canvas is put below it. -/
theorem footprint_of_run_rectangle :
    let rectangle (width height : Int) : Component :=
      { kind := .shape { figure := .rectangle 0, width := .int width, height := .int height } }
    let margined : Component := { rectangle 4 4 with x := .int 1, y := .int 2 }
    let s : Store := { things := [.component margined, .component (rectangle 0 0)] }
    s.IsReachableBy (Deed.SinksOnly fun _ => False) ∧
      (∃ size : Int, margined.footprint = .ok (.int size) ∧ 0 ≤ size) ∧
      ∃ below, 2 ≤ below ∧
        ((Deed.call 1 "below_of" { inRow := [.object 0] }).leaves {} s).component? 1 =
          some { rectangle 0 0 with y := .int below } := by
  intro rectangle margined s
  have start : IsReachableBy (Deed.SinksOnly fun _ => False) {} :=
    .start (fun _ _ _ => rfl) (by simp [Store.thing?])
  have makes : IsReachableBy (Deed.SinksOnly fun _ => False)
      { things := [.component (rectangle 8 10)] } :=
    deed (d := .construct "Rectangle" false
      { named := [("width", .int 8), ("height", .int 10)] }) start {} rfl
      ⟨trivial, fun r h => by cases h⟩
  have margins : ∀ v ∈ [Value.int 1, .int 2, .int 3, .int 4], v.IsExact := by
    simp only [List.forall_mem_cons]
    exact ⟨.int 1, .int 2, .int 3, .int 4, by simp⟩
  have sets : IsReachableBy (Deed.SinksOnly fun _ => False) { things := [.component margined] } :=
    deed (d := .call 0 "set_margins" { inRow := [.int 1, .int 2, .int 3, .int 4] }) makes {} rfl
      ⟨⟨fun _ => margins, fun h => absurd h (by decide)⟩, fun r h => by cases h⟩
  have reachable : s.IsReachableBy (Deed.SinksOnly fun _ => False) :=
    deed (d := .construct "Rectangle" false {}) sets {} rfl ⟨trivial, fun r h => by cases h⟩
  obtain ⟨y, size, hy, hsize, above, stacked⟩ :=
    reachable.footprint_of_run (r := 0) (c := margined) rfl False.elim
  obtain ⟨below, down, hd⟩ := stacked {} 1 (rectangle 0 0) rfl rfl rfl
  cases hy
  exact ⟨reachable, ⟨size, hsize, above⟩, below, down, hd⟩

/-- A bottom margin takes more from a rectangle than its height and its border, and what is put
below the rectangle goes up. -/
theorem footprint_of_sunken :
    let rectangle (y height : Int) : Component :=
      { y := .int y, kind := .shape { figure := .rectangle 0, height := .int height } }
    let s : Store := { things := [.component (rectangle 0 (-90)), .component (rectangle (-89) 0)] }
    s.IsReachableBy (fun s d _ => d.IsExact s) ∧
      (rectangle 0 (-90)).footprint = .ok (.int (-89)) := by
  intro rectangle s
  have start : IsReachableBy (fun s d _ => d.IsExact s) {} :=
    .start (fun _ _ _ => rfl) (by simp [Store.thing?])
  have makes : IsReachableBy (fun s d _ => d.IsExact s)
      { things := [.component (rectangle 0 10)] } :=
    deed (d := .construct "Rectangle" false { named := [("height", .int 10)] }) start {} rfl trivial
  have margins : ∀ v ∈ [Value.int 100], v.IsExact := by
    simp only [List.forall_mem_cons]
    exact ⟨.int 100, by simp⟩
  have sinks : IsReachableBy (fun s d _ => d.IsExact s)
      { things := [.component (rectangle 0 (-90))] } :=
    deed (d := .call 0 "set_margin_bottom" { inRow := [.int 100] }) makes {} rfl
      ⟨fun _ => margins, fun h => absurd h (by decide)⟩
  have makesOther : IsReachableBy (fun s d _ => d.IsExact s)
      { things := [.component (rectangle 0 (-90)), .component (rectangle 0 0)] } :=
    deed (d := .construct "Rectangle" false {}) sinks {} rfl trivial
  have reachable : s.IsReachableBy (fun s d _ => d.IsExact s) := by
    refine deed (d := .call 1 "below_of" { inRow := [.object 0] }) makesOther {} rfl
      ⟨fun h => absurd h (by decide), fun _ => ?_⟩
    intro v hv
    obtain rfl := List.mem_singleton.1 hv
    exact .inr ⟨0, _, rfl, rfl⟩
  exact ⟨reachable, rfl⟩

end Store.IsReachableBy

end Zpl
