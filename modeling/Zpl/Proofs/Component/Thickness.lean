import Zpl.Component.Render
import Zpl.Proofs.Component.Deed
import Zpl.Proofs.Text.Decoder

/-!
# How thick a border is

A thickness is checked before its fraction is dropped: what is above zero is accepted and what is
zero becomes one, but a number between zero and one is accepted and comes to zero. Nothing else
makes a border vanish, neither a margin that turns a side negative nor painting a shape solid, since
half of a side, rounded down, is whole.

## Main definitions

* `Value.isHairline` — a number between zero and one.
* `Command.border?` — the border that a command draws.

## Main results

* `Store.IsReachableBy.thickness_of_run` — whatever callers do, no border is negative, and if they
  hand over no hairline, none is drawn as zero.
* `Store.IsReachableBy.thickness_of_hairline` — a hairline is drawn as zero.
-/

namespace Zpl

/-! ### Hairlines -/

/-- A number above zero and below one. -/
def Value.isHairline (v : Value) : Bool := v.dots?.any fun a => a.isPositive && !a.atLeast 1

namespace Value

/-- A thickness that is no hairline is one at least, also without its fraction. -/
theorem isThick_of_isHairline {v : Value} (h : v.isHairline = false) : v.IsThick 1 := by
  intro a n ha positive hn
  rw [isHairline, ha, Option.any_some, positive, Bool.true_and, Bool.not_eq_false'] at h
  exact Number.le_truncate (by decide) h hn

end Value

/-! ### Borders that are printed -/

/-- The border that a command draws, if it draws one. -/
def Command.border? : Command → Option Text
  | .graphicBox _ _ thickness _ _ => some thickness
  | .graphicEllipse _ _ thickness _ => some thickness
  | .graphicDiagonal _ _ thickness _ _ => some thickness
  | _ => none

/-- Only zero is written as a single zero. -/
theorem Text.ofInt_eq_zero {n : Int} (h : Text.ofInt n = "0") : n = 0 := by
  have reads : Decoder.integer (Text.ofInt n ++ []) = some (n, []) :=
    Decoder.integer_ofInt n (by simp)
  rw [List.append_nil, h] at reads
  have zero : Decoder.integer "0" = some (0, []) := by decide
  rw [zero] at reads
  cases reads
  rfl

/-- The border of a shape is its thickness. -/
theorem Shape.border?_command {form : Shape} {command : Command} (h : form.command = .ok command) :
    command.border? = some (Text.ofInt form.thickness) := by
  obtain ⟨width, -, h⟩ := exists_of_bind_eq_ok h
  obtain ⟨height, -, h⟩ := exists_of_bind_eq_ok h
  obtain ⟨thickness, written, h⟩ := exists_of_bind_eq_ok h
  obtain rfl : thickness = Text.ofInt form.thickness := by
    unfold Decimal.write at written
    split at written <;> cases written
    rfl
  split at h
  · obtain ⟨radius, -, h⟩ := exists_of_bind_eq_ok h
    cases h
    rfl
  · cases h
    rfl
  · cases h
    rfl

namespace Component

variable {c : Component} {form : Shape} {around : Surroundings} {s : Store}

/-- A shape is printed with one border, which is its thickness. -/
theorem border?_commands (hk : c.kind = .shape form) {sc : Scribe Action} {cs : List Command}
    (h : (c.commands sc).outcome around s = .ok cs) :
    cs.filterMap Command.border? = [Text.ofInt form.thickness] := by
  obtain ⟨x, -, h⟩ := Action.exists_of_outcome_bind h
  obtain ⟨y, -, h⟩ := Action.exists_of_outcome_bind h
  obtain ⟨body, hbody, h⟩ := Action.exists_of_outcome_bind h
  cases h
  rw [bodyCommands, hk] at hbody
  obtain ⟨command, hcommand, hbody⟩ := Action.exists_of_outcome_bind hbody
  cases hbody
  rw [Action.outcome_lift] at hcommand
  rw [List.filterMap_append, List.filterMap_cons_none rfl,
    List.filterMap_cons_some (Shape.border?_command hcommand)]
  rfl

end Component

/-! ### Runs -/

namespace Store.IsReachableBy

variable {allowed : Store → Deed → Store → Prop} {s : Store}

/-- No shape is thinner than what callers hand over for a thickness. -/
theorem le_thickness {least : Int} (hleast : least ≤ 1)
    (thick : ∀ s d t, allowed s d t → ∀ v ∈ d.thicknesses, v.IsThick least)
    (h : s.IsReachableBy allowed) {r : Ref} {c : Component} (hc : s.component? r = some c)
    {form : Shape} (hk : c.kind = .shape form) : least ≤ form.thickness := by
  have holds := Discipline.holds_of_isReachableBy (Discipline.laws_free hleast False)
    (fun s d t hd => Discipline.allows_free s (thick s d t hd) False.elim) h
  exact ((holds.fits r c hc).kind.shape form hk).thickness

/-- Whatever callers do, no thickness is below zero, and what a shape is printed with draws one
border, which is its thickness. As long as they hand over no hairline, every thickness is one at
least, and no border is drawn as zero. -/
theorem thickness_of_run (h : s.IsReachableBy allowed) {r : Ref} {c : Component}
    (hc : s.component? r = some c) {form : Shape} (hk : c.kind = .shape form) :
    (0 ≤ form.thickness ∧ ∀ (sc : Scribe Action) around t cs,
      (c.commands sc).outcome around t = .ok cs →
        cs.filterMap Command.border? = [Text.ofInt form.thickness]) ∧
    ((∀ s d t, allowed s d t → ∀ v ∈ d.thicknesses, v.isHairline = false) →
      1 ≤ form.thickness ∧ ∀ (sc : Scribe Action) around t cs,
        (c.commands sc).outcome around t = .ok cs →
          ∀ command ∈ cs, command.border? ≠ some "0") := by
  have nonnegative : 0 ≤ form.thickness :=
    h.le_thickness (by decide) (fun _ _ _ _ v _ => v.isThick_zero) hc hk
  refine ⟨⟨nonnegative, fun _ _ _ _ hcs => Component.border?_commands hk hcs⟩, fun thick => ?_⟩
  have positive : 1 ≤ form.thickness :=
    h.le_thickness (Int.le_refl 1)
      (fun s d t hd v hv => Value.isThick_of_isHairline (thick s d t hd v hv)) hc hk
  refine ⟨positive, fun sc around t cs hcs command hcommand hborder => ?_⟩
  have drawn : ("0" : Text) ∈ cs.filterMap Command.border? :=
    List.mem_filterMap.2 ⟨command, hcommand, hborder⟩
  rw [Component.border?_commands hk hcs, List.mem_singleton] at drawn
  have zero := Text.ofInt_eq_zero drawn.symm
  omega

/-- A rectangle is made without a border and painted solid when a margin has taken more than its
width: nothing of this makes its border vanish. -/
theorem thickness_of_run_rectangle :
    let rectangle (width : Int) : Shape :=
      { figure := .rectangle 0, width := .int width, height := .int 7 }
    let s : Store := { things := [.component { kind := .shape (rectangle (-2)) }] }
    let allowed := fun _ (d : Deed) _ => ∀ v ∈ d.thicknesses, v.isHairline = false
    s.IsReachableBy allowed ∧ 1 ≤ (rectangle (-2)).thickness := by
  intro rectangle s allowed
  have start : IsReachableBy allowed {} := .start (fun _ _ _ => rfl) (by simp [Store.thing?])
  have makes : IsReachableBy allowed { things := [.component { kind := .shape (rectangle 3) }] } :=
    deed (d := .construct "Rectangle" false
      { named := [("width", .int 3), ("height", .int 7), ("thickness", .int 0)] }) start {} rfl
      (by decide)
  have narrows : s.IsReachableBy allowed :=
    deed (d := .call 0 "set_margin_right" { inRow := [.int 5] }) makes {} rfl (by decide)
  have reachable : s.IsReachableBy allowed :=
    deed (d := .call 0 "fill_background" {}) narrows {} rfl (by decide)
  have thick := (reachable.thickness_of_run (r := 0) rfl rfl).2 fun _ _ _ h => h
  exact ⟨reachable, thick.1⟩

/-- Half a dot is handed over as a thickness: a rectangle gets a border of zero. -/
theorem thickness_of_hairline :
    let rectangle (thickness : Int) : Shape :=
      { figure := .rectangle 0, width := .int 100, height := .int 50, thickness := thickness }
    let s : Store := { things := [.component { kind := .shape (rectangle 0) }] }
    s.IsReachableBy (fun _ _ _ => True) ∧
      (rectangle 0).command = .ok (.graphicBox "100" "50" "0" "B" "0") := by
  intro rectangle s
  have start : IsReachableBy (fun _ _ _ => True) {} :=
    .start (fun _ _ _ => rfl) (by simp [Store.thing?])
  have makes : IsReachableBy (fun _ _ _ => True)
      { things := [.component { kind := .shape (rectangle 1) }] } :=
    deed (d := .construct "Rectangle" false
      { named := [("width", .int 100), ("height", .int 50)] }) start {} rfl trivial
  have proper : (Deed.write 0 "thickness" (.float (.finite false 1 (-1)))).IsProper
      { things := [.component { kind := .shape (rectangle 1) }] } := ⟨rfl, by decide⟩
  have reachable : s.IsReachableBy (fun _ _ _ => True) := deed makes {} proper trivial
  exact ⟨reachable, by cbv⟩

end Store.IsReachableBy

end Zpl
