import Zpl.Proofs.Component.Alignment

/-!
# Margins in a corner

A component that was aligned to the right and to the bottom stands in the corner of its canvas, and
margins then keep it away from the edges. A rectangle or a line gets smaller by them, where an
ellipse or a barcode moves. What is seen on the label is the same: the gaps between the component
and the far edges of its canvas are the far margins, whatever the near ones are.

## Main definitions

* `Measures.corner` — the extent of what stands in the lower right corner of its canvas.

## Main results

* `Measures.within_corner` — what margins leave of this extent.
* `Action.edge_margins` — alignment to the corner, in either order, and then margins.
-/

namespace Zpl

/-- The extent of what stands in the lower right corner of its canvas. -/
def Measures.corner (m : Measures) : Extent where
  x := m.outerWidth - m.width
  y := m.outerHeight - m.height
  width := m.width
  height := m.height

/-- Margins of what stands in the corner. Whether it moves or gets smaller, it ends up as far from
the edges as the far margins say; if it gets smaller, the near margins are what its near edges move
by. -/
theorem Measures.within_corner (m : Measures) (moves : Bool) (l t r b : Int) :
    let e := m.corner.within moves (MarginCall.each l t r b).margins
    m.outerWidth - (e.x + e.width) = r ∧ m.outerHeight - (e.y + e.height) = b ∧
    (moves = true → e.width = m.width ∧ e.height = m.height) ∧
    (moves = false → e.x = m.outerWidth - m.width + l ∧ e.y = m.outerHeight - m.height + t) := by
  cases moves with
  | true =>
    simp only [Extent.within, corner, MarginCall.margins, if_true]
    exact ⟨by omega, by omega, fun _ => ⟨trivial, trivial⟩, fun h => by cases h⟩
  | false =>
    simp only [Extent.within, corner, MarginCall.margins, Bool.false_eq_true, if_false]
    exact ⟨by omega, by omega, False.elim, fun _ => ⟨trivial, trivial⟩⟩

namespace Component

variable {c : Component} {m : Measures}

/-- A component that is aligned to the right and to the bottom has a position in whole numbers. -/
theorem HasMeasures.hasExtent_aligned (h : c.HasMeasures m) {as : List Alignment}
    (has : as = [.right, .bottom] ∨ as = [.bottom, .right]) :
    (c.aligned m as).HasExtent m.corner := by
  obtain ⟨id, x, y, labelWidth, labelHeight, alignment, instruction, listener, kind⟩ := c
  obtain ⟨-, -, hsize⟩ := h
  cases kind with
  | raw size => exact hsize.elim
  | text line => exact hsize.elim
  | barcode b => rcases has with rfl | rfl <;> rfl
  | shape form =>
    obtain ⟨figure, width, height, thickness, color⟩ := form
    obtain ⟨hwidth, hheight⟩ := hsize
    cases hwidth
    cases hheight
    rcases has with rfl | rfl <;> cases figure <;> rfl

/-- A component is moved to the right and to the bottom, if it is no barcode at another orientation
than the normal one. -/
theorem HasMeasures.isMovedBy (h : c.HasMeasures m)
    (hnormal : ∀ b, c.kind = .barcode b → b.orientation = .normal) {a : Alignment}
    (ha : a = .right ∨ a = .bottom) : c.kind.isMovedBy a = true := by
  obtain ⟨-, -, hsize⟩ := h
  cases hk : c.kind with
  | raw size =>
    rw [hk] at hsize
    exact hsize.elim
  | text line =>
    rw [hk] at hsize
    exact hsize.elim
  | shape form => rcases ha with rfl | rfl <;> rfl
  | barcode b =>
    have normal : b.isNormal = true := by rw [Barcode.isNormal, hnormal b hk]; rfl
    rcases ha with rfl | rfl
    · exact normal
    · exact normal

/-- What margins leave of the size of a component is the size by which it is aligned. -/
theorem HasMeasures.withExtent (h : c.HasMeasures m) {e : Extent}
    (hmoves : c.kind.moves = true → e.width = m.width ∧ e.height = m.height) :
    (c.withExtent e).HasMeasures { m with width := e.width, height := e.height } := by
  obtain ⟨id, x, y, labelWidth, labelHeight, alignment, instruction, listener, kind⟩ := c
  obtain ⟨houterWidth, houterHeight, hsize⟩ := h
  cases kind with
  | raw size => exact hsize.elim
  | text line => exact hsize.elim
  | barcode b =>
    obtain ⟨hwidth, hheight⟩ := hmoves rfl
    rw [hwidth, hheight]
    exact ⟨houterWidth, houterHeight, hsize⟩
  | shape form =>
    obtain ⟨figure, width, height, thickness, color⟩ := form
    cases figure with
    | ellipse =>
      obtain ⟨hwidth, hheight⟩ := hmoves rfl
      rw [hwidth, hheight]
      exact ⟨houterWidth, houterHeight, hsize⟩
    | rectangle radius => exact ⟨houterWidth, houterHeight, rfl, rfl⟩
    | diagonal slant => exact ⟨houterWidth, houterHeight, rfl, rfl⟩

end Component

namespace Action

variable {s : Store} {r : Ref} {comp : Component} {m : Measures}

/-- A request by a token is heard by what it moves. -/
theorem attempt_alignment (hs : s.IsGenuine) (hc : s.component? r = some comp)
    (unattached : s.attached.lookup (r, "set_alignment") = none) (hm : comp.HasMeasures m)
    {a : Alignment} (ha : comp.kind.isMovedBy a = true) {given : Call}
    (hbind : Component.alignmentSignature.bind given = .ok [.text (Zpl.token a)]) (c : Circumstances) :
    (call (.object r) "set_alignment" given).attempt c s =
      (.ok .none, s.put r (.component (comp.aligned m [a]))) := by
  have here := Store.lt_length_of_component? hc
  have altered := (Edit.alters_setAlignment hs here hm ha (.inside c s)).eq_ok hc
  rw [attempt_setAlignment hc unattached hbind c, outcome_eq_ok altered, after_eq_ok altered]
  rfl

/-- Margins of a component that stands in the lower right corner of its canvas are the gaps between
its edges and those of the canvas, whichever of the two was asked for first and whatever kind of
component it is, although rectangles and lines get smaller where ellipses and barcodes move. The
near edges of rectangles and lines move by the near margins, and the canvas stays. -/
theorem edge_margins (hs : s.IsGenuine) (hc : s.component? r = some comp)
    (unattached : s.attached.lookup (r, "set_alignment") = none) (hm : comp.HasMeasures m)
    (hnormal : ∀ b, comp.kind = .barcode b → b.orientation = .normal) {a b : Alignment}
    (hcorner : [a, b] = [.right, .bottom] ∨ [a, b] = [.bottom, .right]) {first second third : Call}
    (hfirst : Component.alignmentSignature.bind first = .ok [.text (Zpl.token a)])
    (hsecond : Component.alignmentSignature.bind second = .ok [.text (Zpl.token b)])
    {left top right bottom : Int}
    (hthird : Component.marginsSignature.bind third =
      .ok [.int left, .int top, .int right, .int bottom]) (c : Circumstances) :
    ∃ e : Extent,
      attemptAll c r [("set_alignment", first), ("set_alignment", second), ("set_margins", third)] s =
        ([.ok .none, .ok .none, .ok .none],
          s.put r (.component ((comp.aligned m [a, b]).withExtent e))) ∧
      ((comp.aligned m [a, b]).withExtent e).HasMeasures
        { m with width := e.width, height := e.height } ∧
      m.outerWidth - (e.x + e.width) = right ∧ m.outerHeight - (e.y + e.height) = bottom ∧
      (comp.kind.moves = false →
        e.x = m.outerWidth - m.width + left ∧ e.y = m.outerHeight - m.height + top) := by
  obtain ⟨ha, hb⟩ : comp.kind.isMovedBy a = true ∧ comp.kind.isMovedBy b = true := by
    rcases hcorner with h | h <;> cases h
    · exact ⟨hm.isMovedBy hnormal (.inl rfl), hm.isMovedBy hnormal (.inr rfl)⟩
    · exact ⟨hm.isMovedBy hnormal (.inr rfl), hm.isMovedBy hnormal (.inl rfl)⟩
  have here := Store.lt_length_of_component? hc
  have one := attempt_alignment hs hc unattached hm ha hfirst c
  have two := attempt_alignment (hs.put r _) (Store.component?_put_self here (comp.aligned m [a]))
    unattached (hm.aligned [a]) hb hsecond c
  rw [Component.aligned_aligned, Store.put_put] at two
  have cornered : (s.put r (.component (comp.aligned m [a, b]))).component? r =
      some ((comp.aligned m [a, b]).withExtent m.corner) := by
    rw [hm.hasExtent_aligned hcorner]
    exact Store.component?_put_self here _
  have three := attempt_marginCall (m := .each left top right bottom) (hs.put r _) cornered
    ⟨rfl, hthird⟩ c
  rw [Store.put_put] at three
  obtain ⟨gapRight, gapBottom, keeps, shifts⟩ :=
    m.within_corner comp.kind.moves left top right bottom
  refine ⟨_, ?_, (hm.aligned [a, b]).withExtent keeps, gapRight, gapBottom, shifts⟩
  rw [attemptAll_cons one, attemptAll_cons two, attemptAll_cons three]
  rfl

/-- A barcode of two characters, 112 dots long and 60 dots high, is moved to the corner of its canvas
and gets margins there. -/
theorem edge_margins_barcode :
    let bars : Component := {
      labelWidth := 400, labelHeight := 300
      kind := .barcode { data := "A1", moduleWidth := 2 } }
    let s : Store := { things := [.component bars] }
    let calls : List (String × Call) := [("set_alignment", { inRow := ["R"] }),
      ("set_alignment", { inRow := ["B"] }), ("set_margins", { inRow := [5, 6, 7, 8] })]
    ∃ x y : Int,
      attemptAll {} 0 calls s = ([.ok .none, .ok .none, .ok .none],
        s.put 0 (.component { bars with x := .int x, y := .int y, alignment := "B" })) ∧
      400 - (x + 112) = 7 ∧ 300 - (y + 60) = 8 := by
  intro bars s calls
  have genuine : s.IsGenuine := fun _ _ _ => rfl
  have there : s.component? 0 = some bars := rfl
  have unattached : s.attached.lookup (0, "set_alignment") = none := rfl
  have measures : bars.HasMeasures
      { outerWidth := 400, outerHeight := 300, width := 112, height := 60 } :=
    ⟨rfl, rfl, ⟨_, rfl, rfl⟩, rfl⟩
  have normal : ∀ b, bars.kind = .barcode b → b.orientation = .normal := by
    intro b hb
    cases hb
    rfl
  have toRight : Component.alignmentSignature.bind { inRow := ["R"] } =
      .ok [.text (Zpl.token Alignment.right)] := rfl
  have toBottom : Component.alignmentSignature.bind { inRow := ["B"] } =
      .ok [.text (Zpl.token Alignment.bottom)] := rfl
  have within : Component.marginsSignature.bind { inRow := [5, 6, 7, 8] } =
      .ok [.int 5, .int 6, .int 7, .int 8] := rfl
  obtain ⟨e, run, ⟨-, -, ⟨data, hdata, hwidth⟩, hheight⟩, gapRight, gapBottom, -⟩ :=
    edge_margins genuine there unattached measures normal (.inl rfl) toRight toBottom within {}
  cases hdata
  have width : 112 = e.width := hwidth
  have height : 60 = e.height := hheight
  rw [← width] at gapRight
  rw [← height] at gapBottom
  exact ⟨e.x, e.y, run, gapRight, gapBottom⟩

end Action

end Zpl
