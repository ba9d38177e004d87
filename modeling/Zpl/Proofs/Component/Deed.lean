import Mathlib.Data.List.Forall2
import Zpl.Proofs.Component.Discipline

/-!
# What callers do

Callers make components, call their methods and assign to their attributes, in any order and with
whatever they like, and what they do may fail. Here these deeds are data, so that it can be said of
them what they hand over: a run of callers is one in which each deed was allowed. A discipline
allows a deed by what it hands over as a thickness, a margin, a place, or as what to put a component
below, and maybe as long as it sets no alignment by itself. Whatever is done within a discipline,
the discipline goes on to hold, and components stay of their kinds.

## Main definitions

* `Deed` — one thing that callers do.
* `Deed.thicknesses` — what a deed hands over as a thickness.
* `Store.IsReachableBy` — the stores that callers get to by deeds that are allowed.
* `Discipline.Allows` — the deeds within a discipline.

## Main results

* `Signature.given_of_bind` — where the values of a call come from.
* `Component.obeys_methods`, `Action.obeys_construct`, `Action.obeys_write` — one step.
* `Discipline.Holds.deed` — a discipline that holds goes on to hold.
* `Discipline.holds_of_isReachableBy` — a run of callers within a discipline.
-/

namespace Zpl

/-! ### Values of a call -/

/-- Everything that is handed over in a call. -/
def Call.values (call : Call) : List Value := call.inRow ++ call.named.map (·.2)

namespace Signature

/-- A parameter gets a value: in a row, by its name, or its default. -/
inductive Given (call : Call) (p : Parameter) (v : Value) : Prop
  | inRow (place : p.takesPlace = true) (mem : v ∈ call.inRow)
  | named {name : Text} (mem : (name, v) ∈ call.named) (isNamed : p.isNamed name = true)
  | default (h : p.default? = some v)

variable {call : Call}

theorem given_of_named {p : Parameter} {v : Value} (h : named call p = .ok v) :
    Given call p v := by
  unfold named at h
  split at h
  · rename_i name w _ found
    cases h
    have isNamed := List.find?_some found
    exact .named (List.mem_of_find?_eq_some found) isNamed
  · rename_i default
    cases h
    exact .default default
  · cases h

/-- Each parameter gets its value from the call or from its default. -/
theorem given_of_bindParameters {ps : List Parameter} {row vs : List Value}
    (hrow : ∀ v ∈ row, v ∈ call.inRow) (h : bindParameters call ps row = .ok vs) :
    List.Forall₂ (Given call) ps vs := by
  induction ps generalizing row vs with
  | nil =>
    cases h
    exact .nil
  | cons p ps ih =>
    unfold bindParameters at h
    split at h
    · rename_i v row place
      split at h
      · cases h
      · obtain ⟨values, hvalues, h⟩ := exists_of_bind_eq_ok h
        cases h
        refine .cons (.inRow place (hrow v (List.mem_cons_self ..))) (ih (fun w hw => ?_) hvalues)
        exact hrow w (List.mem_cons_of_mem _ hw)
    · obtain ⟨v, hv, h⟩ := exists_of_bind_eq_ok h
      obtain ⟨values, hvalues, h⟩ := exists_of_bind_eq_ok h
      cases h
      exact .cons (given_of_named hv) (ih hrow hvalues)

/-- Values in excess are refused, and where one is left out there is nothing in its place. -/
def takesAll (s : Signature) : Bool :=
  !s.gathers && !s.gathersNamed && s.parameters.all fun p =>
    match p.default? with
    | none | some .none => true
    | _ => false

/-- Where nothing is gathered, the values of a call are those of the parameters. -/
theorem given_of_bind {s : Signature} (hrow : s.gathers = false) (hnamed : s.gathersNamed = false)
    {vs : List Value} (h : s.bind call = .ok vs) : List.Forall₂ (Given call) s.parameters vs := by
  obtain ⟨values, hvalues, h⟩ := exists_of_bind_eq_ok h
  dsimp only at h
  split at h
  · cases h
  · cases h
    simp only [hrow, hnamed, Bool.false_eq_true, if_false, List.append_nil]
    exact given_of_bindParameters (fun v hv => hv) hvalues

/-- What a signature that takes all values gives to its parameters was handed over, or is
nothing. -/
theorem mem_values_of_bind {s : Signature} (hs : s.takesAll = true) {vs : List Value}
    (h : s.bind call = .ok vs) : ∀ v ∈ vs, v ∈ call.values ∨ v = .none := by
  simp only [takesAll, Bool.and_eq_true, Bool.not_eq_true', List.all_eq_true] at hs
  obtain ⟨⟨hrow, hnamed⟩, defaults⟩ := hs
  intro v hv
  obtain ⟨p, hp, given⟩ := exists_of_mem (given_of_bind hrow hnamed h) hv
  cases given with
  | inRow _ mem => exact .inl (List.mem_append_left _ mem)
  | named mem _ => exact .inl (List.mem_append_right _ (List.mem_map_of_mem mem))
  | default hdefault =>
    right
    have nothing := defaults p hp
    rw [hdefault] at nothing
    cases v <;> first | rfl | cases nothing
where
  exists_of_mem {ps : List Parameter} {vs : List Value} {v : Value}
      (h : List.Forall₂ (Given call) ps vs) (hv : v ∈ vs) : ∃ p ∈ ps, Given call p v := by
    induction h with
    | nil => cases hv
    | cons given _ ih =>
      rcases List.mem_cons.1 hv with rfl | hv
      · exact ⟨_, List.mem_cons_self .., given⟩
      · obtain ⟨p, hp, given⟩ := ih hv
        exact ⟨p, List.mem_cons_of_mem _ hp, given⟩

end Signature

/-- What an offer is carried out with are the values for its parameters. -/
theorem Offer.signature_bind {offer : Offer} {call : Call} {vs : List Value}
    (h : offer.bind call = .ok vs) : offer.signature.bind call = .ok vs := by
  unfold Offer.bind at h
  split at h
  · rename_i hvalues
    cases h
    exact hvalues
  · cases h

/-! ### Making components -/

namespace Ingredients

/-- Whatever is to be assigned as a thickness is thick enough. -/
def AreThick (least : Int) (ingredients : Ingredients) : Prop :=
  ∀ e ∈ ingredients.assignments, e.1 = .thickness → e.2.IsThick least

end Ingredients

theorem Value.isThick_one {least : Int} (h : least ≤ 1) : (Value.int 1).IsThick least := by
  intro a n ha _ hn
  cases ha
  cases hn
  exact h

namespace Action

variable {D : Discipline} {around : Surroundings} {s : Store} {r : Ref}

/-- A component starts out as one of the defaults that its checks let through. -/
theorem isSound_blank {d : Directory} {recipe : Recipe} {c : Component}
    (h : recipe.blank d = .ok c) : c.IsSound := by
  have start : recipe.ingredients.initialKind d |>.IsSound := by
    cases recipe.ingredients <;> simp [Ingredients.initialKind, Kind.IsSound] <;> decide
  obtain ⟨x, -, h⟩ := exists_of_bind_eq_ok h
  obtain ⟨y, -, h⟩ := exists_of_bind_eq_ok h
  obtain ⟨width, -, h⟩ := exists_of_bind_eq_ok h
  obtain ⟨height, -, h⟩ := exists_of_bind_eq_ok h
  cases h
  exact ⟨start, .left, Kind.left_mem_alignments _, rfl⟩

theorem obeys_create (laws : D.Laws) (sparing : around.IsSparing) {recipe : Recipe}
    (thick : recipe.ingredients.AreThick D.least) : (create recipe).Obeys D around s := by
  refine .directory_bind (.bind (.lift _) fun c t hc => ?_)
  have blank : recipe.blank s.directory = .ok c := (outcome_lift _ _ _).symm.trans hc
  refine .bind (.add_component fun r => ?_) fun r _ _ =>
    .bind (.forM fun e he _ => ?_) fun _ _ _ => .pure _
  · have sound := isSound_blank blank
    obtain ⟨x, -, blank⟩ := exists_of_bind_eq_ok blank
    obtain ⟨y, -, blank⟩ := exists_of_bind_eq_ok blank
    obtain ⟨width, -, blank⟩ := exists_of_bind_eq_ok blank
    obtain ⟨height, -, blank⟩ := exists_of_bind_eq_ok blank
    cases blank
    refine ⟨laws.int _, laws.int _, laws.int _, laws.int _, ⟨sound.kind, fun form h => ?_⟩,
      fun _ => sound.alignment⟩
    -- Shapes start out empty, and as thin as they can be.
    cases hingredients : recipe.ingredients <;> rw [hingredients] at h <;> cases h
    all_goals exact ⟨laws.least, laws.empty r _⟩
  · exact Edit.obeys_assign laws sparing r (thick e he)

theorem margin_of_padding (laws : D.Laws) {v u : Value} (hv : D.margin v)
    (h : padding v = .ok u) : D.margin u := by
  obtain ⟨n, -, h⟩ := exists_of_bind_eq_ok h
  split at h
  · cases h
    exact hv
  · cases h
    exact laws.margin_of_place (laws.int 0)

theorem spares_grown (size padding : Value) : (grown size padding).Spares around s :=
  (Edit.follows_twice _).bind fun _ _ _ => Edit.follows_add _ _

/-- A background stands where its barcode stands, less a padding. -/
theorem obeys_makeBackground (laws : D.Laws) (sparing : around.IsSparing) {q : Ref} {c : Component}
    (fits : D.Fits q c) (r : Ref) (b : Barcode) (color : Value) {paddingX paddingY : Value}
    (hx : D.margin paddingX) (hy : D.margin paddingY) :
    (makeBackground r c b color paddingX paddingY).Obeys D around s := by
  refine .bind (.lift _) fun paddingX' _ hx' => .bind (.lift _) fun paddingY' _ hy' => ?_
  rw [outcome_lift] at hx' hy'
  have hx := margin_of_padding laws hx hx'
  have hy := margin_of_padding laws hy hy'
  have masked (t : Store) : (maskColor color).Spares around t := by
    refine .bind (.scribe_bind fun _ hsc => .of_regenerates (Value.regenerates_token hsc color))
      fun _ _ _ => ?_
    split <;> exact .pure _
  have thin : (emptyRectangle c).ingredients.AreThick D.least := by
    rintro ⟨a, v⟩ he rfl
    simp only [emptyRectangle, Ingredients.assignments, List.mem_cons, Prod.mk.injEq,
      reduceCtorEq, false_and, true_and, false_or, or_false, List.not_mem_nil] at he
    exact he ▸ Value.isThick_one laws.least
  refine .bind (.of_spares (masked _)) fun color _ _ =>
    .bind (obeys_create laws sparing thin) fun behind _ _ =>
      Edit.obeys_printedLength_bind fun length _ _ => ?_
  refine .bind (.of_spares (spares_grown _ _)) fun _ _ _ =>
    .bind (Edit.obeys_assign laws sparing behind (by simp)) fun _ _ _ =>
      .bind (.of_spares (spares_grown _ _)) fun _ _ _ =>
        .bind (Edit.obeys_assign laws sparing behind (by simp)) fun _ _ _ => ?_
  refine .bind (.of_spares (Edit.follows_sub _ _)) fun _ _ h =>
    .bind (Edit.obeys_setX (laws.sub fits.x hx h)) fun _ _ _ =>
      .bind (.of_spares (Edit.follows_sub _ _)) fun _ _ h =>
        .bind (Edit.obeys_setY (laws.sub fits.y hy h)) fun _ _ _ => ?_
  exact .bind (Edit.obeys_assign laws sparing behind (by simp)) fun _ _ _ =>
    .bind (Edit.obeys_fillBackground laws sparing behind) fun _ _ _ => .pure _

theorem obeys_applyBackground (laws : D.Laws) (sparing : around.IsSparing) (r : Ref)
    (color : Value) {paddingX paddingY : Value} (hx : D.margin paddingX) (hy : D.margin paddingY) :
    (applyBackground r color paddingX paddingY).Obeys D around s := by
  refine .component_bind fun c _ fits => ?_
  split
  · exact .bind (obeys_makeBackground laws sparing fits r _ color hx hy) fun _ _ _ =>
      .bind (Edit.obeys_modifyBarcode r fun _ h => by exact h) fun _ _ _ => .pure _
  · exact .throw _

end Action

/-! ### Methods -/

namespace Discipline

/-- The methods that take margins or paddings. -/
def marginMethods : List String :=
  ["set_margin_left", "set_margin_top", "set_margin_right", "set_margin_bottom", "set_margins",
    "apply_background"]

/-- The methods that set a margin at the bottom. -/
def loweringMethods : List String := ["set_margin_bottom", "set_margins"]

/-- What a method of a component is carried out with lies within a discipline. -/
structure AllowsRun (D : Discipline) (s : Store) (r : Ref) (name : String) (vs : List Value) :
    Prop where
  thickness : name = "set_thickness" → ∀ v ∈ vs, v.IsThick D.least
  margins : name ∈ marginMethods → ∀ v ∈ vs, D.margin v
  below : name = "below_of" → ∀ v ∈ vs, D.Stacks s v
  lowers : name ∈ loweringMethods → D.Lowers r

end Discipline

/-- A method obeys a discipline on whatever it is carried out within the discipline. -/
def Method.Obeys (m : Method Ref) (D : Discipline) (around : Surroundings) : Prop :=
  ∀ r vs s, D.AllowsRun s r m.name vs → (m.run r vs).Obeys D around s

namespace Method.Obeys

variable {D : Discipline} {around : Surroundings}

theorem query (name : String) {f : Ref → Action Value} (h : ∀ r s, (f r).Spares around s) :
    (Method.query name f).Obeys D around :=
  fun r _ s _ => .of_spares (h r s)

theorem procedure (name : String) (signature : Signature) {f : Ref → List Value → Action Unit}
    (h : ∀ r vs s, D.AllowsRun s r name vs → (f r vs).Obeys D around s) :
    (Method.procedure name signature f).Obeys D around :=
  fun r vs s allows => .bind (h r vs s allows) fun _ _ _ => .pure _

theorem taking (name parameter : String) {f : Ref → Value → Action Unit}
    (h : ∀ r v s, D.AllowsRun s r name [v] → (f r v).Obeys D around s) :
    (Method.taking name parameter f).Obeys D around := by
  refine procedure name _ fun r vs s allows => ?_
  split
  · exact h r _ s allows
  · exact .throw _

end Method.Obeys

namespace Component

open Zpl.Action

variable {D : Discipline} {around : Surroundings}

section

variable (laws : D.Laws) (sparing : around.IsSparing)

include laws sparing

/-- What sets an attribute other than a thickness. -/
theorem obeys_assigning (name parameter : String) {a : Attribute} (ha : a ≠ .thickness) :
    (assigning name parameter a).Obeys D around :=
  .taking name parameter fun r _ _ _ =>
    Edit.obeys_assign laws sparing r fun h => absurd h ha

omit sparing in
theorem obeys_canvasMethods : ∀ m ∈ canvasMethods, m.Obeys D around := by
  simp only [canvasMethods, List.forall_mem_cons]
  refine ⟨.procedure _ _ fun r vs s _ => ?_, .query _ fun r s => ?_, .query _ fun r s => ?_,
    by simp⟩
  · split
    · exact Edit.obeys_setLabelSize laws r _ _
    · exact .throw _
  · exact .component_bind fun _ => .pure _
  · exact .component_bind fun _ => .pure _

omit sparing in
theorem obeys_layoutMethods : ∀ m ∈ layoutMethods, m.Obeys D around := by
  simp only [layoutMethods, List.forall_mem_cons]
  refine ⟨.taking _ _ fun r v _ _ => Edit.obeys_setAlignment laws r v,
    .taking _ _ fun r v _ h => Edit.obeys_setMarginLeft laws r (h.margins (by decide) v (by simp)),
    .taking _ _ fun r v _ h => Edit.obeys_setMarginTop laws r (h.margins (by decide) v (by simp)),
    .taking _ _ fun r v _ h => Edit.obeys_setMarginRight laws r (h.margins (by decide) v (by simp)),
    .taking _ _ fun r v _ h =>
      Edit.obeys_setMarginBottom laws (h.lowers (by decide)) (h.margins (by decide) v (by simp)),
    .procedure _ _ fun r vs s h => ?_,
    .taking _ _ fun r v _ h => Edit.obeys_stackBelow laws r (h.below rfl v (by simp)), by simp⟩
  split
  · have margins := h.margins (by decide)
    simp only [List.forall_mem_cons] at margins
    obtain ⟨left, top, right, bottom, -⟩ := margins
    exact Edit.obeys_setMargins laws (h.lowers (by decide)) left top right bottom
  · exact .throw _

omit laws sparing in
theorem obeys_instructionMethods : ∀ m ∈ instructionMethods, m.Obeys D around := by
  simp only [instructionMethods, List.forall_mem_cons]
  exact ⟨.procedure _ _ fun r _ _ _ => .of_regenerates (regenerates_generate r),
    .query _ fun r _ => .component_bind fun _ => .pure _, by simp⟩

omit laws sparing in
theorem obeys_rawMethods : ∀ m ∈ rawMethods, m.Obeys D around := by
  simp only [rawMethods, List.forall_mem_cons]
  exact ⟨.taking _ _ fun r v _ _ => Edit.obeys_setInstruction r v, by simp⟩

theorem obeys_textMethods : ∀ m ∈ textMethods, m.Obeys D around := by
  simp only [textMethods, List.forall_mem_cons]
  exact ⟨obeys_assigning laws sparing _ _ (by simp), obeys_assigning laws sparing _ _ (by simp),
    .taking _ _ fun r v _ _ => .directory_bind (Edit.obeys_modifyLine r fun _ => rfl), by simp⟩

theorem obeys_barcodeMethods : ∀ m ∈ barcodeMethods, m.Obeys D around := by
  have checked (name parameter : String) {a : Attribute} (ha : a ≠ .thickness) :
      (assigning name parameter a).Obeys D around :=
    obeys_assigning laws sparing name parameter ha
  simp only [barcodeMethods, List.forall_mem_cons]
  refine ⟨.taking _ _ fun r v _ _ => .directory_bind (Edit.obeys_modifyBarcode r fun _ h => h),
    checked _ _ (by simp), checked _ _ (by simp), checked _ _ (by simp),
    .taking _ _ fun r v _ _ => .directory_bind (Edit.obeys_modifyBarcode r fun _ h => h),
    checked _ _ (by simp), checked _ _ (by simp),
    .query _ fun r _ => Edit.follows_barcodeLength r, fun r vs s h => ?_,
    .procedure _ _ fun r _ _ _ => Edit.obeys_modifyBarcode r fun _ h => h, by simp⟩
  dsimp only at h ⊢
  split
  · have margins := h.margins (by decide)
    simp only [List.forall_mem_cons] at margins
    obtain ⟨-, x, y, -⟩ := margins
    exact obeys_applyBackground laws sparing r _ x y
  · exact .throw _

theorem obeys_shapeMethods : ∀ m ∈ shapeMethods, m.Obeys D around := by
  simp only [shapeMethods, List.forall_mem_cons]
  exact ⟨obeys_assigning laws sparing _ _ (by simp), obeys_assigning laws sparing _ _ (by simp),
    .taking _ _ fun r v _ h =>
      Edit.obeys_assign laws sparing r fun _ => h.thickness rfl v (by simp),
    obeys_assigning laws sparing _ _ (by simp),
    .procedure _ _ fun r _ _ _ => Edit.obeys_fillBackground laws sparing r, by simp⟩

theorem obeys_figureMethods (figure : Figure) : ∀ m ∈ figureMethods figure, m.Obeys D around := by
  cases figure with
  | rectangle _ =>
    simp only [figureMethods, List.forall_mem_cons]
    exact ⟨obeys_assigning laws sparing _ _ (by simp), by simp⟩
  | ellipse => simp [figureMethods]
  | diagonal _ =>
    simp only [figureMethods, List.forall_mem_cons]
    exact ⟨obeys_assigning laws sparing _ _ (by simp), by simp⟩

/-- Every method of a component obeys a discipline that is lawful. -/
theorem obeys_methods (c : Component) : ∀ m ∈ c.methods, m.Obeys D around := by
  have own : ∀ m ∈ kindMethods c.kind, m.Obeys D around := by
    cases c.kind with
    | raw _ => exact obeys_rawMethods
    | text _ => exact obeys_textMethods laws sparing
    | barcode _ => exact obeys_barcodeMethods laws sparing
    | shape s =>
      exact List.forall_mem_append.2
        ⟨obeys_shapeMethods laws sparing, obeys_figureMethods laws sparing s.figure⟩
  simp only [methods, List.forall_mem_append]
  exact ⟨⟨⟨obeys_canvasMethods laws, obeys_layoutMethods laws⟩, obeys_instructionMethods⟩, own⟩

end

/-- No method of a component gathers values, and where one does without a value it gets nothing. -/
theorem takesAll_methods (c : Component) : ∀ m ∈ c.methods, m.signature.takesAll = true := by
  have own : (kindMethods c.kind).all (·.signature.takesAll) = true := by
    cases c.kind with
    | raw _ => rfl
    | text _ => rfl
    | barcode _ => rfl
    | shape form =>
      obtain ⟨figure, width, height, thickness, color⟩ := form
      cases figure <;> rfl
  rw [← List.all_eq_true, methods, List.all_append, own, Bool.and_true]
  rfl

end Component

/-! ### Calling, making and assigning -/

namespace Discipline

theorem Stacks.spared {D : Discipline} {s t : Store} {v : Value} (h : D.Stacks s v)
    (spared : s.Spared t) : D.Stacks t v := by
  rcases h with anywhere | nothing | ⟨q, c, rfl, hc⟩
  · exact .inl anywhere
  · exact .inr (.inl nothing)
  · obtain ⟨u, hc⟩ := spared.component? hc
    exact .inr (.inr ⟨q, _, rfl, hc⟩)

/-- A call of a method lies within a discipline. -/
structure AllowsCall (D : Discipline) (s : Store) (r : Ref) (name : String) (call : Call) :
    Prop where
  thickness : name = "set_thickness" → ∀ v ∈ call.values, v.IsThick D.least
  margins : name ∈ marginMethods → ∀ v ∈ call.values, D.margin v
  below : name = "below_of" → ∀ v ∈ call.values, D.Stacks s v
  lowers : name ∈ loweringMethods → D.Lowers r

/-- What a call hands over is what the method is carried out with, apart from nothing. -/
theorem AllowsCall.allowsRun {D : Discipline} {s t : Store} {r : Ref} {name : String} {call : Call}
    (laws : D.Laws) (h : D.AllowsCall s r name call) (spared : s.Spared t) {vs : List Value}
    (hvs : ∀ v ∈ vs, v ∈ call.values ∨ v = .none) : D.AllowsRun t r name vs := by
  refine ⟨fun hname v hv => ?_, fun hname v hv => ?_, fun hname v hv => ?_, h.lowers⟩
  · rcases hvs v hv with hv | rfl
    · exact h.thickness hname v hv
    · intro a n ha
      cases ha
  · rcases hvs v hv with hv | rfl
    · exact h.margins hname v hv
    · exact laws.none
  · rcases hvs v hv with hv | rfl
    · exact (h.below hname v hv).spared spared
    · exact .inr (.inl rfl)

end Discipline

namespace Action

variable {D : Discipline} {around : Surroundings} {s : Store} {r : Ref}

/-- Whatever is called on a component by whatever name. -/
theorem obeys_callNamed (laws : D.Laws) (sparing : around.IsSparing) {c : Component}
    (hc : s.component? r = some c) {name : String} {call : Call}
    (allows : D.AllowsCall s r name call) : (callNamed (.object r) name call).Obeys D around s := by
  refine .spares_bind (spares_attribute? r name) fun found t ht => ?_
  split
  · exact .of_spares (sparing _ _ t)
  · refine .get_bind ?_
    split
    · rename_i offer hoffer
      obtain ⟨v, hc'⟩ := ht.component? hc
      have offered : offer ∈ t.offers (.object r) := List.mem_of_find?_eq_some hoffer
      have named := List.find?_some hoffer
      simp only [Store.offers, Store.component?_eq_some_iff.1 hc', Option.map_some,
        Option.getD_some, Thing.offers, List.mem_map] at offered
      obtain ⟨m, hm, rfl⟩ := offered
      obtain rfl : m.name = name := beq_iff_eq.1 named
      refine .look_bind (after_lift _ _ _) fun vs hvs => ?_
      rw [outcome_lift] at hvs
      have handed := Signature.mem_values_of_bind (Component.takesAll_methods _ m hm)
        (Offer.signature_bind hvs)
      exact .bind (Component.obeys_methods laws sparing _ m hm r vs t
        (allows.allowsRun laws ht handed)) fun _ _ _ => .of_spares (follows_made _ _ _)
    · exact .of_spares (.of_regenerates (.bind (.lacking _ _) fun _ => .throw _))

/-- What is stored unchecked leaves a component fit and of its kind, if places are places. -/
theorem fits_store? {c c' : Component} {name : String} {v : Value}
    (h : c.store? name v = some c')
    (hplace : name ∈ ["x", "y", "label_width", "label_height"] → D.place v)
    (halignment : D.aligned → name ≠ "alignment") (fits : D.Fits r c) :
    D.Fits r c' ∧ c'.kind.name = c.kind.name := by
  obtain ⟨x, y, labelWidth, labelHeight, kind, alignment⟩ := fits
  unfold Component.store? at h
  split at h <;> cases h
  all_goals
    try exact ⟨⟨x, y, labelWidth, labelHeight, kind, alignment⟩, rfl⟩
  case h_2 => exact ⟨⟨hplace (by decide), y, labelWidth, labelHeight, kind, alignment⟩, rfl⟩
  case h_3 => exact ⟨⟨x, hplace (by decide), labelWidth, labelHeight, kind, alignment⟩, rfl⟩
  case h_4 => exact ⟨⟨x, y, hplace (by decide), labelHeight, kind, alignment⟩, rfl⟩
  case h_5 => exact ⟨⟨x, y, labelWidth, hplace (by decide), kind, alignment⟩, rfl⟩
  case h_6 => exact ⟨⟨x, y, labelWidth, labelHeight, kind, fun aligned =>
    absurd rfl (halignment aligned)⟩, rfl⟩
  -- What is left is stored in a line of text or in a barcode.
  all_goals
    rename_i hk
    have sound := kind.sound
    rw [hk] at sound alignment
    refine ⟨⟨x, y, labelWidth, labelHeight, ⟨?_, fun form h => by cases h⟩, alignment⟩,
      by rw [hk]; rfl⟩
    exact sound

/-- What is attached to an object elsewhere than in the place of a method is not called. -/
theorem obeys_attach (r : Ref) {name : String} (v : Value) (hname : name ∉ Store.calledNames) :
    (attach r name v).Obeys D around s := by
  intro hs
  refine ⟨⟨⟨fun q n hn => ?_, hs.quiet.methods⟩, hs.fits⟩, fun _ c hc => ⟨c, hc, rfl⟩⟩
  have other : ((q, n) == (r, name)) = false := by
    rw [beq_eq_false_iff_ne]
    rintro ⟨⟩
    exact hname hn
  change List.lookup (q, n) (((r, name), v) :: s.attached) = none
  rw [List.lookup_cons, other]
  exact hs.quiet.genuine q n hn

/-- A thickness is what goes by the name of one. -/
theorem validated?_eq_thickness {k : Kind} {name : String}
    (h : k.validated? name = some .thickness) : name = "thickness" := by
  unfold Kind.validated? at h
  split at h <;> first | rfl | cases h

/-- Whatever is assigned to a component, apart from what stands in the place of a method. -/
theorem obeys_write (laws : D.Laws) (sparing : around.IsSparing) {c : Component}
    (hc : s.component? r = some c) {name : String} {v : Value}
    (hthickness : name = "thickness" → v.IsThick D.least)
    (hplace : name ∈ ["x", "y", "label_width", "label_height"] → D.place v)
    (halignment : D.aligned → name ≠ "alignment") (hmethod : name ∉ Store.calledNames) :
    (write r name v).Obeys D around s := by
  refine .look_bind (after_thing r around s) fun x hx => ?_
  have there : s.thing? r = some x := eq_some_of_outcome_demand hx
  obtain rfl := Option.some.inj ((Store.component?_eq_some_iff.1 hc).symm.trans there)
  split
  · rename_i a _ hvalidated
    refine Edit.obeys_assign laws sparing r fun ha => hthickness ?_
    exact validated?_eq_thickness (ha ▸ hvalidated)
  · rename_i x _ hstore
    obtain ⟨c', hc', rfl⟩ := Option.map_eq_some_iff.1 hstore
    intro hs
    obtain ⟨fits, same⟩ := fits_store? hc' hplace halignment (hs.fits r c hc)
    exact hs.put hc fits same
  · refine .directory_bind ?_
    split
    · exact obeys_attach r v hmethod
    · exact .throw _

/-! ### Making what a call asks for -/

/-- A thickness that a shape is made with is handed over, or is the thinnest line. -/
theorem isThick_of_given {least : Int} (hleast : least ≤ 1) {call : Call}
    (h : ∀ e ∈ call.named, e.1 = "thickness" → e.2.IsThick least) {v : Value}
    (given : Signature.Given call (option "thickness" (.int 1)) v) : v.IsThick least := by
  cases given with
  | inRow place _ => cases place
  | named mem isNamed => exact h _ mem (beq_iff_eq.1 isNamed).symm
  | default hdefault =>
    cases hdefault
    exact Value.isThick_one hleast

/-- What a component is made from is thick enough if what a call hands over is. The thickness of a
shape is the third of its parameters. -/
theorem areThick_of_given {least : Int} (hleast : least ≤ 1) {call : Call}
    (h : ∀ e ∈ call.named, e.1 = "thickness" → e.2.IsThick least) {kind : String}
    {parameters : List Parameter} {ingredients : List Value → Option Ingredients}
    (hkind : ingredients? kind = some (parameters, ingredients)) {vs : List Value}
    (given : List.Forall₂ (Signature.Given call) parameters vs) {made : Ingredients}
    (hmade : ingredients vs = some made) : made.AreThick least := by
  have thick (further : List Parameter) {width height thickness : Value} {rest : List Value}
      (given : List.Forall₂ (Signature.Given call) (shapeParameters ++ further)
        (width :: height :: thickness :: rest)) : thickness.IsThick least := by
    simp only [shapeParameters, List.cons_append, List.forall₂_cons] at given
    exact isThick_of_given hleast h given.2.2.1
  unfold ingredients? at hkind
  split at hkind <;> cases hkind <;> dsimp only at hmade <;> split at hmade <;> cases hmade <;>
    rintro ⟨a, v⟩ he rfl <;>
    simp only [Ingredients.assignments, List.mem_cons, Prod.mk.injEq, reduceCtorEq, false_and,
      true_and, false_or, or_false, List.not_mem_nil] at he
  · exact he ▸ thick _ given
  · exact he ▸ thick [] given
  · exact he ▸ thick _ given

/-- Whatever values a component is made from, if they are enough for one. -/
theorem obeys_making (laws : D.Laws) (sparing : around.IsSparing)
    (ingredients? : Option Ingredients) (common : List Value) (listener : Value) :
    (∀ ingredients, ingredients? = some ingredients → ingredients.AreThick D.least) →
    (match ingredients?, common with
      | some ingredients, [id, x, y, labelWidth, labelHeight] => do
        let recipe : Recipe := {
          id := id
          x := x
          y := y
          labelWidth := labelWidth
          labelHeight := labelHeight
          listener := listener
          ingredients := ingredients }
        return .object (← create recipe)
      | _, _ => throw .wrongType : Action Value).Obeys D around s := by
  intro thick
  split
  · exact .bind (obeys_create laws sparing (thick _ rfl)) fun _ _ _ => .pure _
  · exact .throw _

/-- Whatever a component is made from, apart from a thickness that is too small. -/
theorem obeys_construct (laws : D.Laws) (sparing : around.IsSparing) {kind : String}
    (hkind : (ingredients? kind).isSome) (heard : Bool) {call : Call}
    (h : ∀ e ∈ call.named, e.1 = "thickness" → e.2.IsThick D.least) :
    (construct kind heard call).Obeys D around s := by
  obtain ⟨⟨parameters, ingredients⟩, hkind⟩ := Option.isSome_iff_exists.1 hkind
  rw [construct, hkind]
  refine .bind (.lift _) fun values t hvalues => ?_
  rw [outcome_lift] at hvalues
  have given := List.forall₂_take parameters.length (Signature.given_of_bind rfl rfl hvalues)
  rw [List.take_left' rfl] at given
  have thick (made : Ingredients)
      (hmade : ingredients (values.take parameters.length) = some made) : made.AreThick D.least :=
    areThick_of_given laws.least h hkind given hmade
  have listening : (add .handler).Spares around t := .add trivial
  cases heard with
  | true =>
    exact .bind (.of_spares listening) fun r _ _ => .bind (.pure _) fun listener u _ =>
      obeys_making laws sparing _ _ listener thick
  | false => exact .bind (.pure _) fun listener u _ => obeys_making laws sparing _ _ listener thick

end Action

/-! ### Runs of callers -/

/-- One thing that callers do: they make a component, call what goes by a name, or assign. -/
inductive Deed where
  | construct (kind : String) (heard : Bool) (call : Call)
  | call (r : Ref) (name : String) (call : Call)
  | write (r : Ref) (name : String) (v : Value)

namespace Deed

/-- The store that a deed leaves, whether it fails or not. -/
def leaves (c : Circumstances) (s : Store) : Deed → Store
  | .construct kind heard given => ((Action.construct kind heard given).attempt c s).2
  | .call r name given => ((Action.call (.object r) name given).attempt c s).2
  | .write r name v => ((Action.write r name v).attempt c s).2

/-- What a deed hands over as a thickness. -/
def thicknesses : Deed → List Value
  | .construct _ _ given => (given.named.filter (·.1 = ("thickness" : Text))).map (·.2)
  | .call _ name given => if name = "set_thickness" then given.values else []
  | .write _ name v => if name = "thickness" then [v] else []

/-- Deeds are about components, and put nothing in the place of a method. -/
def IsProper (s : Store) : Deed → Prop
  | .construct kind _ _ => (Action.ingredients? kind).isSome
  | .call r _ _ => (s.component? r).isSome
  | .write r name _ => (s.component? r).isSome ∧ name ∉ Store.calledNames

end Deed

/-- The stores that callers get to who start without components and do what is allowed, whatever
comes of it. What is allowed may depend on the stores before and after. -/
inductive Store.IsReachableBy (allowed : Store → Deed → Store → Prop) : Store → Prop where
  | start {s : Store} (genuine : s.IsGenuine)
      (empty : ∀ r x, s.thing? r = some x → (∀ c, x ≠ .component c) ∧ ∀ m, x ≠ .method m) :
      IsReachableBy allowed s
  | deed {s : Store} (before : IsReachableBy allowed s) (c : Circumstances) {d : Deed}
      (proper : d.IsProper s) (h : allowed s d (d.leaves c s)) :
      IsReachableBy allowed (d.leaves c s)

namespace Discipline

/-- What a deed hands over lies within a discipline. -/
def Allows (D : Discipline) (s : Store) : Deed → Prop
  | .construct _ _ call => ∀ e ∈ call.named, e.1 = "thickness" → e.2.IsThick D.least
  | .call r name call => D.AllowsCall s r name call
  | .write _ name v => (name = "thickness" → v.IsThick D.least) ∧
      (name ∈ ["x", "y", "label_width", "label_height"] → D.place v) ∧
      (D.aligned → name ≠ "alignment")

variable {D : Discipline} {s : Store}

/-- Where callers do what they like, it matters what they hand over as a thickness, and maybe that
they set no alignment by themselves. -/
theorem allows_free {least : Int} {aligned : Prop} (s : Store) {d : Deed}
    (thick : ∀ v ∈ d.thicknesses, v.IsThick least)
    (unaligned : aligned → ∀ r v, d ≠ .write r "alignment" v) :
    (free least aligned).Allows s d := by
  cases d with
  | construct kind heard call =>
    intro e he name
    exact thick e.2 (List.mem_map.2 ⟨e, List.mem_filter.2 ⟨he, decide_eq_true name⟩, rfl⟩)
  | call r name call =>
    refine ⟨fun isThickness v hv => thick v ?_, fun _ _ _ => trivial,
      fun _ _ _ => .inl fun _ => trivial, fun _ => lowers_free least aligned r⟩
    rw [Deed.thicknesses, if_pos isThickness]
    exact hv
  | write r name v =>
    refine ⟨fun isThickness => thick v ?_, fun _ => trivial, fun aligned isAlignment => ?_⟩
    · rw [Deed.thicknesses, if_pos isThickness]
      exact List.mem_singleton_self v
    · exact unaligned aligned r v (isAlignment ▸ rfl)

/-- Where there are no components, every discipline holds. -/
theorem holds_of_empty (genuine : s.IsGenuine)
    (empty : ∀ r x, s.thing? r = some x → (∀ c, x ≠ .component c) ∧ ∀ m, x ≠ .method m) :
    D.Holds s :=
  ⟨⟨genuine, fun r m hm => (empty r _ hm).2 m rfl⟩, fun r c hc =>
    absurd rfl ((empty r _ (Store.component?_eq_some_iff.1 hc)).1 c)⟩

/-- Whatever callers do within a discipline, it goes on to hold. -/
theorem Holds.deed (laws : D.Laws) (hs : D.Holds s) (c : Circumstances) {d : Deed}
    (proper : d.IsProper s) (allows : D.Allows s d) : D.Evolves s (d.leaves c s) := by
  have sparing (fuel : Nat) := Surroundings.isSparing_within c fuel
  cases d with
  | construct kind heard call =>
    rw [Deed.leaves, Action.attempt_eq]
    exact Action.obeys_construct laws (sparing _) proper heard allows hs
  | call r name call =>
    obtain ⟨comp, hcomp⟩ := Option.isSome_iff_exists.1 proper
    rw [Deed.leaves, Action.attempt_eq]
    -- Methods call each other to some depth, and the call itself takes one step of it.
    cases s.depth with
    | zero => exact .refl hs
    | succ fuel => exact Action.obeys_callNamed laws (sparing fuel) hcomp allows hs
  | write r name v =>
    obtain ⟨comp, hcomp⟩ := Option.isSome_iff_exists.1 proper.1
    rw [Deed.leaves, Action.attempt_eq]
    obtain ⟨thickness, place, alignment⟩ := allows
    exact Action.obeys_write laws (sparing _) hcomp thickness place alignment proper.2 hs

/-- A run of callers who keep to a discipline ends where it holds. -/
theorem holds_of_isReachableBy (laws : D.Laws) {allowed : Store → Deed → Store → Prop}
    (within : ∀ s d t, allowed s d t → D.Allows s d) (h : s.IsReachableBy allowed) :
    D.Holds s := by
  induction h with
  | start genuine empty => exact holds_of_empty genuine empty
  | deed _ c proper h ih => exact (ih.deed laws c proper (within _ _ _ h)).holds

end Discipline

end Zpl
