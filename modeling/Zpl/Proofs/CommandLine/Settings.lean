import Zpl.Proofs.CommandLine.Request
import Zpl.Proofs.Print.Blame

/-!
# Settings in a store

The settings that a command line gives become an object, and a printer is made by asking that object
one question after the other. What it answers is what the settings say, but for one thing: the empty
list that stands for two dashes is an object by then. Nobody looks at it closely, as it does not
count as true.

## Main definitions

* `Store.Stands` — what a setting has become in a store.
* `Store.HasSettings` — settings are an object of a store.
* `Settings.answerOr`, `Settings.needed` — what settings say, and what they have to say.

## Main results

* `Action.made_settings` — settings from a command line become an object.
* `Settings.askOr_eq`, `Settings.demand_eq`, `Settings.require_eq` — that object answers what the
  settings say.
-/

namespace Zpl

open CommandLine

namespace Store

variable {s t : Store} {v w : Value}

/-- A store with more objects. -/
def extended (s : Store) (new : List Thing) : Store := { s with things := s.things ++ new }

@[simp] theorem extended_nil (s : Store) : s.extended [] = s := by
  simp [extended]

@[simp] theorem extended_extended (s : Store) (xs ys : List Thing) :
    (s.extended xs).extended ys = s.extended (xs ++ ys) := by
  simp [extended]

theorem thing?_extended {r : Ref} {x : Thing} (h : s.thing? r = some x) (new : List Thing) :
    (s.extended new).thing? r = some x := by
  obtain ⟨hlt, -⟩ := List.getElem?_eq_some_iff.1 h
  exact (List.getElem?_append_left hlt).trans h

/-- What a setting has become in a store: an empty list is an object there. -/
inductive Stands (s : Store) : Value → Value → Prop where
  | nothing : Stands s .none .none
  | text (t : Text) : Stands s (.text t) (.text t)
  | integer (n : Int) : Stands s (.int n) (.int n)
  | list {q : Ref} (there : s.thing? q = some (.content (.list []))) :
      Stands s (.list []) (.object q)

namespace Stands

theorem extended (h : s.Stands v w) (new : List Thing) : (s.extended new).Stands v w := by
  cases h with
  | nothing => exact .nothing
  | text t => exact .text t
  | integer n => exact .integer n
  | list there => exact .list (thing?_extended there new)

theorem truth_eq (h : s.Stands v w) : w.truth s.directory = v.truth .empty := by
  cases h with
  | nothing => rfl
  | text t => rfl
  | integer n => rfl
  | list there => simp [Value.truth, Store.directory, there, Store.parts?, Value.elements,
      Except.toOption]

theorem eq_of_truth (h : s.Stands v w) (hv : v.truth .empty = true) : w = v := by
  cases h with
  | nothing => rfl
  | text t => rfl
  | integer n => rfl
  | list there => cases hv

/-- What counts as false may be replaced in the store as well as before. -/
theorem orElse_eq (h : s.Stands v w) (alternative : Value) :
    w.orElse s.directory alternative = v.orElse .empty alternative := by
  rw [Value.orElse, Value.orElse, h.truth_eq]
  split
  · rename_i hv
    exact h.eq_of_truth hv
  · rfl

/-- What stands in a store is not made once more. -/
theorem made_eq (h : s.Stands v w) (around : Surroundings) (t : Store) :
    Action.made w around t = .ok w t := by
  cases h <;> rfl

end Stands

end Store

namespace Action

variable (around : Surroundings)

theorem made_gives (s : Store) {r : Reading} (hr : r ≠ .decimal) {v : Value} (h : r.Gives v) :
    ∃ w new, made v around s = .ok w (s.extended new) ∧ (s.extended new).Stands v w := by
  cases h with
  | text t => exact ⟨_, [], by rw [Store.extended_nil]; rfl, .text t⟩
  | integer writable => exact ⟨_, [], by rw [Store.extended_nil]; rfl, .integer _⟩
  | decimal x => exact absurd rfl hr
  | separator r =>
    exact ⟨.object s.things.length, [.content (.list [])], rfl,
      .list (by simp [Store.thing?, Store.extended])⟩

/-- Settings become what stands for them. -/
theorem madeAll_gives (s : Store) {vs : List Value}
    (h : ∀ v ∈ vs, ∃ r : Reading, r ≠ .decimal ∧ r.Gives v) :
    ∃ ws new, madeAll vs around s = .ok ws (s.extended new) ∧
      List.Forall₂ (s.extended new).Stands vs ws := by
  induction vs generalizing s with
  | nil => exact ⟨[], [], by rw [Store.extended_nil]; rfl, .nil⟩
  | cons v vs ih =>
    obtain ⟨⟨r, hr, hgives⟩, hvs⟩ := List.forall_mem_cons.1 h
    obtain ⟨w, xs, hw, hstands⟩ := made_gives around s hr hgives
    obtain ⟨ws, ys, hws, hall⟩ := ih (s.extended xs) hvs
    refine ⟨w :: ws, xs ++ ys, ?_, ?_⟩
    · rw [← Store.extended_extended]
      exact bind_eq hw (bind_eq hws rfl)
    · rw [← Store.extended_extended]
      exact .cons (hstands.extended ys) hall

theorem madeAll_texts (s : Store) (ts : List Text) :
    madeAll (ts.map .text) around s = .ok (ts.map .text) s := by
  induction ts with
  | nil => rfl
  | cons t ts ih => exact bind_eq rfl (bind_eq ih rfl)

end Action

/-- Settings are an object of a store. -/
structure Store.HasSettings (s : Store) (r : Ref) (settings : Value) : Prop where
  unattached : s.attached = []
  record : ∃ (fields : List (Text × Value)) (values : List Value), settings = .ofFields fields ∧
    s.thing? r = some (.content (.record (fields.map fun field => .text field.1) values)) ∧
    List.Forall₂ s.Stands (fields.map (·.2)) values

namespace Action

/-- Settings that were read from a command line become an object. -/
theorem made_settings {s : Store} (hs : s.attached = []) {settings : Value}
    (h : Settings.IsTyped settings) (around : Surroundings) :
    ∃ r new, made settings around s = .ok (.object r) (s.extended new) ∧
      (s.extended new).HasSettings r settings := by
  obtain ⟨fields, rfl, hfields⟩ := h.plain
  obtain ⟨values, new, hvalues, hstands⟩ := madeAll_gives around s
    (List.forall_mem_map.2 hfields)
  have keys := madeAll_texts around s (fields.map (·.1))
  rw [List.map_map] at keys
  refine ⟨(s.extended new).things.length,
    new ++ [.content (.record (fields.map fun field => .text field.1) values)], ?_, hs, fields,
    values, rfl, ?_, ?_⟩
  · rw [← Store.extended_extended]
    exact bind_eq keys (bind_eq hvalues rfl)
  · simp [Store.thing?, Store.extended]
  · rw [← Store.extended_extended]
    exact hstands.imp fun _ _ h => h.extended _

end Action

/-! ### Looking settings up -/

namespace Store

variable {s : Store} {r : Ref} {settings : Value}

theorem demandKey_text (s : Store) (t : Text) : s.demandKey (.text t) = .ok () := by
  obtain ⟨fuel, hfuel⟩ := s.depth_eq
  rw [demandKey, obstacle?, hfuel]
  rfl

/-- What stands under a key is what stands for the value of the field. -/
theorem lookUp_fields (s : Store) (key : Text) (fields : List (Text × Value)) {values : List Value}
    (h : List.Forall₂ s.Stands (fields.map (·.2)) values) :
    ∃ found, lookUp s.agree (.text key) ((fields.map fun field => .text field.1).zip values) =
        .ok found ∧
      s.Stands ((fields.lookup key).getD .none) (found.getD .none) := by
  induction fields generalizing values with
  | nil => exact ⟨none, rfl, .nothing⟩
  | cons field fields ih =>
    obtain ⟨name, v⟩ := field
    cases h with
    | cons hv hvalues =>
      rename_i w values
      obtain ⟨found, hfound, hstands⟩ := ih hvalues
      have agrees : partsAgree s.agree (.text name) (.text key) = .ok (key == name) := by
        rw [partsAgree, if_neg (by simp [Value.sharesNan]), agree_text, BEq.comm]
      rw [List.lookup_cons]
      simp only [List.map_cons, List.zip_cons_cons, lookUp, agrees, bind, Except.bind]
      cases key == name with
      | true => exact ⟨some w, rfl, hv⟩
      | false => exact ⟨found, hfound, hstands⟩

theorem HasSettings.entryUnder? (h : s.HasSettings r settings) (key : String) :
    ∃ keys values found, s.thing? r = some (.content (.record keys values)) ∧
      s.entryUnder? (.text key) (keys.zip values) = .ok found ∧
      s.Stands (Settings.answer settings key) (found.getD .none) := by
  obtain ⟨fields, values, rfl, hthing, hstands⟩ := h.record
  obtain ⟨found, hfound, hv⟩ := lookUp_fields s key fields hstands
  refine ⟨_, values, found, hthing, ?_, ?_⟩
  · rw [Store.entryUnder?, findUnder?, demandKey_text]
    exact hfound
  · rwa [Settings.answer, Value.lookup?_ofFields]

end Store

namespace Settings

variable {s : Store} {r : Ref} {settings : Value} {c : Circumstances} {fuel : Nat}

/-- A record is asked for what stands under a key. -/
theorem ask_record {keys values : List Value} {found : Option Value} {key : String}
    (hthing : s.thing? r = some (.content (.record keys values)))
    (plain : s.attribute? r "get" = none)
    (hentry : s.entryUnder? (.text key) (keys.zip values) = .ok found)
    (hmade : ∀ around, Action.made (found.getD .none) around s = .ok (found.getD .none) s)
    (c : Circumstances) (fuel : Nat) :
    ask (.object r) key (.within c (fuel + 1)) s = .ok (found.getD .none) s := by
  have shut : Action.attribute? (.object r) "get" (.within c fuel) s = .ok none s := by
    refine Action.bind_eq rfl (Action.bind_eq (a := none) (t := s) ?_ ?_)
    · refine Action.bind_eq rfl ?_
      simp only [hthing]
      rfl
    · simp only [plain]
      rfl
  have offered : s.offer? (.object r) "get" =
      some (Method.offer "dict" (fun _ => none) r (Record.keyed "get" Record.getD)) := by
    simp only [Store.offer?, Store.offers, hthing]
    rfl
  have reads : Record.getD r (.text key) .none (.within c fuel) s = .ok (found.getD .none) s := by
    refine Action.bind_eq (a := found) (t := s) ?_ rfl
    refine Action.bind_eq (a := (keys, values)) (t := s) ?_ (Action.bind_eq rfl ?_)
    · refine Action.bind_eq rfl ?_
      simp only [Store.content?, hthing]
      rfl
    · rw [hentry]
      rfl
  refine Action.bind_eq shut (Action.bind_eq rfl ?_)
  simp only [offered]
  exact Action.bind_eq rfl (Action.bind_eq reads (hmade _))

/-- What stands under a key of a record is there when it is demanded. -/
theorem demand_record {keys values : List Value} {v : Value} {key : String}
    (hthing : s.thing? r = some (.content (.record keys values)))
    (hentry : s.entryUnder? (.text key) (keys.zip values) = .ok (some v)) (around : Surroundings) :
    demand (.object r) key around s = .ok v s := by
  have opened : (Value.object r).opened s.directory = .record keys values := by
    simp [Value.opened, Store.directory, hthing, Store.content?]
  refine Action.bind_eq rfl ?_
  simp only [opened]
  refine Action.bind_eq rfl (Action.bind_eq (a := some v) (t := s) ?_ rfl)
  rw [hentry]
  rfl

theorem ask_eq (h : s.HasSettings r settings) (c : Circumstances) (fuel : Nat) (key : String) :
    ∃ w, ask (.object r) key (.within c (fuel + 1)) s = .ok w s ∧
      s.Stands (answer settings key) w := by
  obtain ⟨keys, values, found, hthing, hentry, hstands⟩ := h.entryUnder? key
  have plain : s.attribute? r "get" = none := by
    simp [Store.attribute?, hthing, h.unattached, Thing.fields, Thing.sharedFields]
  exact ⟨_, ask_record hthing plain hentry (fun _ => hstands.made_eq _ s) c fuel, hstands⟩

/-- What settings say about something, or something else where that does not count as true. -/
def answerOr (settings : Value) (key : String) (alternative : Value) : Value :=
  (answer settings key).orElse .empty alternative

/-- What settings say about something that they have to say. -/
def needed (settings : Value) (key : String) (lack : Text) : Except Fault Value :=
  if (answer settings key).truth .empty then .ok (answer settings key) else .error (refused lack)

theorem askOr_eq (h : s.HasSettings r settings) (key : String) (alternative : Value) :
    askOr (.object r) key alternative (.within c (fuel + 1)) s =
      .ok (answerOr settings key alternative) s := by
  obtain ⟨w, hw, hstands⟩ := ask_eq h c fuel key
  refine Action.bind_eq hw (Action.bind_eq rfl ?_)
  rw [hstands.orElse_eq]
  rfl

theorem demand_eq (h : s.HasSettings r settings) {key : String}
    (htruth : (answer settings key).truth .empty = true) (around : Surroundings) :
    demand (.object r) key around s = .ok (answer settings key) s := by
  obtain ⟨keys, values, found, hthing, hentry, hstands⟩ := h.entryUnder? key
  have present : found = some (answer settings key) := by
    have := hstands.eq_of_truth htruth
    cases found with
    | none =>
      rw [← this] at htruth
      cases htruth
    | some w => exact congrArg some this
  rw [present] at hentry
  exact demand_record hthing hentry around

theorem require_eq (h : s.HasSettings r settings) (key : String) (lack : Text) :
    require (.object r) key lack (.within c (fuel + 1)) s =
      (liftM (needed settings key lack) : Action Value) (.within c (fuel + 1)) s := by
  obtain ⟨w, hw, hstands⟩ := ask_eq h c fuel key
  refine Action.bind_eq hw (Action.bind_eq rfl ?_)
  rw [hstands.truth_eq, needed]
  cases htruth : (answer settings key).truth .empty with
  | true => exact demand_eq h htruth _
  | false => rfl

end Settings

end Zpl
