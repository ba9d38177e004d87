import Zpl.Proofs.CommandLine.Printer
import Zpl.Proofs.Value.Literal

/-!
# Identifiers of USB devices

A device is told by the numbers of its vendor and its product, and a job goes to an endpoint with a
number. Settings give such a number as one, or as text in base ten or sixteen. However they do, they
describe the same backend, with the same name. That name shows the numbers in base sixteen, with
zeros in front, and the text between its colons is again one that settings may give.

The settings here are any record whose keys are texts. What it holds besides is of no concern.

## Main definitions

* `Settings.IsIdentifier` — a value gives a number.
* `Store.HasEntries` — a record with texts for keys is an object of a store.
* `Settings.usbOf` — the backend for a USB device that such a record describes.

## Main results

* `Settings.makeBackend_usb` — that backend is made.
* `Settings.usb_identifiers` — it is the same however its numbers are given, and its name gives them
  again.
-/

namespace Zpl

namespace Settings

variable {n : Nat} {v w : Value} 

/-! ### What stands for a number -/

/-- A value gives a number: it is the number, or its text in base ten, or one in base sixteen after
a mark. In base sixteen there may be zeros in front, and letters may be large or small. -/
inductive IsIdentifier (n : Nat) : Value → Prop where
  | number : IsIdentifier n (.int n)
  | decimal (writable : Decimal.isWritable n = true) : IsIdentifier n (.text (Text.ofNat n))
  | hexadecimal {mark : Char} {digits : List Char} {zeros : Nat} (hmark : mark = 'x' ∨ mark = 'X')
      (hdigits : digits.map Char.toLower = List.replicate zeros '0' ++ Nat.toDigits 16 n) :
      IsIdentifier n (.text (Text.ofChars ('0' :: mark :: digits)))

namespace IsIdentifier

theorem identifier_eq (h : IsIdentifier n v) : identifier v = .ok n := by
  cases h with
  | number => rfl
  | decimal writable => exact Numeral.readLiteral_decimal writable
  | hexadecimal hmark hdigits =>
    have spelled : Numeral.Spells 16 n (Nat.toDigits 16 n) :=
      Numeral.spells_toDigits (by decide) (by decide) n
    have padded := hdigits ▸ spelled.pad (by decide) _
    exact Numeral.readLiteral_hexadecimal hmark padded.of_toLower

theorem truth_eq (h : IsIdentifier n v) (hn : 1 ≤ n) (d : Directory) : v.truth d = true := by
  cases h with
  | number => simp [Value.truth]; omega
  | decimal => simp [Value.truth, Text.ofNat, Text.ofChars]
  | hexadecimal => rfl

end IsIdentifier

/-- A value says which endpoint is wanted: the first one, or the one with a number. -/
inductive Wants : Value → Value → Prop where
  | first : Wants .none .none
  | number {n : Nat} {v : Value} (h : IsIdentifier n v) : Wants v (.int n)

theorem endpoint_of_isIdentifier (h : IsIdentifier n v) : endpoint v = .ok (.int n) := by
  have read := h.identifier_eq
  cases h <;> simp only [endpoint, read, bind, Except.bind, pure, Except.pure]

theorem Wants.endpoint_eq (h : Wants v w) : endpoint v = .ok w := by
  cases h with
  | first => rfl
  | number h => exact endpoint_of_isIdentifier h

/-! ### Settings that are a record -/

/-- What a record says about one thing. -/
def told (entries : List (Text × Value)) (key : String) : Value :=
  (entries.lookup (Text.ofString key)).getD .none

end Settings

/-- A record with texts for keys is an object of a store. What it holds is there already, so that
nothing is made of it once more. -/
structure Store.HasEntries (s : Store) (r : Ref) (entries : List (Text × Value)) : Prop where
  plain : s.attribute? r "get" = none
  record : s.thing? r = some (.content (.record (entries.map fun entry => .text entry.1)
    (entries.map (·.2))))
  kept : ∀ entry ∈ entries, ∀ around, Action.made entry.2 around s = .ok entry.2 s

namespace Store.HasEntries

variable {s : Store} {r : Ref} {entries : List (Text × Value)}

/-- A text is looked up among texts. -/
theorem entryUnder?_eq (s : Store) (entries : List (Text × Value)) (key : Text) :
    s.entryUnder? (.text key)
        ((entries.map fun entry => Value.text entry.1).zip (entries.map (·.2))) =
      .ok (entries.lookup key) := by
  rw [Store.entryUnder?, findUnder?, demandKey_text]
  induction entries with
  | nil => rfl
  | cons entry entries ih =>
    obtain ⟨name, v⟩ := entry
    have agrees : partsAgree s.agree (.text name) (.text key) = .ok (key == name) := by
      rw [partsAgree, if_neg (by simp [Value.sharesNan]), agree_text, BEq.comm]
    rw [List.lookup_cons]
    simp only [List.map_cons, List.zip_cons_cons, lookUp, agrees, bind, Except.bind] at ih ⊢
    cases key == name with
    | true => rfl
    | false => exact ih

theorem made_eq (h : s.HasEntries r entries) (key : Text) (around : Surroundings) :
    Action.made ((entries.lookup key).getD .none) around s =
      .ok ((entries.lookup key).getD .none) s := by
  cases hfound : entries.lookup key with
  | none => rfl
  | some v =>
    obtain ⟨before, after, hentries, -⟩ := List.lookup_eq_some_iff.1 hfound
    exact h.kept (key, v) (by simp [hentries]) around

end Store.HasEntries

namespace Settings

variable {s : Store} {r : Ref} {entries : List (Text × Value)} {c : Circumstances} {fuel : Nat}

theorem ask_told (h : s.HasEntries r entries) (key : String) (c : Circumstances) (fuel : Nat) :
    ask (.object r) key (.within c (fuel + 1)) s = .ok (told entries key) s :=
  ask_record h.record h.plain (Store.HasEntries.entryUnder?_eq s entries _) (h.made_eq _) c fuel

theorem askOr_told (h : s.HasEntries r entries) (key : String) (alternative : Value)
    (c : Circumstances) (fuel : Nat) :
    askOr (.object r) key alternative (.within c (fuel + 1)) s =
      .ok ((told entries key).orElse s.directory alternative) s :=
  Action.bind_eq (ask_told h key c fuel) rfl

theorem demand_told (h : s.HasEntries r entries) {key : String} {d : Directory}
    (there : (told entries key).truth d = true) (around : Surroundings) :
    demand (.object r) key around s = .ok (told entries key) s := by
  have hentry := Store.HasEntries.entryUnder?_eq s entries (Text.ofString key)
  cases hfound : entries.lookup (Text.ofString key) with
  | none =>
    rw [told, hfound] at there
    cases there
  | some v =>
    rw [hfound] at hentry
    rw [told, hfound]
    exact demand_record h.record hentry around

/-- The backend for a USB device that a record describes. -/
def usbOf (d : Directory) (entries : List (Text × Value)) : Except Fault Backend := do
  if !(told entries "usb_pid").truth d then
    throw (refused "USB printing needs the printer's product id")
  let product ← identifier (told entries "usb_pid")
  let vendor ← identifier ((told entries "usb_vid").orElse d (.int Backend.defaultVendor))
  let wanted ← endpoint (told entries "usb_endpoint")
  return .usb (.int vendor) (.int product) wanted

theorem usbBackend_told (h : s.HasEntries r entries) (c : Circumstances) (fuel : Nat) :
    usbBackend (.object r) (.within c (fuel + 1)) s =
      (liftM (usbOf s.directory entries) : Action Backend) (.within c (fuel + 1)) s := by
  refine Action.bind_eq (ask_told h _ c fuel) (Action.bind_eq rfl ?_)
  rw [usbOf]
  cases there : (told entries "usb_pid").truth s.directory with
  | false => rfl
  | true =>
    refine Action.bind_eq (ask_told h _ c fuel) (Action.bind_eq (demand_told h there _) ?_)
    cases identifier (told entries "usb_pid") with
    | error fault => rfl
    | ok product =>
      refine Action.bind_eq rfl (Action.bind_eq (askOr_told h _ _ c fuel) ?_)
      cases identifier ((told entries "usb_vid").orElse s.directory (.int Backend.defaultVendor))
        with
      | error fault => rfl
      | ok vendor => cases endpoint (told entries "usb_endpoint") <;> rfl

/-- What a record describes for the interface for USB devices is a USB device. -/
theorem eq_usb_of_usbOf {d : Directory} {b : Backend} (h : usbOf d entries = .ok b) :
    ∃ vendor product wanted, b = .usb vendor product wanted := by
  unfold usbOf at h
  split at h
  · cases h
  · obtain ⟨product, -, h⟩ := exists_of_bind_eq_ok h
    obtain ⟨vendor, -, h⟩ := exists_of_bind_eq_ok h
    obtain ⟨wanted, -, h⟩ := exists_of_bind_eq_ok h
    cases h
    exact ⟨_, _, _, rfl⟩

/-- A record names the interface for USB devices, in large or small letters. -/
def AsksUsb (entries : List (Text × Value)) : Prop :=
  ∃ name, told entries "interface" = .text name ∧ name.lower = Text.ofString "usb"

/-- The backend for a USB device that a record describes is made, or the record is refused. -/
theorem makeBackend_usb (h : s.HasEntries r entries) (usb : AsksUsb entries) (c : Circumstances) :
    (Action.makeBackend (.object r)).attempt c s =
      match usbOf s.directory entries with
      | .ok b => (.ok s.things.length, s.extended [.backend b])
      | .error fault => (.error fault, s) := by
  obtain ⟨name, hname, hlower⟩ := usb
  obtain ⟨fuel, hfuel⟩ := s.depth_eq
  have named : askOr (.object r) "interface" (.text "network") (.within c (fuel + 2)) s =
      .ok (.text name) s := by
    have there : (Value.text name).truth s.directory = true := by
      cases name with
      | nil => cases hlower
      | cons => rfl
    rw [askOr_told h, hname, Value.orElse, if_pos there]
  have lowered : Action.call (.text name) "lower" {} (.within c (fuel + 2)) s =
      .ok (.text name.lower) s := rfl
  have starts : Action.makeBackend (.object r) (.within c s.depth) s =
      (do
        let b ← usbBackend (.object r)
        Action.add (.backend (← Action.distinctBackend b))) (.within c (fuel + 2)) s := by
    rw [hfuel]
    refine Action.bind_eq named (Action.bind_eq lowered ?_)
    rw [hlower]
    rfl
  rw [Action.attempt, Action.attemptIn, starts, Action.bind_apply, usbBackend_told h]
  cases hb : usbOf s.directory entries with
  | error fault => rfl
  | ok b =>
    obtain ⟨vendor, product, wanted, rfl⟩ := eq_usb_of_usbOf hb
    rfl

/-! ### The same backend for the same numbers -/

/-- Two values are the same, or they give the same number, which is no less than some bound. -/
def Agree (least : Nat) (v w : Value) : Prop :=
  v = w ∨ ∃ n, least ≤ n ∧ IsIdentifier n v ∧ IsIdentifier n w

theorem Agree.identifier_eq {least : Nat} {v w : Value} (h : Agree least v w) :
    identifier v = identifier w := by
  obtain rfl | ⟨n, -, hv, hw⟩ := h
  · rfl
  · rw [hv.identifier_eq, hw.identifier_eq]

theorem Agree.endpoint_eq {least : Nat} {v w : Value} (h : Agree least v w) :
    endpoint v = endpoint w := by
  obtain rfl | ⟨n, -, hv, hw⟩ := h
  · rfl
  · rw [endpoint_of_isIdentifier hv, endpoint_of_isIdentifier hw]

theorem Agree.truth_eq {v w : Value} (h : Agree 1 v w) (d : Directory) :
    v.truth d = w.truth d := by
  obtain rfl | ⟨n, hn, hv, hw⟩ := h
  · rfl
  · rw [hv.truth_eq hn, hw.truth_eq hn]

theorem Agree.orElse {v w : Value} (h : Agree 1 v w) (d : Directory) (alternative : Value) :
    Agree 1 (v.orElse d alternative) (w.orElse d alternative) := by
  rw [Value.orElse, Value.orElse, ← h.truth_eq d]
  split
  · exact h
  · exact .inl rfl

/-- Records whose numbers agree describe the same backend. -/
theorem usbOf_congr {others : List (Text × Value)} (d : Directory)
    (product : Agree 1 (told entries "usb_pid") (told others "usb_pid"))
    (vendor : Agree 1 (told entries "usb_vid") (told others "usb_vid"))
    (wanted : Agree 0 (told entries "usb_endpoint") (told others "usb_endpoint")) :
    usbOf d entries = usbOf d others := by
  rw [usbOf, usbOf, product.truth_eq d, product.identifier_eq, wanted.endpoint_eq,
    (vendor.orElse d _).identifier_eq]

/-- A record that gives numbers describes the backend with these numbers. -/
theorem usbOf_eq {product vendor : Nat} {d : Directory} {wanted : Value}
    (hproduct : IsIdentifier product (told entries "usb_pid"))
    (there : (told entries "usb_pid").truth d = true)
    (hvendor : IsIdentifier vendor
      ((told entries "usb_vid").orElse d (.int Backend.defaultVendor)))
    (hwanted : Wants (told entries "usb_endpoint") wanted) :
    usbOf d entries = .ok (.usb (.int vendor) (.int product) wanted) := by
  rw [usbOf, there, hproduct.identifier_eq, hvendor.identifier_eq, hwanted.endpoint_eq]
  rfl

end Settings

/-! ### The name of a device -/

namespace Backend

/-- The digits of a number in base sixteen are small letters and figures. -/
theorem map_toLower_toDigits (n : Nat) :
    (Nat.toDigits 16 n).map Char.toLower = Nat.toDigits 16 n := by
  induction n using Nat.strong_induction_on with
  | _ n ih =>
    have last {d : Nat} (h : d < 16) : d.digitChar.toLower = d.digitChar := by
      interval_cases d <;> rfl
    rcases Nat.lt_or_ge n 16 with small | large
    · rw [Nat.toDigits_of_lt_base small, List.map_singleton, last small]
    · rw [Nat.toDigits_of_base_le (by decide) large, List.map_append, ih (n / 16) (by omega),
        List.map_singleton, last (Nat.mod_lt n (by decide))]

/-- A number in base sixteen is an identifier again once it has a mark. -/
theorem isIdentifier_ofHex (width n : Nat) :
    Settings.IsIdentifier n (.text ("0x" ++ Text.ofHex width n)) := by
  let zeros := List.replicate (width - (Nat.toDigits 16 n).length) '0'
  have small : (zeros ++ Nat.toDigits 16 n).map Char.toLower = zeros ++ Nat.toDigits 16 n := by
    rw [List.map_append, map_toLower_toDigits, List.map_replicate]
    rfl
  exact .hexadecimal (.inl rfl) small

/-- There is no colon in a number. -/
theorem colon_notMem_ofHex (width n : Nat) : CodePoint.scalar ':' ∉ Text.ofHex width n := by
  have spelled : Numeral.Spells 16 n (Nat.toDigits 16 n) :=
    Numeral.spells_toDigits (by decide) (by decide) n
  have padded := spelled.pad (by decide) (width - (Nat.toDigits 16 n).length)
  intro hmem
  obtain ⟨c, hc, hcolon⟩ := List.mem_map.1 hmem
  cases hcolon
  exact absurd (padded.digits ':' hc) (by decide)

theorem usbName_eq {vendor product : Value} {v p : Nat} (hvendor : vendor.integer? = some (v : Int))
    (hproduct : product.integer? = some (p : Int)) :
    usbName vendor product = .ok ("usb:" ++ Text.ofHex 4 v ++ ":" ++ Text.ofHex 4 p) := by
  have form {w : Value} {n : Nat} (h : w.integer? = some (n : Int)) :
      hexForm w = .ok (Text.ofHex 4 n) := by
    rw [hexForm, h]
    dsimp only
    rw [if_neg (by omega), Int.natAbs_natCast]
  rw [usbName, form hvendor, form hproduct]
  rfl

end Backend

namespace Action

/-- The name of a USB device shows its numbers. -/
theorem attempt_describe_usb {s : Store} (hs : s.IsGenuine) {r : Ref}
    {vendor product wanted : Value} (hb : s.backend? r = some (.usb vendor product wanted))
    {v p : Nat} (hvendor : vendor.integer? = some (v : Int))
    (hproduct : product.integer? = some (p : Int)) (c : Circumstances) :
    ((describe (.object r)).attempt c s).1 =
      .ok (.text ("usb:" ++ Text.ofHex 4 v ++ ":" ++ Text.ofHex 4 p)) := by
  rw [attempt_eq]
  dsimp only
  rw [outcome_describe_usb hs hb, Backend.usbName_eq hvendor hproduct]
  rfl

end Action

namespace Settings

variable {s : Store} {r : Ref} {entries : List (Text × Value)}

/-- The numbers of a USB device mean the same however settings give them: as numbers, or as text in
base ten or sixteen. Two records that differ in this alone have the same backend made. What is made
has these numbers, and the name that shows them. A record that gives the two numbers from the name
of a backend, each after a mark, has a backend with the same two numbers made. -/
theorem usb_identifiers (h : s.HasEntries r entries) (usb : AsksUsb entries) (c : Circumstances) :
    (∀ {q : Ref} {others : List (Text × Value)}, s.HasEntries q others → AsksUsb others →
      Agree 1 (told entries "usb_pid") (told others "usb_pid") →
      Agree 1 (told entries "usb_vid") (told others "usb_vid") →
      Agree 0 (told entries "usb_endpoint") (told others "usb_endpoint") →
      (Action.makeBackend (.object q)).attempt c s = (Action.makeBackend (.object r)).attempt c s) ∧
    (∀ {product vendor : Nat} {wanted : Value}, 1 ≤ product →
      IsIdentifier product (told entries "usb_pid") →
      IsIdentifier vendor
        ((told entries "usb_vid").orElse s.directory (.int Backend.defaultVendor)) →
      Wants (told entries "usb_endpoint") wanted →
      let made := s.extended [.backend (.usb (.int vendor) (.int product) wanted)]
      (Action.makeBackend (.object r)).attempt c s = (.ok s.things.length, made) ∧
      (s.IsGenuine → ((Action.describe (.object s.things.length)).attempt c made).1 =
        .ok (.text ("usb:" ++ Text.ofHex 4 vendor ++ ":" ++ Text.ofHex 4 product)))) ∧
    (∀ {t : Store} {q : Ref} {vendor product wanted kept : Value} {v p : Nat}, t.IsGenuine →
      t.backend? q = some (.usb vendor product wanted) → vendor.integer? = some (v : Int) →
      product.integer? = some (p : Int) → Wants (told entries "usb_endpoint") kept →
      let vid := Text.ofHex 4 v
      let pid := Text.ofHex 4 p
      ((Action.describe (.object q)).attempt c t).1 =
          .ok (.text ("usb:" ++ vid ++ ":" ++ pid)) ∧
        CodePoint.scalar ':' ∉ vid ∧ CodePoint.scalar ':' ∉ pid ∧
        (told entries "usb_vid" = .text ("0x" ++ vid) →
          told entries "usb_pid" = .text ("0x" ++ pid) →
          (Action.makeBackend (.object r)).attempt c s =
            (.ok s.things.length, s.extended [.backend (.usb (.int v) (.int p) kept)]))) := by
  refine ⟨fun {q others} hothers also product vendor wanted => ?_,
    fun {product vendor wanted} positive hproduct hvendor hwanted => ⟨?_, fun genuine => ?_⟩,
    fun {t q vendor product wanted kept v p} genuine hb hvendor hproduct hkept =>
      ⟨?_, Backend.colon_notMem_ofHex 4 v, Backend.colon_notMem_ofHex 4 p, fun hvid hpid => ?_⟩⟩
  · rw [makeBackend_usb hothers also, makeBackend_usb h usb, usbOf_congr _ product vendor wanted]
  · rw [makeBackend_usb h usb, usbOf_eq hproduct (hproduct.truth_eq positive _) hvendor hwanted]
  · have there : (s.extended [.backend (.usb (.int vendor) (.int product) wanted)]).backend?
        s.things.length = some (.usb (.int vendor) (.int product) wanted) := by
      simp [Store.backend?, Store.thing?, Store.extended]
    have stays : (s.extended [.backend (.usb (.int vendor) (.int product) wanted)]).IsGenuine :=
      genuine
    exact Action.attempt_describe_usb stays there rfl rfl c
  · exact Action.attempt_describe_usb genuine hb hvendor hproduct c
  · have truth (t : Text) : (Value.text ("0x" ++ t)).truth s.directory = true := rfl
    have given : IsIdentifier v
        ((told entries "usb_vid").orElse s.directory (.int Backend.defaultVendor)) := by
      rw [hvid, Value.orElse, if_pos (truth _)]
      exact Backend.isIdentifier_ofHex 4 v
    have wanted : IsIdentifier p (told entries "usb_pid") := hpid ▸ Backend.isIdentifier_ofHex 4 p
    rw [makeBackend_usb h usb, usbOf_eq wanted (hpid ▸ truth _) given hkept]

/-- A record with numbers and one with texts, in base sixteen and in base ten, have the same device
described, and so has a record with the numbers from its name. -/
theorem usb_identifiers_zebra :
    let numbers : List (Text × Value) :=
      [("interface", "usb"), ("usb_pid", .int 0x1CE), ("usb_vid", .int 2655),
        ("usb_endpoint", .int 0)]
    let texts : List (Text × Value) :=
      [("interface", "USB"), ("usb_pid", "0X1cE"), ("usb_vid", "2655"), ("usb_endpoint", "0x0")]
    let named : List (Text × Value) :=
      [("interface", "usb"), ("usb_pid", "0x01ce"), ("usb_vid", "0x0a5f")]
    let record (entries : List (Text × Value)) : Thing :=
      .content (.record (entries.map fun entry => .text entry.1) (entries.map (·.2)))
    let s : Store := { things := [record numbers, record texts, record named] }
    let t := s.extended [.backend (.usb 2655 0x1CE 0)]
    (Action.makeBackend (.object 0)).attempt {} s = (.ok 3, t) ∧
      (Action.makeBackend (.object 1)).attempt {} s = (.ok 3, t) ∧
      ((Action.describe (.object 3)).attempt {} t).1 = .ok "usb:0a5f:01ce" ∧
      (Action.makeBackend (.object 2)).attempt {} s =
        (.ok 3, s.extended [.backend (.usb 2655 0x1CE .none)]) := by
  intro numbers texts named record s t
  have entriesOf {q : Ref} {entries : List (Text × Value)}
      (hplain : s.attribute? q "get" = none) (hrecord : s.thing? q = some (record entries))
      (hkept : ∀ entry ∈ entries, (∃ n, entry.2 = .int n) ∨ ∃ u, entry.2 = .text u) :
      s.HasEntries q entries := by
    refine ⟨hplain, hrecord, fun entry hentry around => ?_⟩
    obtain ⟨n, hn⟩ | ⟨u, hu⟩ := hkept entry hentry
    · rw [hn]
      rfl
    · rw [hu]
      rfl
  have genuine : s.IsGenuine := fun _ _ _ => rfl
  have first : s.HasEntries 0 numbers := entriesOf rfl rfl (by simp [numbers])
  have second : s.HasEntries 1 texts := entriesOf rfl rfl (by simp [texts])
  have third : s.HasEntries 2 named := entriesOf rfl rfl (by simp [named])
  have product : IsIdentifier 0x1CE (told numbers "usb_pid") := .number
  have vendor : IsIdentifier 2655 (told numbers "usb_vid") := .number
  have product' : IsIdentifier 0x1CE (told texts "usb_pid") :=
    @IsIdentifier.hexadecimal _ 'X' ['1', 'c', 'E'] 0 (.inr rfl) (by decide)
  have vendor' : IsIdentifier 2655 (told texts "usb_vid") := @IsIdentifier.decimal 2655 (by decide)
  have wanted' : IsIdentifier 0 (told texts "usb_endpoint") :=
    @IsIdentifier.hexadecimal _ 'x' ['0'] 0 (.inl rfl) (by decide)
  obtain ⟨same, gives, -⟩ := usb_identifiers first ⟨"usb", rfl, by decide⟩ {}
  obtain ⟨made, name⟩ := gives (by decide) product vendor (.number (.number (n := 0)))
  obtain ⟨-, -, -, again⟩ := (usb_identifiers third ⟨"usb", rfl, by decide⟩ {}).2.2 (t := t)
    (q := 3) genuine rfl (v := 2655) (p := 0x1CE) rfl rfl .first
  refine ⟨made, (same second ⟨"USB", rfl, by decide⟩ (.inr ⟨_, by decide, product, product'⟩)
    (.inr ⟨_, by decide, vendor, vendor'⟩) (.inr ⟨0, le_rfl, .number, wanted'⟩)).trans made,
    (name genuine).trans rfl, again rfl rfl⟩

end Settings

end Zpl
