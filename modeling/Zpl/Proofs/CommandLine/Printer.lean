import Zpl.Proofs.CommandLine.Settings

/-!
# The printer that a command line describes

Settings from a command line lead to a printer on a network, on a serial line or on USB, or to a
record of what would have been sent; or they are refused, because they leave something out or
because an identifier cannot be read. Which of these it is depends on the settings alone. Whatever
printer they lead to has a name that can be written.

## Main definitions

* `Settings.way?` — the way to the printer that settings describe.
* `Backend.Takes` — a backend takes a way to a printer.

## Main results

* `Settings.makePrinter_spec` — a printer is made that takes the way, or the settings are refused.
* `Action.describe_of_takes` — that printer has a name.
-/

namespace Zpl

open CommandLine

/-- A way to a printer with settings that can be written. -/
inductive Backend.HasName : Backend → Prop where
  | network (host : Text) {port : Int} (writable : Decimal.isWritable port = true) :
    HasName (.network (.text host) (.int port) (.float Backend.defaultTimeout))
  | serial (device : Text) {baudrate : Int} (writable : Decimal.isWritable baudrate = true) :
    HasName (.serial (.text device) (.int baudrate) (.float Backend.defaultSerialTimeout))
  | usb (vendor product : Int) : HasName (.usb (.int vendor) (.int product) .none)

namespace Backend.HasName

variable {b : Backend}

theorem distinctBackend_eq (h : b.HasName) (around : Surroundings) (s : Store) :
    Action.distinctBackend b around s = .ok b s := by
  cases h <;> rfl

theorem isSome_opening? (h : b.HasName) : b.opening?.isSome := by
  cases h <;> rfl

end Backend.HasName

@[simp] theorem Store.length_extended (s : Store) (new : List Thing) :
    (s.extended new).things.length = s.things.length + new.length := List.length_append

theorem Action.add_eq (x : Thing) (around : Surroundings) (s : Store) :
    add x around s = .ok s.things.length (s.extended [x]) := rfl

namespace Settings

variable {s : Store} {r : Ref} {settings : Value} {c : Circumstances} {fuel : Nat}

/-! ### Ways to a printer -/

/-- The network printer that settings describe. -/
def networkWay (settings : Value) : Except Fault Backend := do
  let host ← needed settings "host" "network printing needs a host"
  let port ← (answerOr settings "port" (.int Backend.defaultPort)).toInt
  return .network host (.int port) (.float Backend.defaultTimeout)

/-- The serial printer that settings describe. -/
def serialWay (settings : Value) : Except Fault Backend := do
  let device ← needed settings "device" "serial printing needs a device, e.g. /dev/ttyUSB0"
  let baudrate ← (answerOr settings "baudrate" (.int Backend.defaultBaudrate)).toInt
  return .serial device (.int baudrate) (.float Backend.defaultSerialTimeout)

/-- The USB printer that settings describe. -/
def usbWay (settings : Value) : Except Fault Backend := do
  let product ← needed settings "usb_pid" "USB printing needs the printer's product id"
  let product ← identifier product
  let vendor ← identifier (answerOr settings "usb_vid" (.int Backend.defaultVendor))
  return .usb (.int vendor) (.int product) .none

theorem networkBackend_eq (h : s.HasSettings r settings) (typed : IsTyped settings) :
    networkBackend (.object r) (.within c (fuel + 1)) s =
      (liftM (networkWay settings) : Action Backend) (.within c (fuel + 1)) s := by
  have timeout : answerOr settings "timeout" (.float Backend.defaultTimeout) =
      .float Backend.defaultTimeout := by
    rw [answerOr, typed.timeout]
    rfl
  rw [networkBackend, Action.bind_apply, require_eq h, networkWay]
  cases needed settings "host" "network printing needs a host" with
  | error fault => rfl
  | ok host =>
    refine Action.bind_eq (askOr_eq h _ _) ?_
    cases (answerOr settings "port" (.int Backend.defaultPort)).toInt with
    | error fault => rfl
    | ok port =>
      refine Action.bind_eq rfl (Action.bind_eq (askOr_eq h _ _) ?_)
      rw [timeout]
      rfl

theorem serialBackend_eq (h : s.HasSettings r settings) :
    serialBackend (.object r) (.within c (fuel + 1)) s =
      (liftM (serialWay settings) : Action Backend) (.within c (fuel + 1)) s := by
  rw [serialBackend, Action.bind_apply, require_eq h, serialWay]
  cases needed settings "device" "serial printing needs a device, e.g. /dev/ttyUSB0" with
  | error fault => rfl
  | ok device =>
    refine Action.bind_eq (askOr_eq h _ _) ?_
    cases (answerOr settings "baudrate" (.int Backend.defaultBaudrate)).toInt <;> rfl

theorem usbBackend_eq (h : s.HasSettings r settings) (typed : IsTyped settings) :
    usbBackend (.object r) (.within c (fuel + 1)) s =
      (liftM (usbWay settings) : Action Backend) (.within c (fuel + 1)) s := by
  obtain ⟨product, hproduct, hstands⟩ := ask_eq h c fuel "usb_pid"
  obtain ⟨wanted, hwanted, none⟩ := ask_eq h c fuel "usb_endpoint"
  obtain rfl : wanted = .none := by
    rw [typed.endpoint] at none
    cases none
    rfl
  refine Action.bind_eq hproduct (Action.bind_eq rfl ?_)
  rw [hstands.truth_eq, usbWay, needed]
  cases htruth : (answer settings "usb_pid").truth .empty with
  | false => rfl
  | true =>
    refine Action.bind_eq hwanted (Action.bind_eq (demand_eq h htruth _) ?_)
    simp only [if_true, bind, Except.bind]
    cases identifier (answer settings "usb_pid") with
    | error fault => rfl
    | ok product =>
      refine Action.bind_eq rfl (Action.bind_eq (askOr_eq h _ _) ?_)
      cases identifier (answerOr settings "usb_vid" (.int Backend.defaultVendor)) <;> rfl

/-- The interface that settings name. -/
def interfaceOf (settings : Value) : Value := answerOr settings "interface" "network"

/-- The way to the printer that settings describe. There is none to one that only records. -/
def way? (settings : Value) : Except Fault (Option Backend) :=
  if (interfaceOf settings).same "network" then some <$> networkWay settings
  else if (interfaceOf settings).same "serial" then some <$> serialWay settings
  else if (interfaceOf settings).same "usb" then some <$> usbWay settings
  else .ok none

/-- The interface is one that there is. -/
theorem IsTyped.interfaceOf (typed : IsTyped settings) :
    ∃ name ∈ interfaces, interfaceOf settings = .text (Text.ofString name) := by
  rw [Settings.interfaceOf, answerOr]
  rcases typed.choice with hnone | hlist | ⟨name, hname, htext⟩
  · exact ⟨"network", by decide, by rw [hnone]; rfl⟩
  · exact ⟨"network", by decide, by rw [hlist]; rfl⟩
  · refine ⟨name, hname, ?_⟩
    rw [htext]
    fin_cases hname <;> rfl

/-- The names of interfaces are in small letters. -/
theorem lower_eq {name : String} (hname : name ∈ interfaces) :
    Action.call (.text (Text.ofString name)) "lower" {} (.within c (fuel + 1)) s =
      .ok (.text (Text.ofString name)) s := by
  fin_cases hname <;> rfl

/-- What settings have to say is a text if it is anything at all, and they are refused if they do
not say it. -/
theorem needed_text {key : String} (h : MayGive .text (answer settings key)) (lack : Text) :
    (∃ t, needed settings key lack = .ok (.text t)) ∨
      needed settings key lack = .error (refused lack) := by
  unfold needed
  rcases h with hnone | hgives
  · rw [hnone]
    exact .inr rfl
  · generalize answer settings key = v at hgives
    cases hgives with
    | text t =>
      split
      · exact .inl ⟨t, rfl⟩
      · exact .inr rfl
    | separator => exact .inr rfl

/-- A number that settings say, or that stands where they say none, can be written. -/
theorem answerOr_integer {key : String} (h : MayGive .integer (answer settings key))
    (alternative : Int) (halternative : Decimal.isWritable alternative = true) :
    ∃ n, answerOr settings key (.int alternative) = .int n ∧ Decimal.isWritable n = true := by
  rw [answerOr, Value.orElse]
  split
  · rename_i htruth
    rcases h with hnone | hgives
    · rw [hnone] at htruth
      cases htruth
    · generalize answer settings key = v at hgives htruth
      cases hgives with
      | integer writable => exact ⟨_, rfl, writable⟩
      | separator => cases htruth
  · exact ⟨alternative, rfl, halternative⟩

/-- An identifier of the device that settings describe, if they describe a USB printer. -/
def AsksIdentifier (settings v : Value) : Prop :=
  (interfaceOf settings).same "usb" = true ∧
    (v = answer settings "usb_pid" ∨ v = answerOr settings "usb_vid" (.int Backend.defaultVendor))

/-- What settings can lead to: a printer with a name, a record, or a refusal. -/
inductive Leads (settings : Value) : Except Fault (Option Backend) → Prop where
  | link {b : Backend} (named : b.HasName) : Leads settings (.ok (some b))
  | record : Leads settings (.ok none)
  | lack (message : Text) : Leads settings (.error (refused message))
  /-- An identifier is the only thing that is read from a text as late as this. -/
  | unread {v : Value} {fault : Fault} (asked : AsksIdentifier settings v)
      (failed : identifier v = .error fault) : Leads settings (.error fault)

theorem leads_networkWay (typed : IsTyped settings) :
    Leads settings (some <$> networkWay settings) := by
  unfold networkWay
  obtain ⟨port, hport, writable⟩ := answerOr_integer typed.port Backend.defaultPort (by decide)
  obtain ⟨host, hhost⟩ | hlack := needed_text typed.host "network printing needs a host"
  · rw [hhost, hport]
    exact .link (.network host writable)
  · rw [hlack]
    exact .lack _

theorem leads_serialWay (typed : IsTyped settings) :
    Leads settings (some <$> serialWay settings) := by
  unfold serialWay
  obtain ⟨baudrate, hbaudrate, writable⟩ :=
    answerOr_integer typed.baudrate Backend.defaultBaudrate (by decide)
  obtain ⟨device, hdevice⟩ | hlack :=
    needed_text typed.device "serial printing needs a device, e.g. /dev/ttyUSB0"
  · rw [hdevice, hbaudrate]
    exact .link (.serial device writable)
  · rw [hlack]
    exact .lack _

theorem leads_usbWay (usb : (interfaceOf settings).same "usb" = true) :
    Leads settings (some <$> usbWay settings) := by
  unfold usbWay needed
  split
  · simp only [bind, Except.bind]
    cases hproduct : identifier (answer settings "usb_pid") with
    | error fault => exact .unread ⟨usb, .inl rfl⟩ hproduct
    | ok product =>
      dsimp only
      cases hvendor : identifier (answerOr settings "usb_vid" (.int Backend.defaultVendor)) with
      | error fault => exact .unread ⟨usb, .inr rfl⟩ hvendor
      | ok vendor => exact .link (.usb vendor product)
  · exact .lack _

/-- Settings lead to a printer with a name, or to a record, or they are refused. -/
theorem leads_way? (typed : IsTyped settings) : Leads settings (way? settings) := by
  unfold way?
  split
  · exact leads_networkWay typed
  split
  · exact leads_serialWay typed
  split
  · rename_i usb
    exact leads_usbWay usb
  · exact .record

theorem hasName_of_way? (typed : IsTyped settings) {b : Backend}
    (h : way? settings = .ok (some b)) : b.HasName := by
  have leads := leads_way? typed
  rw [h] at leads
  cases leads with
  | link named => exact named

/-- What is made of a way to a printer in a store. Where there is none, jobs are recorded in a new
list. -/
def backendIn (s : Store) : Except Fault (Option Backend) → EStateM.Result Fault Store Ref
  | .error fault => .error fault s
  | .ok (some b) => .ok s.things.length (s.extended [.backend b])
  | .ok none =>
    .ok (s.things.length + 1)
      (s.extended [.content (.list []), .backend (.dryRun (.object s.things.length))])

/-- The backend that settings describe is made, or they are refused. -/
theorem makeBackend_eq (h : s.HasSettings r settings) (typed : IsTyped settings)
    (c : Circumstances) (fuel : Nat) :
    Action.makeBackend (.object r) (.within c (fuel + 1)) s = backendIn s (way? settings) := by
  obtain ⟨name, hname, hinterface⟩ := typed.interfaceOf
  have starts {o : EStateM.Result Fault Store Ref}
      (ho : (do
        let b ← backend (.object r) (.text (Text.ofString name))
        Action.add (.backend (← Action.distinctBackend b))) (.within c (fuel + 1)) s = o) :
      Action.makeBackend (.object r) (.within c (fuel + 1)) s = o := by
    refine Action.bind_eq (askOr_eq h _ _) ?_
    have named : answerOr settings "interface" "network" = .text (Text.ofString name) := hinterface
    rw [named]
    exact Action.bind_eq (lower_eq hname) ho
  have reached {e : Except Fault Backend} (hway : way? settings = some <$> e)
      (he : backend (.object r) (.text (Text.ofString name)) (.within c (fuel + 1)) s =
        (liftM e : Action Backend) (.within c (fuel + 1)) s) :
      Action.makeBackend (.object r) (.within c (fuel + 1)) s = backendIn s (way? settings) := by
    cases e with
    | error fault =>
      rw [hway]
      refine starts ?_
      rw [Action.bind_apply, he]
      rfl
    | ok b =>
      have distinct := (hasName_of_way? typed hway).distinctBackend_eq (.within c (fuel + 1)) s
      rw [hway]
      exact starts (Action.bind_eq he (Action.bind_eq distinct rfl))
  simp only [interfaces, List.mem_cons, List.not_mem_nil, or_false] at hname
  rcases hname with rfl | rfl | rfl | rfl
  · refine reached (e := networkWay settings) ?_ (networkBackend_eq h typed)
    rw [way?, hinterface]
    rfl
  · refine reached (e := serialWay settings) ?_ (serialBackend_eq h)
    rw [way?, hinterface]
    rfl
  · refine reached (e := usbWay settings) ?_ (usbBackend_eq h typed)
    rw [way?, hinterface]
    rfl
  · have nowhere : way? settings = .ok none := by
      rw [way?, hinterface]
      rfl
    have recorded : backend (.object r) (.text "dry_run") (.within c (fuel + 1)) s =
        .ok (.dryRun (.object s.things.length)) (s.extended [.content (.list [])]) := rfl
    rw [nowhere]
    refine starts (Action.bind_eq recorded (Action.bind_eq rfl ?_))
    simp [Action.add_eq, backendIn]

end Settings

/-- A backend takes a way to a printer, or it only records where there is none. -/
inductive Backend.Takes : Backend → Option Backend → Prop where
  | way {b : Backend} (named : b.HasName) : Takes b (some b)
  | record (sent : Value) : Takes (.dryRun sent) none

/-- A printer is put behind a backend that is there. -/
theorem Store.hasPrinter_extended {s : Store} (hs : s.attached = []) {q : Ref} {b : Backend}
    (hb : s.thing? q = some (.backend b))
    (hrecord : ∀ sent, b = .dryRun sent →
      ∃ list, sent = .object list ∧ s.thing? list = some (.content (.list []))) :
    (s.extended [.printer (.object q)]).HasPrinter s.things.length q b where
  genuine := fun _ _ _ => by
    rw [extended, hs]
    rfl
  printer := by simp [thing?, extended]
  backend := by simp [backend?, thing?_extended hb]
  record := fun sent hsent => by
    obtain ⟨list, rfl, there⟩ := hrecord sent hsent
    exact ⟨list, [], rfl, by simp [items?, content?, thing?_extended there]⟩

namespace Settings

variable {s : Store} {r : Ref} {settings : Value} {c : Circumstances} {fuel : Nat}

/-- A printer is made behind the backend that settings describe, or they are refused. -/
theorem makePrinter_spec (h : s.HasSettings r settings) (typed : IsTyped settings)
    (c : Circumstances) (fuel : Nat) :
    match way? settings with
    | .error fault => Action.makePrinter (.object r) (.within c (fuel + 1)) s = .error fault s
    | .ok way => ∃ printer q b t,
      Action.makePrinter (.object r) (.within c (fuel + 1)) s = .ok printer t ∧
        t.HasPrinter printer q b ∧ b.Takes way ∧ t.events = s.events := by
  have made := makeBackend_eq h typed c fuel
  have behind {q : Ref} {new : List Thing}
      (hb : Action.makeBackend (.object r) (.within c (fuel + 1)) s = .ok q (s.extended new)) :
      Action.makePrinter (.object r) (.within c (fuel + 1)) s =
        .ok (s.extended new).things.length ((s.extended new).extended [.printer (.object q)]) :=
    Action.bind_eq hb (Action.add_eq ..)
  cases hway : way? settings with
  | error fault =>
    rw [hway] at made
    dsimp only
    rw [Action.makePrinter, Action.bind_apply, made]
    rfl
  | ok way =>
    rw [hway] at made
    cases way with
    | some b =>
      have named := hasName_of_way? typed hway
      have ready := Store.hasPrinter_extended (s := s.extended [.backend b]) h.unattached
        (q := s.things.length) (b := b) (by simp [Store.thing?, Store.extended])
        (by cases named <;> simp)
      exact ⟨_, _, b, _, behind made, ready, .way named, rfl⟩
    | none =>
      have ready := Store.hasPrinter_extended
        (s := s.extended [.content (.list []), .backend (.dryRun (.object s.things.length))])
        h.unattached (q := s.things.length + 1) (b := .dryRun (.object s.things.length))
        (by simp [Store.thing?, Store.extended])
        (by
          rintro sent ⟨⟩
          exact ⟨_, rfl, by simp [Store.thing?, Store.extended]⟩)
      exact ⟨_, _, _, _, behind made, ready, .record _, rfl⟩

end Settings

end Zpl

namespace Zpl

theorem Backend.HasName.describe_eq {b : Backend} (h : b.HasName) (scribe : Scribe Action)
    (around : Surroundings) (s : Store) : ∃ t, b.describe scribe around s = .ok t s := by
  have writes {n : Int} (hn : Decimal.isWritable n = true) :
      (Value.int n).shown scribe around s = .ok (Text.ofInt n) s := by
    rw [Value.shown_int, Decimal.write_of_isWritable hn]
    rfl
  cases h with
  | network host writable =>
    exact ⟨_, Action.bind_eq rfl (Action.bind_eq (writes writable) rfl)⟩
  | serial device writable =>
    exact ⟨_, Action.bind_eq rfl (Action.bind_eq (writes writable) rfl)⟩
  | usb vendor product => exact ⟨_, rfl⟩

/-- A printer that settings describe has a name. -/
theorem Action.describe_of_takes {s : Store} {r : Ref} {b : Backend} (hs : s.IsGenuine)
    (hb : s.backend? r = some b) {way : Option Backend} (h : b.Takes way)
    (around : Surroundings) :
    ∃ t, (describe (.object r)).outcome around s = .ok (.text t) := by
  have written : ∃ t u, (do b.describe (← scribe) : Action Text) around s = .ok t u := by
    cases h with
    | way named =>
      obtain ⟨t, ht⟩ := named.describe_eq _ around s
      exact ⟨t, s, bind_eq rfl ht⟩
    | record sent => exact ⟨_, s, rfl⟩
  obtain ⟨t, u, hdescribe⟩ := written
  have described : describeBackend r around s = .ok t u := by
    refine bind_eq rfl (bind_eq (a := b) (t := s) ?_ hdescribe)
    rw [hb]
    rfl
  refine ⟨t, ?_⟩
  simp only [describe, dispatchOn, outcome_dispatch hs (by decide : "describe" ∈ _),
    outcome_bind, outcome_get, after_get, hb, outcome_eq_ok described]
  rfl

end Zpl
