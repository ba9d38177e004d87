import Mathlib.Data.Option.Basic
import Zpl.CommandLine.Options

/-!
# Values on a command line

Whatever words a command line consists of, a value that is read from it is one that the grammar
allows under its key: a switch without an argument sets `true`, an argument is read the way that the
switch says and is among its choices, and an operand is a word. Two dashes in the place of a word
leave an empty list. Reading goes on from state to state, so this is an invariant of the state, next
to two others: the operands still to come are the last ones of the grammar, and the others have a
value.

The first two dashes on a line are no operand, and the word after them is one. So two dashes stand
in the place of an operand only if another operand comes before it.

## Main definitions

* `Switch.Allows`, `Operand.Allows`, `Grammar.Allows` — the values that may stand under a key.
* `Grammar.State.Fits` — the invariant of reading.

## Main results

* `Grammar.parse_allows` — all values on a command line are allowed.
* `Grammar.parse_isSet` — every operand has a value.
-/

namespace Zpl.CommandLine

/-- A value is among some choices, if there are any. -/
def IsChoice (choices : List String) (v : Value) : Prop :=
  (choices.isEmpty || choices.any fun c => v.same c) = true

theorem isChoice_of_checkChoice {subject : Text} {choices : List String} {v : Value}
    (h : checkChoice subject choices v = .ok ()) : IsChoice choices v := by
  unfold checkChoice at h
  split at h
  · assumption
  · cases h

/-- A value that a switch may set. -/
inductive Switch.Allows (s : Switch) : Value → Prop where
  | plain (alone : s.argument? = none) : Allows s (.bool true)
  | argument {r : Reading} {word : Text} {v : Value} (reading : s.argument? = some r)
      (read : r.read? word = some v) (choice : IsChoice s.choices v) : Allows s v
  | separator {r : Reading} (reading : s.argument? = some r) : Allows s (.list [])

/-- A value that an operand may have. -/
inductive Operand.Allows (o : Operand) : Value → Prop where
  | word {word : Text} (alone : o.takesRest = false) (choice : IsChoice o.choices (.text word)) :
      Allows o (.text word)
  | separator (alone : o.takesRest = false) : Allows o (.list [])
  | rest {word : Text} {words : List Text} (all : o.takesRest = true)
      (choice : IsChoice o.choices (.text word)) : Allows o (.list ((word :: words).map .text))

theorem Switch.read_allows {s : Switch} {r : Reading} (hr : s.argument? = some r) {word : Text}
    {v : Value} (h : s.read r word = .ok v) : s.Allows v := by
  unfold Switch.read at h
  split at h
  · cases h
    exact .separator hr
  · split at h
    · rename_i v' hread
      cases hchoice : checkChoice s.title s.choices v' with
      | error stop => simp [hchoice, bind, Except.bind] at h
      | ok _ =>
        obtain rfl : v' = v := by simpa [hchoice, bind, Except.bind, pure, Except.pure] using h
        exact .argument hr hread (isChoice_of_checkChoice hchoice)
    · cases h

namespace Grammar

variable {g : Grammar}

/-- A value that a grammar allows under a key. The first operand has a word. -/
def Allows (g : Grammar) (key : String) (v : Value) : Prop :=
  (∃ s ∈ g.switches, s.key = key ∧ s.Allows v) ∨
    ∃ o ∈ g.operands, o.key = key ∧ o.Allows v ∧ (v = .list [] → o ∈ g.operands.tail)

/-! ### Words -/

theorem mem_of_mem_spellings {spelling : Text} {s : Switch} (h : (spelling, s) ∈ g.spellings) :
    s ∈ g.switches := by
  simp only [spellings, List.mem_flatMap, List.mem_map, Prod.mk.injEq] at h
  obtain ⟨_, hs, _, _, _, rfl⟩ := h
  exact hs

theorem mem_of_switchSpelled? {spelling : Text} {s : Switch}
    (h : g.switchSpelled? spelling = some s) : s ∈ g.switches := by
  obtain ⟨before, after, hspellings, -⟩ := List.lookup_eq_some_iff.1 h
  have mem : (spelling, s) ∈ g.spellings := by simp [hspellings]
  exact mem_of_mem_spellings mem

/-- The switches that a word can stand for are those of the grammar. -/
theorem mem_of_mem_candidates {word : Text} {found : Found} (h : found ∈ g.candidates word) :
    found.switch ∈ g.switches := by
  unfold candidates at h
  split at h
  · simp only [longCandidates, List.mem_map, List.mem_filter] at h
    obtain ⟨⟨_, s⟩, ⟨hs, -⟩, rfl⟩ := h
    exact mem_of_mem_spellings hs
  · simp only [shortCandidates, List.mem_filterMap] at h
    obtain ⟨⟨_, s⟩, hs, hfound⟩ := h
    have switch : found.switch = s := by
      split at hfound
      · cases hfound; rfl
      · split at hfound
        · cases hfound; rfl
        · cases hfound
    exact switch ▸ mem_of_mem_spellings hs

theorem mem_of_classifyInexact {word : Text} {found : Found}
    (h : g.classifyInexact word = .ok (.switch found)) : found.switch ∈ g.switches := by
  unfold classifyInexact at h
  split at h
  · rename_i hcandidates
    cases h
    exact mem_of_mem_candidates (by rw [hcandidates]; exact List.mem_singleton_self _)
  · split at h <;> cases h
  · cases h

theorem mem_of_classify {word : Text} {found : Found} (h : g.classify word = .ok (.switch found)) :
    found.switch ∈ g.switches := by
  unfold classify at h
  split at h
  · cases h
  · split at h
    · rename_i hs
      cases h
      exact mem_of_switchSpelled? hs
    · split at h
      · cases h
      · split at h
        · exact mem_of_classifyInexact h
        · split at h
          · rename_i hs
            cases h
            exact mem_of_switchSpelled? hs
          · exact mem_of_classifyInexact h

/-- The switches found on a line are those of the grammar. -/
theorem mem_of_classifyAll {words : List Text} {items : List (Text × Role)}
    (h : g.classifyAll words = .ok items) {word : Text} {found : Found}
    (hfound : (word, Role.switch found) ∈ items) : found.switch ∈ g.switches := by
  induction words generalizing items with
  | nil =>
    cases h
    simp at hfound
  | cons first rest ih =>
    unfold classifyAll at h
    split at h
    · cases h
      simp at hfound
    · cases hrole : g.classify first with
      | error stop => simp [hrole, bind, Except.bind] at h
      | ok role =>
        cases hroles : g.classifyAll rest with
        | error stop => simp [hrole, hroles, bind, Except.bind] at h
        | ok roles =>
          obtain rfl : (first, role) :: roles = items := by
            simpa [hrole, hroles, bind, Except.bind, pure, Except.pure] using h
          rcases List.mem_cons.1 hfound with heq | htail
          · cases heq
            exact mem_of_classify hrole
          · exact ih hroles htail

/-- Only two dashes are taken for two dashes. -/
theorem ne_separator_of_classify {word : Text} {role : Role} (h : g.classify word = .ok role) :
    role ≠ .separator := by
  have inexact (word : Text) (h : g.classifyInexact word = .ok role) : role ≠ .separator := by
    unfold classifyInexact at h
    split at h
    · cases h
      nofun
    · split at h <;> cases h <;> nofun
    · cases h
  unfold classify at h
  split at h
  · cases h
    nofun
  · split at h
    · cases h
      nofun
    · split at h
      · cases h
        nofun
      · split at h
        · exact inexact word h
        · split at h
          · cases h
            nofun
          · exact inexact word h

/-- Two dashes are no operand before the first two dashes. -/
def IsGuarded : List (Text × Role) → Prop
  | [] => True
  | (word, .separator) :: _ => word = separator
  | (word, .operand) :: rest => word ≠ separator ∧ IsGuarded rest
  | (_, .switch _) :: rest | (_, .unknown) :: rest => IsGuarded rest

theorem isGuarded_of_classifyAll {words : List Text} {items : List (Text × Role)}
    (h : g.classifyAll words = .ok items) : IsGuarded items := by
  induction words generalizing items with
  | nil =>
    cases h
    exact trivial
  | cons first rest ih =>
    unfold classifyAll at h
    split at h
    · rename_i hfirst
      cases h
      exact hfirst
    · rename_i hfirst
      cases hrole : g.classify first with
      | error stop => simp [hrole, bind, Except.bind] at h
      | ok role =>
        cases hroles : g.classifyAll rest with
        | error stop => simp [hrole, hroles, bind, Except.bind] at h
        | ok roles =>
          obtain rfl : (first, role) :: roles = items := by
            simpa [hrole, hroles, bind, Except.bind, pure, Except.pure] using h
          have guarded : IsGuarded roles := ih hroles
          cases role with
          | operand => exact ⟨hfirst, guarded⟩
          | separator => exact (ne_separator_of_classify hrole rfl).elim
          | switch found => exact guarded
          | unknown => exact guarded

/-! ### Switches in a word -/

/-- A word with switches asks for switches of the grammar, and those that take no argument are given
none. -/
structure Request.Fits (g : Grammar) (r : Request) : Prop where
  given : ∀ p ∈ r.given, p.1 ∈ g.switches ∧ (p.2 = none → p.1.argument? = none)
  left : ∀ s reading, r.open? = some (s, reading) → s ∈ g.switches ∧ s.argument? = some reading

theorem requestRun_fits {s : Switch} (hs : s ∈ g.switches) {attached : Text} {r : Request}
    (h : g.requestRun s attached = .ok r) : r.Fits g := by
  induction attached generalizing s r with
  | nil =>
    unfold requestRun at h
    split at h
    · rename_i hreading
      cases h
      exact ⟨by simp, fun _ _ heq => by cases heq; exact ⟨hs, hreading⟩⟩
    · rename_i hnone
      cases h
      exact ⟨by simp [hs, hnone], nofun⟩
  | cons c cs ih =>
    unfold requestRun at h
    split at h
    · cases h
      exact ⟨by simp [hs], nofun⟩
    · rename_i hnone
      split at h
      · rename_i next hnext
        cases hrun : g.requestRun next cs with
        | error stop => simp [hrun, Except.map] at h
        | ok more =>
          obtain rfl : Request.before s more = r := by simpa [hrun, Except.map] using h
          obtain ⟨given, left⟩ := ih (mem_of_switchSpelled? hnext) hrun
          exact ⟨List.forall_mem_cons.2 ⟨⟨hs, fun _ => hnone⟩, given⟩, left⟩
      · cases h

theorem request_fits {found : Found} (hs : found.switch ∈ g.switches) {r : Request}
    (h : g.request found = .ok r) : r.Fits g := by
  unfold request at h
  dsimp only at h
  split at h
  · exact requestRun_fits hs h
  · split at h
    · cases h
      exact ⟨by simp [hs], nofun⟩
    · cases h
  · split at h
    · cases h
    · exact requestRun_fits hs h

/-! ### States -/

/-- What has been found so far is allowed, and what is still to come belongs to the grammar. -/
structure State.Fits (g : Grammar) (st : State) : Prop where
  values : ∀ p ∈ st.values, g.Allows p.1 p.2
  awaited : st.awaited <:+ g.operands
  present : ∀ o ∈ g.operands, o ∈ st.awaited ∨ Values.isSet st.values o.key = true

/-- There are operands, and none of them was taken so far. -/
def State.IsFresh (g : Grammar) (st : State) : Prop := st.awaited = g.operands ∧ g.operands ≠ []

namespace State.Fits

variable {st : State}

theorem isSet_cons (vs : Values) (key other : String) (v : Value) :
    Values.isSet ((key, v) :: vs) other = (other == key || Values.isSet vs other) := by
  rw [Values.isSet, List.lookup_cons]
  cases other == key <;> rfl

/-- Which word was taken last does not matter. -/
theorem forget (h : st.Fits g) : State.Fits g { st with justTaken := false } :=
  ⟨h.values, h.awaited, h.present⟩

theorem leave (h : st.Fits g) (words : List Text) : (st.leave words).Fits g :=
  ⟨h.values, h.awaited, h.present⟩

theorem set (h : st.Fits g) {key : String} {v : Value} (hv : g.Allows key v) :
    (st.set key v).Fits g where
  values := List.forall_mem_cons.2 ⟨hv, h.values⟩
  awaited := h.awaited
  present o ho := (h.present o ho).imp_right fun hset => by
    rw [State.set, isSet_cons, hset, Bool.or_true]

/-- An operand that gets a value is not awaited any more. -/
theorem set_operand (h : st.Fits g) {o : Operand} {others : List Operand}
    (hawaited : st.awaited = o :: others) {v : Value} (hv : o.Allows v)
    (hfresh : v = .list [] → ¬ st.IsFresh g) (taken : Bool) :
    (State.set { st with awaited := others, justTaken := taken } o.key v).Fits g := by
  have suffix := hawaited ▸ h.awaited
  have ho : o ∈ g.operands := suffix.subset (List.mem_cons_self ..)
  have later (hlist : v = .list []) : o ∈ g.operands.tail := by
    obtain ⟨before, hbefore⟩ := suffix
    cases before with
    | nil => exact (hfresh hlist ⟨hawaited.trans hbefore, List.ne_nil_of_mem ho⟩).elim
    | cons first before => simp [← hbefore]
  refine ⟨List.forall_mem_cons.2 ⟨.inr ⟨o, ho, rfl, hv, later⟩, h.values⟩,
    (List.suffix_cons o others).trans suffix, fun p hp => ?_⟩
  rw [State.set, isSet_cons]
  rcases h.present p hp with hp | hset
  · rcases List.mem_cons.1 (hawaited ▸ hp) with rfl | hothers
    · exact .inr (by simp)
    · exact .inl hothers
  · exact .inr (by rw [hset, Bool.or_true])

/-- Operands that are fewer than all of them are not all of them. -/
theorem not_isFresh (h : st.Fits g) {o : Operand} {others : List Operand}
    (hawaited : st.awaited = o :: others) {st' : State} (hst' : st'.awaited = others) :
    ¬ st'.IsFresh g := by
  rintro ⟨hall, -⟩
  have := (hawaited ▸ h.awaited).length_le
  rw [← hall, hst'] at this
  exact Nat.not_succ_le_self _ this

end State.Fits

variable {st st' : State}

theorem perform_fits (h : st.Fits g) {s : Switch} (hs : s ∈ g.switches) {word? : Option Text}
    (hword : word? = none → s.argument? = none) (heq : perform st s word? = .ok st') :
    st'.Fits g ∧ st'.awaited = st.awaited ∧ st'.justTaken = st.justTaken := by
  unfold perform at heq
  split at heq
  · rename_i reading word hreading
    cases hread : s.read reading word with
    | error stop => simp [hread, bind, Except.bind] at heq
    | ok v =>
      obtain rfl : st.set s.key v = st' := by
        simpa [hread, bind, Except.bind, pure, Except.pure] using heq
      exact ⟨h.set (.inl ⟨s, hs, rfl, Switch.read_allows hreading hread⟩), rfl, rfl⟩
  · rename_i hneither
    have plain : s.argument? = none := by
      by_contra hsome
      obtain ⟨reading, hreading⟩ := Option.ne_none_iff_exists'.1 hsome
      obtain ⟨word, hgiven⟩ := Option.ne_none_iff_exists'.1 (mt hword hsome)
      exact hneither reading word hreading hgiven
    split at heq
    · cases heq
    · cases heq
      exact ⟨h.set (.inl ⟨s, hs, rfl, .plain plain⟩), rfl, rfl⟩

theorem performAll_fits {given : List (Switch × Option Text)}
    (hgiven : ∀ p ∈ given, p.1 ∈ g.switches ∧ (p.2 = none → p.1.argument? = none))
    (h : st.Fits g) (heq : performAll st given = .ok st') :
    st'.Fits g ∧ st'.awaited = st.awaited ∧ st'.justTaken = st.justTaken := by
  induction given generalizing st with
  | nil =>
    cases heq
    exact ⟨h, rfl, rfl⟩
  | cons p given ih =>
    obtain ⟨s, word?⟩ := p
    obtain ⟨⟨hs, hword⟩, hgiven⟩ := List.forall_mem_cons.1 hgiven
    unfold performAll at heq
    cases hnext : perform st s word? with
    | error stop => simp [hnext, bind, Except.bind] at heq
    | ok next =>
      rw [hnext] at heq
      obtain ⟨fits, hawaited, htaken⟩ := perform_fits h hs hword hnext
      obtain ⟨fits, hawaited', htaken'⟩ := ih hgiven fits heq
      exact ⟨fits, hawaited'.trans hawaited, htaken'.trans htaken⟩

/-- Words that are taken as an operand. The first operand gets a word. -/
theorem take_fits (h : st.Fits g) {o : Operand} {others : List Operand}
    (hawaited : st.awaited = o :: others) {words : List Text} (hwords : words ≠ [])
    (hfresh : o.takesRest = false → st.IsFresh g → ∃ word, words.erase separator = [word])
    (heq : st.take o others words = .ok st') : st'.Fits g ∧ st'.awaited = others := by
  unfold State.take at heq
  dsimp only at heq
  split at heq
  · rename_i hrest
    split at heq
    · rename_i word rest
      cases hchoice : checkChoice (Text.ofString o.key) o.choices (.text word) with
      | error stop => simp [hchoice, bind, Except.bind] at heq
      | ok _ =>
        simp only [hchoice, bind, Except.bind, pure, Except.pure, Except.ok.injEq] at heq
        subst heq
        have allows : o.Allows (.list ((word :: rest).map .text)) :=
          .rest hrest (isChoice_of_checkChoice hchoice)
        exact ⟨h.set_operand hawaited allows (by simp) true, rfl⟩
    · exact absurd rfl hwords
  · rename_i hrest
    have alone : o.takesRest = false := by simpa using hrest
    split at heq
    · rename_i word _
      cases hchoice : checkChoice (Text.ofString o.key) o.choices (.text word) with
      | error stop => simp [hchoice, bind, Except.bind] at heq
      | ok _ =>
        simp only [hchoice, bind, Except.bind, pure, Except.pure, Except.ok.injEq] at heq
        subst heq
        have allows := Operand.Allows.word alone (isChoice_of_checkChoice hchoice)
        exact ⟨h.set_operand hawaited allows nofun true, rfl⟩
    · rename_i several
      cases heq
      refine ⟨h.set_operand hawaited (.separator alone) (fun _ fresh => ?_) true, rfl⟩
      obtain ⟨word, hword⟩ := hfresh alone fresh
      exact several word hword

/-- After a word was taken, some operand was, if there are any. -/
theorem takeWord_fits (h : st.Fits g) {before : List Text} {word : Text} {rest : List Text}
    (hfresh : st.IsFresh g → before = [separator] ∨ before = [] ∧ word ≠ separator)
    (heq : takeWord st before word rest = .ok st') : st'.Fits g ∧ ¬ st'.IsFresh g := by
  unfold takeWord at heq
  split at heq
  · rename_i hawaited
    cases heq
    refine ⟨h.leave _, fun ⟨hall, hne⟩ => hne ?_⟩
    rw [← hall]
    exact hawaited
  · rename_i o others hawaited
    have single (alone : o.takesRest = false) (fresh : st.IsFresh g) :
        ∃ kept, (before ++ word :: if o.takesRest then rest else []).erase separator = [kept] := by
      refine ⟨word, ?_⟩
      rcases hfresh fresh with rfl | ⟨rfl, hne⟩
      · simp [alone]
      · simp [alone, hne]
    obtain ⟨fits, hothers⟩ := take_fits h hawaited (by simp) single heq
    exact ⟨fits, h.not_isFresh hawaited hothers⟩

/-- After switches were carried out, the same operands are awaited, and the next word was taken only
if it is no switch. -/
theorem takeSwitch_fits (h : st.Fits g) {found : Found} (hs : found.switch ∈ g.switches)
    {next : Option (Text × Role)} {took : Bool}
    (heq : g.takeSwitch st found next = .ok (st', took)) :
    st'.Fits g ∧ (st'.IsFresh g → st.IsFresh g) ∧ st'.justTaken = false ∧
      (took = true → ∃ word, next = some (word, .operand)) := by
  unfold takeSwitch at heq
  cases hrequest : g.request found with
  | error stop => simp [hrequest, bind, Except.bind] at heq
  | ok r =>
    obtain ⟨given, left⟩ := request_fits hs hrequest
    simp only [hrequest, bind, Except.bind] at heq
    split at heq
    · cases hall : performAll { st with justTaken := false } r.given with
      | error stop => simp [hall] at heq
      | ok after =>
        obtain ⟨rfl, rfl⟩ : after = st' ∧ false = took := by
          simpa [hall, pure, Except.pure] using heq
        obtain ⟨fits, hawaited, htaken⟩ := performAll_fits given h.forget hall
        exact ⟨fits, fun ⟨hfresh, hne⟩ => ⟨hawaited ▸ hfresh, hne⟩, htaken, nofun⟩
    · rename_i s reading word hopen
      cases hall : performAll { st with justTaken := false } r.given with
      | error stop => simp [hall] at heq
      | ok after =>
        cases hread : s.read reading word with
        | error stop => simp [hall, hread] at heq
        | ok v =>
          obtain ⟨rfl, rfl⟩ : after.set s.key v = st' ∧ true = took := by
            simpa [hall, hread, pure, Except.pure] using heq
          obtain ⟨hs, hreading⟩ := left s reading hopen
          obtain ⟨fits, hawaited, htaken⟩ := performAll_fits given h.forget hall
          exact ⟨fits.set (.inl ⟨s, hs, rfl, Switch.read_allows hreading hread⟩),
            fun ⟨hfresh, hne⟩ => ⟨hawaited ▸ hfresh, hne⟩, htaken, fun _ => ⟨word, rfl⟩⟩
    · cases heq

/-- Going through the words of a line keeps to what the grammar allows. As long as no operand was
taken, no two dashes came up either. -/
theorem consume_fits (h : st.Fits g) {skip : Bool} {items : List (Text × Role)}
    (hitems : ∀ word found, (word, Role.switch found) ∈ items → found.switch ∈ g.switches)
    (hfresh : st.IsFresh g →
      st.justTaken = false ∧ IsGuarded (if skip then items.tail else items))
    (heq : g.consume st skip items = .ok st') : st'.Fits g := by
  induction items generalizing st skip with
  | nil =>
    unfold consume at heq
    cases heq
    exact h
  | cons item rest ih =>
    obtain ⟨word, role⟩ := item
    have hrest : ∀ word found, (word, Role.switch found) ∈ rest → found.switch ∈ g.switches :=
      fun word found hmem => hitems word found (List.mem_cons_of_mem _ hmem)
    -- What follows a word that was taken as an operand.
    have goesOn {before : List Text} {word : Text} {words : List Text} {skip : Bool}
        (hfresh : st.IsFresh g → before = [separator] ∨ before = [] ∧ word ≠ separator)
        (heq : (takeWord st before word words >>= fun next =>
          if takesRest st then pure next else g.consume next skip rest) = .ok st') :
        st'.Fits g := by
      cases htake : takeWord st before word words with
      | error stop => simp [htake, bind, Except.bind] at heq
      | ok next =>
        obtain ⟨hnext, notFresh⟩ := takeWord_fits h hfresh htake
        simp only [htake, bind, Except.bind, pure, Except.pure] at heq
        split at heq
        · cases heq
          exact hnext
        · exact ih hnext hrest (fun fresh => (notFresh fresh).elim) heq
    unfold consume at heq
    cases skip with
    | true => exact ih h hrest hfresh heq
    | false =>
      rw [if_neg Bool.false_ne_true] at heq
      cases role with
      | operand => exact goesOn (fun fresh => .inr ⟨rfl, (hfresh fresh).2.1⟩) heq
      | separator =>
        dsimp only at heq
        split at heq
        · rename_i htaken
          have notFresh (fresh : st.IsFresh g) : False := by simp [(hfresh fresh).1] at htaken
          exact ih h.forget hrest (fun fresh => (notFresh fresh).elim) heq
        · split at heq
          · cases heq
            exact h.leave _
          · exact goesOn (fun fresh => .inl (congrArg ([·]) (hfresh fresh).2)) heq
      | unknown =>
        refine ih (h.leave [word]) hrest (fun fresh => ⟨rfl, ?_⟩) heq
        exact (hfresh fresh).2
      | switch found =>
        cases htake : g.takeSwitch st found rest.head? with
        | error stop => simp [htake, bind, Except.bind] at heq
        | ok result =>
          obtain ⟨next, took⟩ := result
          simp only [htake, bind, Except.bind] at heq
          have hs := hitems word found (List.mem_cons_self ..)
          obtain ⟨fits, fresh, htaken, hnext⟩ := takeSwitch_fits h hs htake
          refine ih fits hrest (fun hfreshNext => ⟨htaken, ?_⟩) heq
          have guarded : IsGuarded rest := (hfresh (fresh hfreshNext)).2
          cases took with
          | false => exact guarded
          | true =>
            obtain ⟨taken, hhead⟩ := hnext rfl
            cases rest with
            | nil => cases hhead
            | cons item others =>
              cases hhead
              exact guarded.2

/-! ### Lines -/

variable {words : List Text} {vs : Values} {leftOver : List Text}

theorem parse_fits (h : g.parse words = .ok (vs, leftOver)) :
    ∃ st : State, st.Fits g ∧ st.awaited = [] ∧ st.values = vs := by
  unfold parse at h
  cases hitems : g.classifyAll words with
  | error stop => simp [hitems, bind, Except.bind] at h
  | ok items =>
    cases hconsume : g.consume { awaited := g.operands } false items with
    | error stop => simp [hitems, hconsume, bind, Except.bind] at h
    | ok st =>
      have start : State.Fits g { awaited := g.operands } :=
        ⟨by simp, List.suffix_refl _, fun _ ho => .inl ho⟩
      have fits := consume_fits start (fun word found => mem_of_classifyAll hitems)
        (fun _ => ⟨rfl, isGuarded_of_classifyAll hitems⟩) hconsume
      simp only [hitems, hconsume, bind, Except.bind, pure, Except.pure] at h
      split at h
      · rename_i hawaited
        cases h
        exact ⟨st, fits, List.isEmpty_iff.1 hawaited, rfl⟩
      · cases h

/-- All values on a command line are allowed. -/
theorem parse_allows (h : g.parse words = .ok (vs, leftOver)) {key : String} {v : Value}
    (hv : vs.lookup key = some v) : g.Allows key v := by
  obtain ⟨st, fits, -, rfl⟩ := parse_fits h
  obtain ⟨before, after, hvalues, -⟩ := List.lookup_eq_some_iff.1 hv
  exact fits.values (key, v) (by simp [hvalues])

/-- Every operand has a value on a command line that is complete. -/
theorem parse_isSet (h : g.parse words = .ok (vs, leftOver)) {o : Operand} (ho : o ∈ g.operands) :
    ∃ v, vs.lookup o.key = some v := by
  obtain ⟨st, fits, hawaited, rfl⟩ := parse_fits h
  rcases fits.present o ho with ho | hset
  · rw [hawaited] at ho
    simp at ho
  · exact Option.isSome_iff_exists.1 hset

end Grammar

end Zpl.CommandLine
