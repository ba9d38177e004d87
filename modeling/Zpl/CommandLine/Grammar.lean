import Zpl.Text.Numeric
import Zpl.Value.Convert

/-!
# Command lines

A command line is a row of words: switches, which start with a dash and may be followed by an
argument, and operands, which are told apart by their place. A long switch may be shortened as
long as it stays unambiguous, short switches may be run together, and after two dashes every word
is an operand. Words that nothing takes are left over, for the caller to judge.

## Main definitions

* `Switch`, `Operand`, `Grammar` — what a command line may contain.
* `Grammar.classify` — whether a word is a switch.
* `Grammar.parse` — the values on a command line, and the words left over.
-/

namespace Zpl.CommandLine

/-! ### Grammars -/

/-- How an argument is read. -/
inductive Reading where
  | text
  | integer
  | decimal
  deriving DecidableEq, Repr

namespace Reading

/-- The kind of value in diagnostics. -/
def name : Reading → String
  | .text => "str"
  | .integer => "int"
  | .decimal => "float"

/-- The value of a word; a diagnostic says that it is none. -/
def read? (r : Reading) (word : Text) : Option Value :=
  match r with
  | .text => some (.text word)
  | .integer => ((Numeral.readInt word).toOption).map .int
  | .decimal => ((Numeral.readNumber word).toOption).map .float

end Reading

/-- A switch: its spellings, what it sets, and how it reads its argument if it takes one. -/
structure Switch where
  spellings : List String
  key : String
  argument? : Option Reading := none
  choices : List String := []
  deriving Repr

/-- An operand: what it sets, and what it may be. One that takes the rest of the line takes every
word from its own on. -/
structure Operand where
  key : String
  choices : List String := []
  takesRest : Bool := false
  deriving Repr

/-- What a command line may contain. -/
structure Grammar where
  switches : List Switch
  operands : List Operand
  deriving Repr

/-- Why a command line is not carried out. -/
inductive Stop where
  | refused (message : Text)
  /-- Help was asked for. -/
  | help
  deriving DecidableEq, Repr

/-- The key that asking for help sets. -/
def helpKey : String := "help"

/-! ### Diagnostics -/

namespace Stop

/-- A refusal that is about one switch or operand. -/
def about (subject : Text) (message : Text) : Stop :=
  .refused ("argument " ++ subject ++ ": " ++ message)

end Stop

/-- A switch in diagnostics: all its spellings. -/
def Switch.title (s : Switch) : Text := Text.join "/" (s.spellings.map Text.ofString)

/-- Choices in a diagnostic. -/
def quotedChoices (choices : List String) : Text :=
  Text.join ", " (choices.map fun c => (Text.ofString c).quoted)

/-- Checks a value against the choices, if there are any. -/
def checkChoice (subject : Text) (choices : List String) (v : Value) : Except Stop Unit :=
  if choices.isEmpty || choices.any fun c => v.same c then .ok ()
  else
    .error (.about subject ("invalid choice: " ++ ((v.quoted .plain).toOption).getD []
      ++ " (choose from " ++ quotedChoices choices ++ ")"))

/-- Two dashes. -/
def separator : Text := "--"

/-- The value of the argument of a switch. Two dashes are no argument, even where they stand for
one, and leave the switch with an empty list. -/
def Switch.read (s : Switch) (r : Reading) (word : Text) : Except Stop Value := do
  if word = separator then return .list []
  match r.read? word with
  | some v =>
    checkChoice s.title s.choices v
    return v
  | none =>
    throw (.about s.title ("invalid " ++ Text.ofString r.name ++ " value: " ++ word.quoted))

/-! ### Words -/

/-- A switch found in a word: which one, by which spelling, and what is attached to it. -/
structure Found where
  switch : Switch
  spelling : Text
  attached? : Option Text := none
  deriving Repr

/-- What a word is. -/
inductive Role where
  | operand
  /-- Two dashes, after which every word is an operand. -/
  | separator
  | switch (found : Found)
  /-- A switch that the grammar does not have. -/
  | unknown
  deriving Repr

namespace Grammar

def dash : CodePoint := .scalar '-'

/-- The spellings of a grammar's switches, in order. -/
def spellings (g : Grammar) : List (Text × Switch) :=
  g.switches.flatMap fun s => s.spellings.map fun spelling => (Text.ofString spelling, s)

def switchSpelled? (g : Grammar) (spelling : Text) : Option Switch := g.spellings.lookup spelling

/-- The parts of a word before and after its first equals sign. -/
def splitAtEquals : Text → Option (Text × Text)
  | [] => none
  | c :: cs =>
    if c = .scalar '=' then some ([], cs)
    else (splitAtEquals cs).map fun (before, after) => (c :: before, after)

/-- The switches that a shortened long spelling can stand for. -/
def longCandidates (g : Grammar) (word : Text) : List Found :=
  let (start, attached?) : Text × Option Text :=
    match splitAtEquals word with
    | some (before, after) => (before, some after)
    | none => (word, none)
  (g.spellings.filter fun (spelling, _) => start.isPrefixOf spelling).map fun (spelling, s) =>
    { switch := s, spelling := spelling, attached? := attached? }

/-- The switches that a word with one dash can start with. -/
def shortCandidates (g : Grammar) (word : Text) : List Found :=
  g.spellings.filterMap fun (spelling, s) =>
    if spelling = word.take 2 then
      some { switch := s, spelling := spelling, attached? := some (word.drop 2) }
    else if word.isPrefixOf spelling then some { switch := s, spelling := spelling }
    else none

/-- The switches that a word can stand for, apart from exact spellings. -/
def candidates (g : Grammar) (word : Text) : List Found :=
  if word[1]? = some dash then longCandidates g word else shortCandidates g word

/-- A word without the line break that may end it. -/
def withoutFinalBreak (word : Text) : Text :=
  if word.getLast? = some (.scalar '\n') then word.dropLast else word

def isDigit (c : CodePoint) : Bool := c.digit?.isSome

/-- Whether a word looks like a negative number: a dash, and digits with at most one point. -/
def looksNegative (word : Text) : Bool :=
  match withoutFinalBreak word with
  | first :: rest =>
    let fraction := rest.dropWhile isDigit
    first = dash &&
      match fraction with
      | [] => !rest.isEmpty
      | point :: digits => point = .scalar '.' && !digits.isEmpty && digits.all isDigit
  | [] => false

/-- A word that is no spelling of a switch but could be a shortened one. -/
def classifyInexact (g : Grammar) (word : Text) : Except Stop Role :=
  match candidates g word with
  | [found] => .ok (.switch found)
  | [] =>
    if looksNegative word || word.contains (.scalar ' ') then .ok .operand else .ok .unknown
  | several =>
    .error (.refused ("ambiguous option: " ++ word ++ " could match "
      ++ Text.join ", " (several.map (·.spelling))))

/-- What a word before the separator is. -/
def classify (g : Grammar) (word : Text) : Except Stop Role :=
  if word.head? ≠ some dash then .ok .operand
  else
    match g.switchSpelled? word with
    | some s => .ok (.switch { switch := s, spelling := word })
    | none =>
      if word.length = 1 then .ok .operand
      else
        match splitAtEquals word with
        | none => classifyInexact g word
        | some (before, after) =>
          match g.switchSpelled? before with
          | some s =>
            .ok (.switch { switch := s, spelling := before, attached? := some after })
          | none => classifyInexact g word

/-- The words of a line with their roles. -/
def classifyAll (g : Grammar) : List Text → Except Stop (List (Text × Role))
  | [] => .ok []
  | word :: rest =>
    if word = separator then .ok ((word, .separator) :: rest.map fun w => (w, .operand))
    else do
      let role ← classify g word
      let roles ← classifyAll g rest
      return (word, role) :: roles

/-! ### Parsing -/

/-- What has been found on a command line so far. -/
structure State where
  /-- Values by key, the latest first. -/
  values : List (String × Value) := []
  /-- The operands still to come. -/
  awaited : List Operand
  leftOver : List Text := []
  /-- Whether the word before was taken as an operand. -/
  justTaken : Bool := false
  deriving Repr

namespace State

def set (st : State) (key : String) (v : Value) : State :=
  { st with values := (key, v) :: st.values }

def leave (st : State) (words : List Text) : State :=
  { st with leftOver := st.leftOver ++ words, justTaken := false }

/-- Takes words as an operand. The separator is not one of them unless the operand takes the rest
of the line. -/
def take (st : State) (o : Operand) (others : List Operand) (words : List Text) :
    Except Stop State := do
  let st := { st with awaited := others, justTaken := true }
  if o.takesRest then
    match words with
    | word :: rest =>
      checkChoice (Text.ofString o.key) o.choices (.text word)
      return st.set o.key (.list ((word :: rest).map .text))
    | [] => return st
  else
    match words.erase separator with
    | [word] =>
      checkChoice (Text.ofString o.key) o.choices (.text word)
      return st.set o.key (.text word)
    | _ => return st.set o.key (.list [])

end State

/-- What a word with switches asks for: switches, each with its argument if it takes one, and at
most one switch that takes its argument from the next word. -/
structure Request where
  given : List (Switch × Option Text) := []
  open? : Option (Switch × Reading) := none

def Request.before (s : Switch) (r : Request) : Request :=
  { r with given := (s, none) :: r.given }

/-- A refusal of what is attached to a switch that takes no argument. -/
def refusal (s : Switch) (attached : Text) : Stop :=
  .about s.title ("ignored explicit argument " ++ attached.quoted)

/-- Takes characters apart that are attached to a short switch. One without an argument is followed
by more short switches, and one with an argument takes the rest for it. -/
def requestRun (g : Grammar) (s : Switch) : Text → Except Stop Request
  | [] =>
    match s.argument? with
    | some reading => .ok { open? := some (s, reading) }
    | none => .ok { given := [(s, none)] }
  | c :: cs =>
    match s.argument? with
    | some _ => .ok { given := [(s, some (c :: cs))] }
    | none =>
      match g.switchSpelled? [dash, c] with
      | some next => (requestRun g next cs).map (Request.before s)
      | none => .error (refusal s (c :: cs))

/-- Takes a word with switches apart. -/
def request (g : Grammar) (found : Found) : Except Stop Request :=
  let s := found.switch
  match found.attached? with
  | none => requestRun g s []
  | some [] =>
    match s.argument? with
    | some _ => .ok { given := [(s, some [])] }
    | none => .error (refusal s [])
  | some (c :: cs) =>
    if (s.argument?).isNone && found.spelling[1]? = some dash then .error (refusal s (c :: cs))
    else requestRun g s (c :: cs)

/-- Carries out a switch. -/
def perform (st : State) (s : Switch) (word? : Option Text) : Except Stop State := do
  match s.argument?, word? with
  | some reading, some word => return st.set s.key (← s.read reading word)
  | _, _ => if s.key = helpKey then throw .help else return st.set s.key (.bool true)

/-- Carries out switches in order. -/
def performAll (st : State) : List (Switch × Option Text) → Except Stop State
  | [] => .ok st
  | (s, word?) :: rest => do performAll (← perform st s word?) rest

/-- Takes a word as the next operand, or leaves it over. `before` are the separators before it. -/
def takeWord (st : State) (before : List Text) (word : Text) (rest : List Text) :
    Except Stop State :=
  match st.awaited with
  | [] => .ok (st.leave (before ++ [word]))
  | o :: others => st.take o others (before ++ word :: (if o.takesRest then rest else []))

/-- Whether the next operand takes the rest of the line. -/
def takesRest (st : State) : Bool :=
  match st.awaited with
  | o :: _ => o.takesRest
  | [] => false

/-- Carries out a word with switches. The word after it is its argument, if it is asked for and is
no switch; the result says whether that is so. -/
def takeSwitch (g : Grammar) (st : State) (found : Found) (next : Option (Text × Role)) :
    Except Stop (State × Bool) := do
  let r ← request g found
  match r.open?, next with
  | none, _ =>
    let st ← performAll { st with justTaken := false } r.given
    return (st, false)
  | some (s, reading), some (word, .operand) =>
    let st ← performAll { st with justTaken := false } r.given
    let v ← s.read reading word
    return (st.set s.key v, true)
  | some (s, _), _ => throw (.about s.title "expected one argument")

/-- Goes through the words of a line. `skip` says that the first of them was an argument. -/
def consume (g : Grammar) (st : State) (skip : Bool) : List (Text × Role) → Except Stop State
  | [] => .ok st
  | (word, role) :: rest =>
    if skip then consume g st false rest
    else
      match role with
      | .operand => do
        let next ← takeWord st [] word (rest.map (·.1))
        if takesRest st then return next else consume g next false rest
      | .separator =>
        if st.justTaken then consume g { st with justTaken := false } false rest
        else
          match rest with
          | [] => .ok (st.leave [word])
          | (first, _) :: others => do
            let next ← takeWord st [word] first (others.map (·.1))
            if takesRest st then return next else consume g next true rest
      | .unknown => consume g (st.leave [word]) false rest
      | .switch found => do
        let (next, tookArgument) ← takeSwitch g st found rest.head?
        consume g next tookArgument rest

/-- The values on a command line, the latest first, and the words that nothing takes. -/
def parse (g : Grammar) (words : List Text) :
    Except Stop (List (String × Value) × List Text) := do
  let items ← g.classifyAll words
  let st ← g.consume { awaited := g.operands } false items
  if st.awaited.isEmpty then return (st.values, st.leftOver)
  else
    throw (.refused ("the following arguments are required: "
      ++ Text.join ", " (st.awaited.map fun o => Text.ofString o.key)))

end Grammar

end Zpl.CommandLine
