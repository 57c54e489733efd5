/-!
# SqlPlan — words of a command line

A command takes parameters, each with a value, switches without one, and at
most one operand. Words are read one after another:

* `Grammar` — what a command takes;
* `Given` — what the words read so far give it;
* `Given.step` — one more word;
* `Stop` — why no command is run after all.

The value of a parameter is the next word, unless that begins with a hyphen,
or is attached to the name: `--name=value`, `-nvalue` or `-n=value`. After the
word `--` everything is an operand. Nothing may be given twice.
-/

namespace SqlPlan

/-- An option that takes a value. -/
structure Parameter where
  name : String
  short : Char
  deriving DecidableEq, Inhabited

/-- What a command takes. -/
structure Grammar where
  parameters : List Parameter := []
  switches : List String := []
  /-- It takes an operand. -/
  operand : Bool := false
  deriving Inhabited

/-- Why no command is run. -/
inductive Stop where
  /-- Help is asked for. -/
  | help
  | unknownOption (word : String)
  /-- A parameter has no value. -/
  | missingValue (name : String)
  /-- A switch has a value. -/
  | unwantedValue (name : String)
  /-- An option is given twice. -/
  | repeated (name : String)
  /-- A word that the command does not take. -/
  | unexpected (word : String)
  | missingOperand (name : String)
  | missingCommand
  deriving DecidableEq, Inhabited

namespace Stop

/-- A command line that is asked for help succeeds, any other is rejected. -/
def exit : Stop → Nat
  | help => 0
  | _ => 2

def text : Stop → String
  | help => ""
  | unknownOption word => "unknown option " ++ word
  | missingValue name => "--" ++ name ++ " needs a value"
  | unwantedValue name => "--" ++ name ++ " takes no value"
  | repeated name => "--" ++ name ++ " is given twice"
  | unexpected word => "unexpected word " ++ word
  | missingOperand name => name ++ " is missing"
  | missingCommand => "a command is missing"

end Stop

/-- What words give to a command. -/
structure Given where
  values : List (String × String) := []
  switches : List String := []
  operand : Option String := none
  /-- The parameter whose value comes next. -/
  awaiting : Option String := none
  /-- All further words are operands. -/
  literal : Bool := false
  deriving Inhabited

namespace Given

/-- The value of a parameter. -/
def value? (g : Given) (name : String) : Option String := g.values.lookup name

/-- The switch is given. -/
def has (g : Given) (name : String) : Bool := g.switches.contains name

/-- Gives a parameter its value. -/
def setValue (g : Given) (name value : String) : Except Stop Given :=
  if (g.value? name).isSome then .error (.repeated name)
  else .ok { g with values := g.values ++ [(name, value)], awaiting := none }

/-- Gives a switch. -/
def setSwitch (g : Given) (name : String) : Except Stop Given :=
  if g.has name then .error (.repeated name)
  else .ok { g with switches := g.switches ++ [name] }

/-- Gives the operand. -/
def setOperand (grammar : Grammar) (g : Given) (word : String) : Except Stop Given :=
  if grammar.operand ∧ g.operand.isNone then .ok { g with operand := some word }
  else .error (.unexpected word)

/-- An option by its name, with the value attached to it. -/
def long (grammar : Grammar) (g : Given) (name : String) (attached : Option String) :
    Except Stop Given :=
  if grammar.parameters.any (·.name = name) then
    match attached with
    | some value => g.setValue name value
    | none => .ok { g with awaiting := some name }
  else if grammar.switches.contains name then
    match attached with
    | some _ => .error (.unwantedValue name)
    | none => g.setSwitch name
  else if name = "help" ∧ attached.isNone then .error .help
  else .error (.unknownOption ("--" ++ name))

/-- An option by its letter, with what is attached to it. -/
def short (grammar : Grammar) (g : Given) (letter : Char) (attached : List Char) :
    Except Stop Given :=
  match grammar.parameters.find? (·.short = letter) with
  | some p =>
    match attached with
    | [] => .ok { g with awaiting := some p.name }
    | '=' :: value => g.setValue p.name (String.ofList value)
    | value => g.setValue p.name (String.ofList value)
  | none =>
    if letter = 'h' then .error .help
    else .error (.unknownOption (String.ofList ['-', letter]))

/-- A name and, after an equals sign, a value. -/
def splitValue (cs : List Char) : String × Option String :=
  match cs.span (· ≠ '=') with
  | (name, _ :: value) => (String.ofList name, some (String.ofList value))
  | (name, []) => (String.ofList name, none)

/-- A word that begins with a hyphen and has more. -/
def isOption : List Char → Bool
  | '-' :: _ :: _ => true
  | _ => false

/-- One more word. -/
def step (grammar : Grammar) (g : Given) (word : String) : Except Stop Given :=
  let cs := word.toList
  if g.literal then g.setOperand grammar word
  else
    match g.awaiting with
    | some name => if isOption cs then .error (.missingValue name) else g.setValue name word
    | none =>
      match cs with
      | ['-', '-'] => .ok { g with literal := true }
      | '-' :: '-' :: rest =>
        let (name, attached) := splitValue rest
        g.long grammar name attached
      | '-' :: letter :: rest => g.short grammar letter rest
      | _ => g.setOperand grammar word

/-- After the last word no parameter waits for its value. -/
def finish (g : Given) : Except Stop Given :=
  match g.awaiting with
  | some name => .error (.missingValue name)
  | none => .ok g

end Given

/-- What words give to a command. -/
def Grammar.read (grammar : Grammar) (words : List String) : Except Stop Given := do
  let g ← words.foldlM (Given.step grammar) {}
  g.finish

end SqlPlan
