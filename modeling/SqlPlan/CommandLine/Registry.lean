import SqlPlan.CommandLine.Words

/-!
# SqlPlan — commands by name

A registry holds commands by their names. Before the name of a command, and
among its own words, a command line may name a settings file:

* `Command` — what a command is called, what it takes, and the task it makes
  of that;
* `Registry.register`, `Registry.get?` — writing and reading a registry;
* `Registry.read` — the task of a whole command line.
-/

namespace SqlPlan

/-- A command that makes tasks of type `α`. -/
structure Command (α : Type) where
  name : String
  help : String
  grammar : Grammar := {}
  /-- The task that the words of the command describe. -/
  task : Given → Except Stop α

/-- Commands in the order of their names, each name once. -/
structure Registry (α : Type) where
  commands : List (Command α) := []

instance {α : Type} : Inhabited (Registry α) := ⟨{}⟩

/-- A task and the settings file to do it under. -/
structure Invocation (α : Type) where
  config : Option String
  task : α

/-- The parameter that every command takes. -/
def configParameter : Parameter := ⟨"config", 'c'⟩

/-- What stands before the name of a command. -/
def rootGrammar : Grammar := { parameters := [configParameter] }

namespace Command

variable {α : Type}

/-- What a command takes, the settings file included. -/
def fullGrammar (c : Command α) : Grammar :=
  { c.grammar with parameters := configParameter :: c.grammar.parameters }

/-- The task of the words after the name of a command. A settings file among
them counts more than one before them. -/
def read (c : Command α) (outer : Given) (words : List String) : Except Stop (Invocation α) := do
  let g ← c.fullGrammar.read words
  let task ← c.task g
  .ok ⟨(g.value? "config").or (outer.value? "config"), task⟩

end Command

namespace Registry

variable {α : Type}

/-- Puts a command among others, in place of the one of its name. -/
def insert (c : Command α) : List (Command α) → List (Command α)
  | [] => [c]
  | other :: rest =>
    if c.name < other.name then c :: other :: rest
    else if c.name = other.name then c :: rest
    else other :: insert c rest

def register (r : Registry α) (c : Command α) : Registry α := ⟨insert c r.commands⟩

/-- The command of a name. -/
def get? (r : Registry α) (name : String) : Option (Command α) :=
  r.commands.find? (·.name = name)

/-- The names of the commands, in order. -/
def names (r : Registry α) : List String := r.commands.map Command.name

def isEmpty (r : Registry α) : Bool := r.commands.isEmpty

/-- Help on all commands, or on the one that is named. -/
def help (r : Registry α) : List String → Stop
  | [] => .help
  | [name] => if (r.get? name).isSome ∨ name = "help" then .help else .unexpected name
  | _ :: word :: _ => .unexpected word

/-- The task of the words that follow what has been given. -/
def readFrom (r : Registry α) (g : Given) : List String → Except Stop (Invocation α)
  | [] => do
    let _ ← g.finish
    .error .missingCommand
  | word :: rest =>
    if g.awaiting.isNone ∧ !g.literal then
      match r.get? word with
      | some c => c.read g rest
      | none =>
        if word = "help" then .error (r.help rest)
        else do r.readFrom (← g.step rootGrammar word) rest
    else do r.readFrom (← g.step rootGrammar word) rest

/-- The task of a command line. -/
def read (r : Registry α) (words : List String) : Except Stop (Invocation α) :=
  r.readFrom {} words

/-- What a program with these commands says when it is asked for help. -/
def usage (r : Registry α) : String :=
  "Commands:\n" ++
    "".intercalate (r.commands.map fun c => "  " ++ c.name ++ "  " ++ c.help ++ "\n")

end Registry

end SqlPlan
