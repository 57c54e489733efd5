import SqlPlan.Check
import SqlPlan.CommandLine.Registry
import SqlPlan.Settings.Loader

/-!
# SqlPlan — the commands of the program

There are two commands: `compile` shows what a plan compiles to, `check` finds
what is wrong with the settings and with a plan. What a command does depends
on files and on the environment only:

* `Task` — what a command line asks for;
* `builtinCommands` — the commands;
* `Task.files`, `Invocation.files` — the files that a task reads;
* `Invocation.run` — what the program prints and how it ends.
-/

namespace SqlPlan

/-- What a command line asks for. -/
inductive Task where
  /-- To show what a plan compiles to. -/
  | compile (plan : String) (dialect : Option String) (numbered strict json : Bool)
  /-- To check the settings, and a plan if one is named. -/
  | check (plan : Option String)
  deriving DecidableEq, Inhabited

-- ---------------------------------------------------------------------------
-- Commands
-- ---------------------------------------------------------------------------

def compileCommand : Command Task where
  name := "compile"
  help := "Compile a JSON query plan to SQL"
  grammar :=
    { parameters := [⟨"dialect", 'd'⟩]
      switches := ["numbered", "strict", "json"]
      operand := true }
  task g :=
    match g.operand with
    | some plan =>
      .ok (.compile plan (g.value? "dialect") (g.has "numbered") (g.has "strict") (g.has "json"))
    | none => .error (.missingOperand "PLAN")

def checkCommand : Command Task where
  name := "check"
  help := "Check settings and, optionally, a query plan"
  grammar := { parameters := [⟨"plan", 'p'⟩] }
  task g := .ok (.check (g.value? "plan"))

/-- Adds the commands of the program. -/
def Registry.withBuiltins (r : Registry Task) : Registry Task :=
  (r.register compileCommand).register checkCommand

/-- The commands of the program. -/
def builtinCommands : Registry Task := Registry.withBuiltins {}

-- ---------------------------------------------------------------------------
-- Doing tasks
-- ---------------------------------------------------------------------------

/-- What the program prints, and how it ends. -/
structure Outcome where
  exit : Nat := 0
  output : String := ""
  errors : String := ""
  deriving DecidableEq, Inhabited

namespace Outcome

/-- The program ends with an error after some output. -/
def failed (output : String) (e : Error) : Outcome :=
  { exit := 1, output, errors := "error: " ++ e.message ++ "\n" }

/-- The program ends before it does anything. -/
def stopped (usage : String) : Stop → Outcome
  | .help => { output := usage }
  | stop => { exit := stop.exit, errors := "error: " ++ stop.text ++ "\n" }

end Outcome

/-- The plan of a file. -/
def Plan.load (files : Files) (path : String) : Except Error Plan :=
  match files path with
  | .ok text => Plan.parse text
  | .error cause => .error (.unreadableFile cause)

/-- What is printed for a report. -/
def Report.printed (r : Report) (json : Bool) : String :=
  if json then r.toDocument.json.pretty ++ "\n" else r.text

/-- What is printed for findings. -/
def Finding.printed (found : List Finding) : String :=
  "".intercalate (found.map fun f => f.text ++ "\n") ++
    (if found.any fun f => f.isError || f.isWarning then "" else "Check identified no issues\n")

/-- Prints findings. Errors among them make the program fail. -/
def Finding.outcome (found : List Finding) : Outcome :=
  let errors := found.countP Finding.isError
  if errors = 0 then { output := Finding.printed found }
  else .failed (Finding.printed found) (.failedChecks errors)

namespace Task

/-- The files that a task reads. -/
def files : Task → List String
  | compile plan _ _ _ _ => [plan]
  | check plan => plan.toList

/-- Does a task under settings. -/
def run (files : Files) (s : Settings) : Task → Outcome
  | compile path dialect numbered strict json =>
    let report : Except Error Report := do
      let plan ← Plan.load files path
      plan.report { s with strict := s.strict || strict } dialect numbered
    match report with
    | .ok r => { output := r.printed json }
    | .error e => .failed "" e
  | check none => Finding.outcome s.check
  | check (some path) =>
    match Plan.load files path with
    | .ok plan => Finding.outcome (s.check ++ plan.check s)
    | .error e => .failed "" e

end Task

namespace Invocation

/-- The files that are read to do a task, the settings file included. -/
def files (i : Invocation Task) : List String := i.config.toList ++ i.task.files

/-- The settings to do a task under. -/
def settings (files : Files) (env : Environment) (i : Invocation Task) : Except Error Settings :=
  match i.config with
  | some path => Settings.load files env path
  | none => .ok (Settings.override env {})

/-- Loads the settings and does the task. -/
def run (files : Files) (env : Environment) (i : Invocation Task) : Outcome :=
  match i.settings files env with
  | .ok s => i.task.run files s
  | .error e => .failed "" e

end Invocation

/-- The whole program: its words, the files it may read, and its environment. -/
def runProgram (files : Files) (env : Environment) (words : List String) : Outcome :=
  match builtinCommands.read words with
  | .ok i => i.run files env
  | .error stop => .stopped builtinCommands.usage stop

end SqlPlan
