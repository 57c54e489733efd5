import SqlPlan.Report

/-!
# SqlPlan — checks

Checks find what is wrong with settings or with a plan without writing any SQL.
Each finding has a level, a name of its own and, where there is one, a hint at
the way out:

* `Settings.check` — the findings on settings;
* `Plan.check` — the findings on a plan: its tree, the instructions that begin
  its query, and whether it compiles in strict mode.
-/

namespace SqlPlan

namespace Check

/-- How bad a finding is. -/
inductive Level where
  | info
  | warning
  | error
  deriving DecidableEq, Inhabited

def Level.text : Level → String
  | info => "INFO"
  | warning => "WARNING"
  | error => "ERROR"

end Check

/-- What a check has found. -/
structure Finding where
  level : Check.Level
  id : String
  message : String
  hint : Option String := none

namespace Finding

/-- A finding on one line, and its hint on another. -/
def text (f : Finding) : String :=
  f.level.text ++ " (" ++ f.id ++ "): " ++ f.message ++
    (match f.hint with
      | some hint => "\n\tHINT: " ++ hint
      | none => "")

def isError (f : Finding) : Bool := f.level = .error

def isWarning (f : Finding) : Bool := f.level = .warning

end Finding

namespace Check

/-- The finding, if there is reason for it. -/
def when (reason : Bool) (f : Finding) : List Finding :=
  if reason then [f] else []

/-- The finding that an error is, if there is one. -/
def whenError {α : Type} (id : String) (hint : Option String) : Except Error α → List Finding
  | .ok _ => []
  | .error e => [{ level := .error, id, message := e.message, hint }]

-- ---------------------------------------------------------------------------
-- Settings
-- ---------------------------------------------------------------------------

/-- The characters that need no quotes in an identifier. -/
def isIdentifierChar (c : Char) : Bool := c.isAlphanum || c = '_'

/-- The separator can stand in the label of a column. -/
def separatorFindings (separator : String) : List Finding :=
  if separator = "" then
    [{ level := .error, id := "settings.E002", message := "column_alias_separator is empty",
       hint := some "Projected column labels need a separator such as \"_\"" }]
  else
    when (!separator.toList.all isIdentifierChar)
      { level := .warning, id := "settings.W001",
        message := "column_alias_separator " ++ Text.quoted separator ++
          " is not a valid unquoted identifier part",
        hint := some "Use letters, digits or underscores" }

/-- The settings do not ask for the check of placeholders. -/
def looseFinding : Finding where
  level := .info
  id := "settings.I001"
  message := "Parameter count mismatches are logged, not rejected"
  hint := some "Set strict_parameter_check = true to fail compilation instead"

-- ---------------------------------------------------------------------------
-- Plans
-- ---------------------------------------------------------------------------

/-- Exactly one instruction begins the query. -/
def initializerFindings (kinds : List Kind) : List Finding :=
  match kinds.countP Kind.isInitializer with
  | 0 =>
    [{ level := .error, id := "plan.E002",
       message := "The plan has no INITIAL_QUERY, FROM_QUERY or PAGED_INITIAL_QUERY" }]
  | 1 =>
    when (!(kinds.head?.any Kind.isInitializer))
      { level := .warning, id := "plan.W001",
        message := "Instructions before the initializer render ahead of its SQL" }
  | n =>
    [{ level := .error, id := "plan.E003",
       message := "The plan has " ++ toString n ++ " initializers",
       hint := some "A plan compiles exactly one query" }]

/-- A page has an order. -/
def orderFindings (kinds : List Kind) : List Finding :=
  when (kinds.contains .pagedInitialQuery && !kinds.contains .pagedMainOrderBy)
    { level := .warning, id := "plan.W002",
      message := "The paginated plan has no PAGED_MAIN_ORDER_BY",
      hint := some "Pages are only stable under a total order; order by the id column" }

end Check

/-- What is wrong with settings. -/
def Settings.check (s : Settings) : List Finding :=
  Check.whenError "settings.E001" (some "Set dialect to sqlite, postgresql or mysql") s.kind ++
    Check.separatorFindings s.separator ++ Check.when (!s.strict) Check.looseFinding

/-- What is wrong with a plan before it is compiled. -/
def Plan.checkShape (p : Plan) (s : Settings) : List Finding :=
  let kinds := p.instructions.map Instruction.kind
  Check.whenError "plan.E001" none (p.tree s.separator) ++
    Check.initializerFindings kinds ++ Check.orderFindings kinds

/-- What is wrong with a plan. It is compiled only if nothing else is wrong
and the settings name a dialect. -/
def Plan.check (p : Plan) (s : Settings) : List Finding :=
  let found := p.checkShape s
  if found.any Finding.isError then found
  else
    match p.tree s.separator, s.kind with
    | .ok t, .ok kind =>
      found ++ Check.whenError "plan.E004" none (compile t kind.dialect true p.instructions)
    | _, _ => found

end SqlPlan
