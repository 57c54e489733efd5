import SqlPlan.Error
import SqlPlan.Json.Reader
import SqlPlan.Settings.Basic
import SqlPlan.Text.Blank
import SqlPlan.Text.Lowercase
import SqlPlan.Toml.Reader

/-!
# SqlPlan — loading settings

Settings come from a text over the defaults, and from variables of the
environment over the text:

* `Format.read` — the settings of a text;
* `Format.load` — the settings of a file;
* `Settings.override` — the settings under an environment;
* `Settings.load` — the settings of a file, in the format its name suggests,
  under an environment.
-/

namespace SqlPlan

-- ---------------------------------------------------------------------------
-- Files
-- ---------------------------------------------------------------------------

/-- The contents of files by their paths, or why there are none. -/
abbrev Files := String → Except String String

/-- The last part of a path, if it names a file. -/
def fileName? (path : String) : Option String :=
  match ((path.splitOn "/").filter fun part => part ≠ "" ∧ part ≠ ".").getLast? with
  | some ".." => none
  | found => found

/-- What follows the last point of a file name, unless the name begins with
that point. -/
def extension? (path : String) : Option String := do
  let name ← fileName? path
  match (name.splitOn ".").reverse with
  | last :: [before] => if before = "" then none else some last
  | last :: _ :: _ => some last
  | _ => none

namespace Format

/-- The format that the name of a file suggests. -/
def ofPath (path : String) : Format :=
  if (extension? path).map Text.asciiLowercase = some "json" then json else toml

/-- The document of a text. -/
def document? (format : Format) (text : String) : Option Document :=
  match format with
  | toml => (Toml.parse? text).map Toml.toDocument
  | json => Document.parse? text

/-- The settings of a text. -/
def read (format : Format) (text : String) : Except Error Settings :=
  match format.document? text with
  | none => .error (.malformedSettings format)
  | some d =>
    match Settings.overlay? d with
    | none => .error (.misshapenSettings format)
    | some s => .ok s

/-- The settings of a file. -/
def load (format : Format) (files : Files) (path : String) : Except Error Settings :=
  match files path with
  | .ok text => format.read text
  | .error cause => .error (.unreadableSettings format path cause)

end Format

-- ---------------------------------------------------------------------------
-- The environment
-- ---------------------------------------------------------------------------

/-- A variable of the environment that settings depend on. -/
inductive Variable where
  | debug
  | logLevel
  | dialect
  | separator
  | strict
  deriving DecidableEq, Inhabited

namespace Variable

def all : List Variable := [debug, logLevel, dialect, separator, strict]

def name : Variable → String
  | debug => "QUERYLOOM_DEBUG"
  | logLevel => "QUERYLOOM_LOG_LEVEL"
  | dialect => "QUERYLOOM_DIALECT"
  | separator => "QUERYLOOM_COLUMN_ALIAS_SEPARATOR"
  | strict => "QUERYLOOM_STRICT_PARAMETER_CHECK"

end Variable

/-- The values of the variables that are set. -/
abbrev Environment := Variable → Option String

namespace Settings

/-- The text of a variable means yes. -/
def isYes (text : String) : Bool :=
  Text.lowercase text ∈ ["true", "1", "yes"]

/-- The name of a dialect in the text of a variable. -/
def dialectName (text : String) : String :=
  Text.lowercase (Text.trim text)

/-- Settings under an environment: a variable that is set counts alone. -/
def override (env : Environment) (s : Settings) : Settings :=
  { s with
    debug := ((env .debug).map isYes).getD s.debug
    logLevel := (env .logLevel).getD s.logLevel
    dialect := ((env .dialect).map dialectName).getD s.dialect
    separator := (env .separator).getD s.separator
    strict := ((env .strict).map isYes).getD s.strict }

/-- The settings of a file under an environment. -/
def load (files : Files) (env : Environment) (path : String) : Except Error Settings := do
  let s ← (Format.ofPath path).load files path
  .ok (s.override env)

end Settings

end SqlPlan
