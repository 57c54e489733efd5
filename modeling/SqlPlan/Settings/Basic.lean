import SqlPlan.Json.Merge
import SqlPlan.Json.Shape

/-!
# SqlPlan — settings

Settings are read from a document that is laid over the defaults, so that what
the document leaves out keeps its default:

* `Settings` — what compiling and logging depend on, with the defaults;
* `Settings.toDocument`, `Settings.ofDocument?` — settings as a record;
* `Settings.overlay?` — the settings of a document over the defaults;
* `SettingsCell` — settings that are set once.
-/

namespace SqlPlan

/-- What compiling and logging depend on. -/
structure Settings where
  /-- Logs are written for people. -/
  debug : Bool := true
  /-- Which events are logged. -/
  logLevel : String := "info"
  /-- The name of a dialect. -/
  dialect : String := "sqlite"
  /-- What stands between alias and column in the label of a column, for
  entities that do not choose. -/
  separator : String := "_"
  /-- A query has as many placeholders as parameters, or fails to compile. -/
  strict : Bool := false
  /-- What else an application keeps here. -/
  extra : Document.Members := .empty
  deriving Inhabited

namespace Settings

/-- The names of the fields in a record. -/
def fields : List String :=
  ["debug", "log_level", "dialect", "column_alias_separator", "strict_parameter_check", "extra"]

def toDocument (s : Settings) : Document :=
  .obj (.ofList
    [("debug", .bool s.debug), ("log_level", .str s.logLevel), ("dialect", .str s.dialect),
      ("column_alias_separator", .str s.separator), ("strict_parameter_check", .bool s.strict),
      ("extra", .obj s.extra)])

/-- The members of an object. -/
def extra? (j : Json) : Option Document.Members :=
  (Document.ofJson? j).bind Document.members?

/-- The settings of a record. -/
def ofDocument? (d : Document) : Option Settings := do
  let ms ← d.json.record? fields
  let debug ← Json.required? ms "debug" Json.bool?
  let logLevel ← Json.required? ms "log_level" Json.string?
  let dialect ← Json.required? ms "dialect" Json.string?
  let separator ← Json.required? ms "column_alias_separator" Json.string?
  let strict ← Json.required? ms "strict_parameter_check" Json.bool?
  let extra ← Json.required? ms "extra" extra?
  some { debug, logLevel, dialect, separator, strict, extra }

/-- The settings of a document laid over the defaults. -/
def overlay? (d : Document) : Option Settings :=
  ofDocument? ((toDocument {}).merge d)

end Settings

-- ---------------------------------------------------------------------------
-- Settings that are set once
-- ---------------------------------------------------------------------------

/-- A place for settings, empty until they are set. -/
structure SettingsCell where
  settings? : Option Settings := none
  deriving Inhabited

namespace SettingsCell

def isConfigured (c : SettingsCell) : Bool := c.settings?.isSome

/-- Sets the settings, unless that has been done. -/
def configure? (c : SettingsCell) (s : Settings) : Option SettingsCell :=
  if c.isConfigured then none else some ⟨some s⟩

end SettingsCell

end SqlPlan
