import SqlPlan.Instruction
import SqlPlan.Text.Quoted

/-!
# SqlPlan — errors

An error is a cause. `Error.category` sorts causes by who is to blame,
`Error.message` words them. Errors of the calling side are usage errors
(`Error.isUsage`): the same call fails again.
-/

namespace SqlPlan

/-- The format of a settings file. -/
inductive Format where
  | toml
  | json
  deriving DecidableEq, Inhabited

def Format.name : Format → String
  | toml => "TOML"
  | json => "JSON"

/-- A statement whose placeholders are compared with its parameters. -/
inductive Statement where
  | query
  | countQuery
  /-- A statement of the embedded database. -/
  | prepared
  deriving DecidableEq, Inhabited

def Statement.text : Statement → String
  | query => "query"
  | countQuery => "count query"
  | prepared => "sqlite statement"

/-- What errors are about. -/
inductive Category where
  | initialization
  | path
  | unjoined
  | usage
  | mismatch
  | configuration
  | database
  | serialization
  | io
  deriving DecidableEq, Inhabited

/-- Errors of the calling side. -/
def Category.isUsage : Category → Bool
  | initialization | path | unjoined | usage | mismatch => true
  | configuration | database | serialization | io => false

/-- How the messages of a category begin. -/
def Category.heading : Category → String
  | initialization => "Initialization error: "
  | path => "Path error: "
  | unjoined => ""
  | usage => "Usage error: "
  | mismatch => ""
  | configuration => "Configuration error: "
  | database => "Database error: "
  | serialization => "Serialization error: "
  | io => "IO error: "

/-- Why something cannot be done. -/
inductive Error where
  /-- No instruction begins the query. -/
  | noInitializer (root : String)
  /-- A root matcher stands after the first of a path. -/
  | misplacedRoot
  /-- No child of an entity matches. -/
  | noChild (matcher : Matcher) (entity : String)
  /-- The path leads to an entity that is not joined. -/
  | unjoined (entity : String)
  /-- A second instruction begins the query. -/
  | secondInitializer (kind previous : Kind)
  /-- The page ends before it begins. -/
  | invertedWindow (window : Window)
  /-- An instruction for pages stands before any page. -/
  | outsidePage (kind : Kind)
  /-- The order of a page binds parameters. -/
  | boundOrder (root : String) (params : Nat)
  /-- A fragment has other placeholders than parameters. -/
  | misboundFragment (text : String) (placeholders params : Nat)
  /-- A plain query is asked for, and there is a page. -/
  | isPaged (root : String)
  /-- A page is asked for, and there is a plain query. -/
  | isPlain (root : String)
  /-- A statement has other placeholders than parameters. -/
  | misaligned (statement : Statement) (placeholders params : Nat)
  | emptyAlias (entity : String)
  | repeatedAlias (tableAlias entity : String)
  /-- An entity below the root has no join. -/
  | noJoin (entity : String)
  | unknownDialect (name : String)
  /-- The settings are no text of their format. -/
  | malformedSettings (format : Format)
  /-- The settings have a value of the wrong type. -/
  | misshapenSettings (format : Format)
  | unreadableSettings (format : Format) (path cause : String)
  /-- Checks found errors. -/
  | failedChecks (count : Nat)
  /-- The database does not take a statement. -/
  | unprepared (cause : String)
  /-- A count query does not begin with an integer. -/
  | noCount
  | malformedPlan
  | unreadableFile (cause : String)
  deriving Inhabited

namespace Error

def category : Error → Category
  | noInitializer _ => .initialization
  | misplacedRoot | noChild _ _ => .path
  | unjoined _ => .unjoined
  | secondInitializer _ _ | invertedWindow _ | outsidePage _ | boundOrder _ _
  | misboundFragment _ _ _ | isPaged _ | isPlain _ => .usage
  | misaligned _ _ _ => .mismatch
  | emptyAlias _ | repeatedAlias _ _ | noJoin _ | unknownDialect _ | malformedSettings _
  | misshapenSettings _ | unreadableSettings _ _ _ | failedChecks _ => .configuration
  | unprepared _ | noCount => .database
  | malformedPlan => .serialization
  | unreadableFile _ => .io

/-- The calling side is to blame. -/
def isUsage (e : Error) : Bool := e.category.isUsage

/-- A message without its heading. -/
def detail : Error → String
  | noInitializer root =>
    "query on '" ++ root ++ "' has no INITIAL_QUERY, FROM_QUERY or PAGED_INITIAL_QUERY"
  | misplacedRoot => "the root matcher may only appear first in a path"
  | noChild matcher entity =>
    "no child matching " ++ matcher.text ++ " under entity '" ++ entity ++ "'"
  | unjoined entity =>
    "Entity '" ++ entity ++ "' is not joined into the generated query; " ++
      "make the relation eagerly fetched before referencing its columns"
  | secondInitializer kind previous =>
    kind.name ++ " after " ++ previous.name ++ ": a query has exactly one initializer"
  | invertedWindow window =>
    "page window [" ++ toString window.start.toNat ++ ", " ++ toString window.stop.toNat ++
      ") ends before it begins"
  | outsidePage kind => kind.name ++ " is only valid after PAGED_INITIAL_QUERY"
  | boundOrder root params =>
    "paged ORDER BY on '" ++ root ++ "' binds " ++ toString params ++
      " parameter(s); ordering must not take parameters"
  | misboundFragment text placeholders params =>
    "SQL fragment " ++ Text.quoted text ++ " has " ++ toString placeholders ++
      " placeholder(s) but binds " ++ toString params ++ " parameter(s)"
  | isPaged root => "query on '" ++ root ++ "' is paginated; read it as a paged result"
  | isPlain root =>
    "query on '" ++ root ++ "' has no PAGED_INITIAL_QUERY; read it as a plain result"
  | misaligned statement placeholders params =>
    "Parameter mismatch in " ++ statement.text ++ ": " ++ toString placeholders ++
      " placeholder(s) but " ++ toString params ++ " parameter(s)"
  | emptyAlias entity => "Entity '" ++ entity ++ "' has an empty table alias"
  | repeatedAlias tableAlias entity =>
    "Table alias '" ++ tableAlias ++ "' is used more than once (entity '" ++ entity ++ "')"
  | noJoin entity => "Entity '" ++ entity ++ "' has no join to its parent"
  | unknownDialect name =>
    "Unknown dialect '" ++ name ++ "'; expected one of sqlite, postgresql, mysql"
  | malformedSettings format =>
    "Failed to parse " ++ format.name ++ ": the text is not well formed"
  | misshapenSettings format =>
    "Failed to deserialize settings from " ++ format.name ++ ": a value has the wrong type"
  | unreadableSettings format path cause =>
    "Failed to read " ++ format.name ++ " file '" ++ path ++ "': " ++ cause
  | failedChecks count => "Check found " ++ toString count ++ " error(s)"
  | unprepared cause => "Prepare failed: " ++ cause
  | noCount => "Count query returned no integer"
  | malformedPlan => "Invalid query plan: the text is not a plan"
  | unreadableFile cause => cause

/-- The message of an error. -/
def message (e : Error) : String := e.category.heading ++ e.detail

end Error

end SqlPlan
