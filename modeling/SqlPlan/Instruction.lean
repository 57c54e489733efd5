import SqlPlan.Sql.Basic

/-!
# SqlPlan — instructions

An instruction is one step in the building of a query. The order of the
instructions is the order of the SQL they write:

* `Matcher` — one step of a path through the entities;
* `Window` — the rows of a page;
* `Comparison` — how the case of letters counts in a comparison;
* `Instruction` — a step, with what it needs;
* `Kind` — the kind of a step, by its name in plans.
-/

namespace SqlPlan

-- ---------------------------------------------------------------------------
-- Parts of instructions
-- ---------------------------------------------------------------------------

/-- One step of a path: from an entity to its first child of that type, with
that marker, or under that alias. -/
inductive Matcher where
  /-- The root, which may only begin a path. -/
  | root
  | entity (name : String)
  | marker (name : String)
  | tableAlias (name : String)
  deriving DecidableEq, Inhabited

/-- A matcher in an error message. -/
def Matcher.text : Matcher → String
  | root => "<root>"
  | entity name => "entity '" ++ name ++ "'"
  | marker name => "marker '" ++ name ++ "'"
  | tableAlias name => "alias '" ++ name ++ "'"

/-- The rows from `start` up to, but without, `stop`. -/
structure Window where
  start : UInt64
  stop : UInt64
  deriving DecidableEq, Inhabited

/-- How the case of letters counts where a column is compared. -/
inductive Comparison where
  /-- As the database has it. -/
  | asIs
  | caseSensitive
  | caseInsensitive
  deriving DecidableEq, Inhabited

-- ---------------------------------------------------------------------------
-- Kinds
-- ---------------------------------------------------------------------------

/-- The kind of an instruction. -/
inductive Kind where
  | initialQuery
  | fromQuery
  | pagedInitialQuery
  | pagedMainWhere
  | pagedMainOrderBy
  | pagedSecondaryWhere
  | pagedUseGroupBy
  | pagedHaving
  | path
  | pathRoot
  | separator
  | text
  | idColumn
  | idAlias
  | column
  | columnAlias
  | param
  | stringParam
  | arrayParam
  | sql
  | table
  deriving DecidableEq, Inhabited

namespace Kind

/-- The name of a kind in plans. -/
def name : Kind → String
  | initialQuery => "INITIAL_QUERY"
  | fromQuery => "FROM_QUERY"
  | pagedInitialQuery => "PAGED_INITIAL_QUERY"
  | pagedMainWhere => "PAGED_MAIN_WHERE"
  | pagedMainOrderBy => "PAGED_MAIN_ORDER_BY"
  | pagedSecondaryWhere => "PAGED_SECONDARY_WHERE"
  | pagedUseGroupBy => "PAGED_USE_GROUP_BY"
  | pagedHaving => "PAGED_HAVING"
  | path => "PATH"
  | pathRoot => "PATH_ROOT"
  | separator => "SEPARATOR"
  | text => "STRING"
  | idColumn => "ID_COLUMN"
  | idAlias => "ID_ALIAS"
  | column => "COLUMN"
  | columnAlias => "COLUMN_ALIAS"
  | param => "PARAM"
  | stringParam => "STRING_PARAM"
  | arrayParam => "ARRAY_PARAM"
  | sql => "SQL"
  | table => "TABLE"

/-- An instruction of this kind begins a query. -/
def isInitializer : Kind → Bool
  | initialQuery | fromQuery | pagedInitialQuery => true
  | _ => false

end Kind

-- ---------------------------------------------------------------------------
-- Instructions
-- ---------------------------------------------------------------------------

/-- One step in the building of a query. -/
inductive Instruction where
  /-- The whole query for the entities. -/
  | initialQuery
  /-- The query for the entities from its FROM on. -/
  | fromQuery
  /-- A page of the entities. -/
  | pagedInitialQuery (window : Window)
  /-- From here on the main filter, whose query also projects `columns`. -/
  | pagedMainWhere (columns : List String)
  /-- From here on the main order. -/
  | pagedMainOrderBy
  /-- From here on the filter on the rows of the page. -/
  | pagedSecondaryWhere
  /-- The main query groups by the primary key and `columns`. -/
  | pagedUseGroupBy (columns : List String)
  /-- From here on the condition on groups. -/
  | pagedHaving
  /-- From here on the entity that the path leads to. -/
  | path (matchers : List Matcher)
  /-- From here on the root entity. -/
  | pathRoot
  /-- From here on what stands between alias and column. -/
  | separator (text : String)
  /-- Text as it is. -/
  | text (text : String)
  /-- The primary key. -/
  | idColumn (comparison : Comparison)
  /-- The label of the primary key. -/
  | idAlias
  | column (name : String) (comparison : Comparison)
  /-- The label of a column. -/
  | columnAlias (name : String)
  | param (value : Value)
  | stringParam (text : String)
  /-- Membership in an array. -/
  | arrayParam (items : List Value)
  /-- A trusted fragment with its own parameters. -/
  | sql (fragment : Sql)
  /-- The name of the table. -/
  | table
  deriving Inhabited

/-- The kind of an instruction. -/
def Instruction.kind : Instruction → Kind
  | initialQuery => .initialQuery
  | fromQuery => .fromQuery
  | pagedInitialQuery _ => .pagedInitialQuery
  | pagedMainWhere _ => .pagedMainWhere
  | pagedMainOrderBy => .pagedMainOrderBy
  | pagedSecondaryWhere => .pagedSecondaryWhere
  | pagedUseGroupBy _ => .pagedUseGroupBy
  | pagedHaving => .pagedHaving
  | path _ => .path
  | pathRoot => .pathRoot
  | separator _ => .separator
  | text _ => .text
  | idColumn _ => .idColumn
  | idAlias => .idAlias
  | column _ _ => .column
  | columnAlias _ => .columnAlias
  | param _ => .param
  | stringParam _ => .stringParam
  | arrayParam _ => .arrayParam
  | sql _ => .sql
  | table => .table

end SqlPlan
