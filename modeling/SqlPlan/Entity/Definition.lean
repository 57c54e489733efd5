import SqlPlan.Value.Basic

/-!
# SqlPlan — entity definitions

An entity is stored in a table and reached from a root by joins. A
`Definition` nests the definitions of the related entities inside it:

* `Join` — how the table of an entity joins to that of its parent;
* `Entity` — what a definition says of one entity;
* `Definition` — an entity and the entities below it.

A definition is built from `Definition.of` by the `with…` functions, each of
which sets or adds one thing.
-/

namespace SqlPlan

-- ---------------------------------------------------------------------------
-- Joins
-- ---------------------------------------------------------------------------

/-- How a related entity is loaded. -/
inductive Fetch where
  /-- Joined into the query. -/
  | eager
  /-- Loaded apart, so never joined. -/
  | lazy
  deriving DecidableEq, Inhabited

/-- The type of a join. -/
inductive JoinKind where
  | inner
  | left
  deriving DecidableEq, Inhabited

/-- How SQL spells a type of join. -/
def JoinKind.keyword : JoinKind → String
  | inner => "INNER JOIN"
  | left => "LEFT JOIN"

/-- A join of a child to its parent on a pair of columns. A further condition
is trusted SQL, its placeholders bound by `params`. -/
structure Join where
  kind : JoinKind := .left
  parentColumn : String
  childColumn : String
  condition : Option String := none
  params : List Value := []

namespace Join

/-- A left join on a pair of columns. -/
def left (parentColumn childColumn : String) : Join :=
  { parentColumn, childColumn }

/-- An inner join on a pair of columns. -/
def inner (parentColumn childColumn : String) : Join :=
  { kind := .inner, parentColumn, childColumn }

/-- The join under a further condition, which replaces an earlier one. -/
def withCondition (j : Join) (condition : String) (params : List Value) : Join :=
  { j with condition := some condition, params }

end Join

-- ---------------------------------------------------------------------------
-- Entities
-- ---------------------------------------------------------------------------

/-- What a definition says of one entity. -/
structure Entity where
  name : String
  table : String
  /-- The name of the table inside a query. -/
  tableAlias : String
  primaryKey : String := "id"
  /-- The other columns, in the order of projection. -/
  columns : List String := []
  /-- Names by which a path may address the entity. -/
  markers : List String := []
  /-- What stands between alias and column in a label; the default of the tree
  if there is none. -/
  separator : Option String := none
  fetch : Fetch := .eager
  /-- How the entity joins to its parent. -/
  join : Option Join := none

/-- An entity and the definitions of the entities below it. -/
structure Definition where
  entity : Entity
  children : List Definition

namespace Definition

/-- An entity of a table under an alias, with the primary key `id`. -/
def of (name table tableAlias : String) : Definition :=
  ⟨{ name, table, tableAlias }, []⟩

def withPrimaryKey (d : Definition) (column : String) : Definition :=
  { d with entity := { d.entity with primaryKey := column } }

/-- Adds columns after those there are. -/
def withColumns (d : Definition) (columns : List String) : Definition :=
  { d with entity := { d.entity with columns := d.entity.columns ++ columns } }

/-- Adds a marker after those there are. -/
def withMarker (d : Definition) (marker : String) : Definition :=
  { d with entity := { d.entity with markers := d.entity.markers ++ [marker] } }

def withSeparator (d : Definition) (separator : String) : Definition :=
  { d with entity := { d.entity with separator := some separator } }

/-- The entity is not joined into queries. -/
def fetchedLazily (d : Definition) : Definition :=
  { d with entity := { d.entity with fetch := .lazy } }

def withJoin (d : Definition) (join : Join) : Definition :=
  { d with entity := { d.entity with join := some join } }

/-- Adds a related entity after those there are. -/
def withChild (d : Definition) (child : Definition) : Definition :=
  { d with children := d.children ++ [child] }

mutual

/-- The number of entities of a definition. -/
def size : Definition → Nat
  | ⟨_, children⟩ => 1 + sizes children

/-- The number of entities of several definitions. -/
def sizes : List Definition → Nat
  | [] => 0
  | d :: rest => size d + sizes rest

end

mutual

/-- The entities of a definition, each before those below it. -/
def preorder : Definition → List Entity
  | ⟨entity, children⟩ => entity :: preorders children

/-- The entities of several definitions, one definition after another. -/
def preorders : List Definition → List Entity
  | [] => []
  | d :: rest => preorder d ++ preorders rest

end

end Definition

end SqlPlan
