import SqlPlan.Entity.Definition
import SqlPlan.Value.Printer
import SqlPlan.Value.Reader

/-!
# SqlPlan — definitions in JSON

A definition is a record; so is a join. Every field is written, in a fixed
order; where a field has a default it may be left out of what is read.
`Definition.ofJson?` reads what `Definition.toJson` writes.
-/

namespace SqlPlan

namespace Json

/-- A string, or null. -/
def ofStringOrNull : Option String → Json
  | some s => .str s
  | none => .null

def ofStrings (strings : List String) : Json := .arr (strings.map .str)

end Json

-- ---------------------------------------------------------------------------
-- Joins
-- ---------------------------------------------------------------------------

def Fetch.name : Fetch → String
  | eager => "eager"
  | lazy => "lazy"

def Fetch.ofJson? (j : Json) : Option Fetch :=
  match j.variant? .text with
  | some "eager" => some eager
  | some "lazy" => some lazy
  | _ => none

def JoinKind.name : JoinKind → String
  | inner => "inner"
  | left => "left"

def JoinKind.ofJson? (j : Json) : Option JoinKind :=
  match j.variant? .text with
  | some "inner" => some inner
  | some "left" => some left
  | _ => none

namespace Join

def fields : List String := ["kind", "parent_column", "child_column", "condition", "params"]

def toJson (j : Join) : Json :=
  .obj [("kind", .str j.kind.name), ("parent_column", .str j.parentColumn),
    ("child_column", .str j.childColumn), ("condition", .ofStringOrNull j.condition),
    ("params", .arr (Value.toJsons j.params))]

def ofJson? (j : Json) : Option Join := do
  let ms ← j.record? fields
  let kind ← Json.defaulted? ms "kind" .left JoinKind.ofJson?
  let parentColumn ← Json.required? ms "parent_column" Json.string?
  let childColumn ← Json.required? ms "child_column" Json.string?
  let condition ← Json.defaulted? ms "condition" none (Json.nullable? Json.string?)
  let params ← Json.defaulted? ms "params" [] (Value.items? .text)
  some { kind, parentColumn, childColumn, condition, params }

end Join

-- ---------------------------------------------------------------------------
-- Entities and definitions
-- ---------------------------------------------------------------------------

namespace Entity

/-- What is written of an entity itself. -/
def members (e : Entity) : List (String × Json) :=
  [("entity", .str e.name), ("table", .str e.table), ("alias", .str e.tableAlias),
    ("primary_key", .str e.primaryKey), ("columns", .ofStrings e.columns),
    ("markers", .ofStrings e.markers),
    ("column_alias_separator", .ofStringOrNull e.separator),
    ("fetch", .str e.fetch.name),
    ("join", match e.join with | some j => j.toJson | none => .null)]

/-- Reads what is written of an entity itself. -/
def ofMembers? (ms : List (String × Json)) : Option Entity := do
  let name ← Json.required? ms "entity" Json.string?
  let table ← Json.required? ms "table" Json.string?
  let tableAlias ← Json.required? ms "alias" Json.string?
  let primaryKey ← Json.defaulted? ms "primary_key" "id" Json.string?
  let columns ← Json.defaulted? ms "columns" [] Json.strings?
  let markers ← Json.defaulted? ms "markers" [] Json.strings?
  let separator ← Json.defaulted? ms "column_alias_separator" none (Json.nullable? Json.string?)
  let fetch ← Json.defaulted? ms "fetch" .eager Fetch.ofJson?
  let join ← Json.defaulted? ms "join" none (Json.nullable? Join.ofJson?)
  some { name, table, tableAlias, primaryKey, columns, markers, separator, fetch, join }

end Entity

namespace Definition

/-- The fields of a definition, in order. The children are the tenth. -/
def fields : List String :=
  ["entity", "table", "alias", "primary_key", "columns", "markers", "column_alias_separator",
    "fetch", "join", "children"]

mutual

/-- A definition as a record. -/
def toJson : Definition → Json
  | ⟨entity, children⟩ => .obj (entity.members ++ [("children", .arr (toJsons children))])

/-- Several definitions as records. -/
def toJsons : List Definition → List Json
  | [] => []
  | d :: rest => toJson d :: toJsons rest

end

mutual

/-- The definition that a record writes. -/
def ofJson? : Json → Option Definition
  | .obj members => do
    let ms ← Json.fields? fields (.obj members)
    let entity ← Entity.ofMembers? ms
    let children ← childrenIn? members
    some ⟨entity, children⟩
  | .arr items => do
    let ms ← Json.record? fields (.arr items)
    let entity ← Entity.ofMembers? ms
    let children ← childrenAt? 9 items
    some ⟨entity, children⟩
  | _ => none

/-- The children among the members of an object; none if there is no such
member. -/
def childrenIn? : List (String × Json) → Option (List Definition)
  | [] => some []
  | (name, j) :: rest => if name = "children" then childrenOf? j else childrenIn? rest

/-- The children at a place of an array; none if the array ends before it. -/
def childrenAt? : Nat → List Json → Option (List Definition)
  | _, [] => some []
  | 0, j :: _ => childrenOf? j
  | n + 1, _ :: rest => childrenAt? n rest

/-- The definitions of the items of an array. -/
def childrenOf? : Json → Option (List Definition)
  | .arr items => ofJsons? items
  | _ => none

/-- Several definitions. -/
def ofJsons? : List Json → Option (List Definition)
  | [] => some []
  | j :: rest => do
    let d ← ofJson? j
    let ds ← ofJsons? rest
    some (d :: ds)

end

end Definition

end SqlPlan
