import SqlPlan.Entity.Json
import SqlPlan.Error
import SqlPlan.Json.Reader

/-!
# SqlPlan — query plans

A plan pairs a definition with the instructions to compile against its tree.
Plans are JSON texts:

* `Matcher.toJson`, `Instruction.toJson`, `Plan.toJson` — what is written;
* `Matcher.ofJson?`, `Instruction.ofJson?`, `Plan.ofJson?` — what is read;
* `Plan.parse` — the plan of a text.
-/

namespace SqlPlan

/-- The entities of a query and the steps that build it. -/
structure Plan where
  definition : Definition
  instructions : List Instruction

-- ---------------------------------------------------------------------------
-- Matchers
-- ---------------------------------------------------------------------------

namespace Matcher

/-- A tagged object of a matcher and the name it looks for. -/
def named (how name : String) : Json := .obj [("match", .str how), ("value", .str name)]

def toJson : Matcher → Json
  | root => .obj [("match", .str "root")]
  | entity name => named "entity" name
  | marker name => named "marker" name
  | tableAlias name => named "alias" name

/-- What a matcher may look at. -/
def ways : List String := ["root", "entity", "marker", "alias"]

/-- The matcher that a tagged value writes. -/
def ofJson? (source : Json.Source) (j : Json) : Option Matcher := do
  let found ← j.tagged? source "match" "value" ways
  if found.name = "root" then (if Json.isUnit found.payload then some root else none)
  else do
    let name := (← found.payload).string?
    match found.name with
    | "entity" => name.map entity
    | "marker" => name.map marker
    | "alias" => name.map tableAlias
    | _ => none

end Matcher

-- ---------------------------------------------------------------------------
-- Instructions
-- ---------------------------------------------------------------------------

namespace Comparison

def toJson : Comparison → Json
  | asIs => .null
  | caseSensitive => .bool true
  | caseInsensitive => .bool false

def ofJson? : Json → Option Comparison
  | .null => some asIs
  | .bool true => some caseSensitive
  | .bool false => some caseInsensitive
  | _ => none

end Comparison

namespace Instruction

/-- The payload of an instruction; none for an instruction without one. -/
def payload? : Instruction → Option Json
  | initialQuery | fromQuery | pagedMainOrderBy | pagedSecondaryWhere | pagedHaving | pathRoot
  | idAlias | table => none
  | pagedInitialQuery w =>
    some (.obj [("begin", .int w.start.toNat), ("end", .int w.stop.toNat)])
  | pagedMainWhere columns | pagedUseGroupBy columns =>
    some (.obj [("additional_columns", .ofStrings columns)])
  | path matchers => some (.arr (matchers.map Matcher.toJson))
  | separator s | text s | stringParam s => some (.str s)
  | idColumn c => some (.obj [("case_sensitive", c.toJson)])
  | column name c => some (.obj [("name", .str name), ("case_sensitive", c.toJson)])
  | columnAlias name => some (.obj [("name", .str name)])
  | param v => some v.toJson
  | arrayParam items => some (.arr (Value.toJsons items))
  | sql fragment =>
    some (.obj [("sql", .str fragment.text), ("params", .arr (Value.toJsons fragment.params))])

/-- An instruction as a tagged object. -/
def toJson (i : Instruction) : Json :=
  match i.payload? with
  | some j => .obj [("kind", .str i.kind.name), ("value", j)]
  | none => .obj [("kind", .str i.kind.name)]

/-- The instruction of that name without a payload. -/
def unit? : String → Option Instruction
  | "INITIAL_QUERY" => some initialQuery
  | "FROM_QUERY" => some fromQuery
  | "PAGED_MAIN_ORDER_BY" => some pagedMainOrderBy
  | "PAGED_SECONDARY_WHERE" => some pagedSecondaryWhere
  | "PAGED_HAVING" => some pagedHaving
  | "PATH_ROOT" => some pathRoot
  | "ID_ALIAS" => some idAlias
  | "TABLE" => some table
  | _ => none

/-- Columns that may be left out of a payload. -/
def columns? (j : Json) : Option (List String) := do
  let ms ← j.fields? ["additional_columns"]
  Json.defaulted? ms "additional_columns" [] Json.strings?

/-- The instruction of that name with that payload. -/
def ofPayload? (source : Json.Source) (name : String) (j : Json) : Option Instruction :=
  match name with
  | "PAGED_INITIAL_QUERY" => do
    let ms ← j.fields? ["begin", "end"]
    let start ← Json.required? ms "begin" Json.uint64?
    let stop ← Json.required? ms "end" Json.uint64?
    some (pagedInitialQuery ⟨start, stop⟩)
  | "PAGED_MAIN_WHERE" => (columns? j).map pagedMainWhere
  | "PAGED_USE_GROUP_BY" => (columns? j).map pagedUseGroupBy
  | "PATH" => (j.list? (Matcher.ofJson? source)).map path
  | "SEPARATOR" => j.string?.map separator
  | "STRING" => j.string?.map text
  | "ID_COLUMN" => do
    let ms ← j.fields? ["case_sensitive"]
    (Json.defaulted? ms "case_sensitive" .asIs Comparison.ofJson?).map idColumn
  | "COLUMN" => do
    let ms ← j.fields? ["name", "case_sensitive"]
    let name ← Json.required? ms "name" Json.string?
    (Json.defaulted? ms "case_sensitive" .asIs Comparison.ofJson?).map (column name)
  | "COLUMN_ALIAS" => do
    let ms ← j.fields? ["name"]
    (Json.required? ms "name" Json.string?).map columnAlias
  | "PARAM" => (Value.ofJson? source j).map param
  | "STRING_PARAM" => j.string?.map stringParam
  | "ARRAY_PARAM" => (Value.items? source j).map arrayParam
  | "SQL" => do
    let ms ← j.fields? ["sql", "params"]
    let text ← Json.required? ms "sql" Json.string?
    let params ← Json.defaulted? ms "params" [] (Value.items? source)
    some (sql ⟨text, params⟩)
  | _ => none

/-- The instruction that a tagged value in a text writes. A text never numbers
the names, so no list of them is needed. -/
def ofJson? (j : Json) : Option Instruction := do
  let found ← j.tagged? .text "kind" "value" []
  match unit? found.name with
  | some i => if Json.isUnit found.payload then some i else none
  | none => ofPayload? found.source found.name (← found.payload)

end Instruction

-- ---------------------------------------------------------------------------
-- Plans
-- ---------------------------------------------------------------------------

namespace Plan

def fields : List String := ["tree", "instructions"]

def toJson (p : Plan) : Json :=
  .obj [("tree", p.definition.toJson),
    ("instructions", .arr (p.instructions.map Instruction.toJson))]

def ofJson? (j : Json) : Option Plan := do
  let ms ← j.record? fields
  let definition ← Json.required? ms "tree" Definition.ofJson?
  let instructions ← Json.required? ms "instructions" (Json.list? Instruction.ofJson?)
  some { definition, instructions }

/-- The plan that a JSON text writes. -/
def parse (text : String) : Except Error Plan :=
  match (Json.parse? text).bind ofJson? with
  | some p => .ok p
  | none => .error .malformedPlan

end Plan

end SqlPlan
