import SqlPlan.Compile
import SqlPlan.Json.Printer
import SqlPlan.Plan
import SqlPlan.Settings.Basic

/-!
# SqlPlan — reports

A report shows what a plan compiles to:

* `Plan.tree`, `Settings.kind` — what a plan and settings say about compiling;
* `Plan.report` — the report of a plan under settings;
* `Report.text` — for people, with the parameters in SQL comments;
* `Report.toDocument` — as a JSON document, with the parameters as plain values.
-/

namespace SqlPlan

/-- The database that the settings name. -/
def Settings.kind (s : Settings) : Except Error DialectKind := DialectKind.parse s.dialect

/-- The tree of a plan. -/
def Plan.tree (p : Plan) (separator : String) : Except Error Tree :=
  Tree.ofDefinition p.definition separator

/-- What a plan compiles to, to be shown. -/
structure Report where
  kind : DialectKind
  /-- The query, or the page query. -/
  query : Sql
  /-- The query that counts the entities of all pages. -/
  count : Option Sql

namespace Report

/-- The query with its text numbered if that is asked for. -/
def numberIf (numbered : Bool) (q : Sql) : Sql :=
  if numbered then { q with text := q.numbered } else q

/-- The report of a compiled plan. -/
def ofCompiled (kind : DialectKind) (numbered : Bool) : Compiled → Report
  | .plain q => ⟨kind, numberIf numbered q, none⟩
  | .paged page count _ => ⟨kind, numberIf numbered page, some (numberIf numbered count)⟩

/-- A statement under a comment that names it, and its parameters in another. -/
def statementText (title : String) (q : Sql) : String :=
  "-- " ++ title ++ "\n" ++ q.text ++ ";\n-- params: " ++ (Value.list q.params).text ++ "\n"

/-- A report for people. -/
def text (r : Report) : String :=
  statementText (r.kind.name ++ " query") r.query ++
    (match r.count with
      | some count => statementText "count query" count
      | none => "")

/-- The parameters of a statement as plain values. -/
def params (q : Sql) : Document := .arr (Value.toDocuments q.params)

/-- A report as a document. -/
def toDocument (r : Report) : Document :=
  .obj (.ofList
    ([("dialect", .str r.kind.name), ("sql", .str r.query.text), ("params", params r.query)] ++
      (match r.count with
        | some count => [("count_sql", .str count.text), ("count_params", params count)]
        | none => [])))

end Report

/-- The report of a plan under settings, for another dialect if one is named. -/
def Plan.report (p : Plan) (s : Settings) (dialect : Option String) (numbered : Bool) :
    Except Error Report := do
  let kind ←
    match dialect with
    | some name => DialectKind.parse name
    | none => s.kind
  let t ← p.tree s.separator
  let c ← compile t kind.dialect s.strict p.instructions
  .ok (Report.ofCompiled kind numbered c)

end SqlPlan
