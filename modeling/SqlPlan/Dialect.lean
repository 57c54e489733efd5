import SqlPlan.Paging
import SqlPlan.Text.Lowercase

/-!
# SqlPlan — SQL dialects

What databases spell differently:

* `Dialect` — the spellings that compiling asks for, and the queries, which a
  dialect may build in a way of its own;
* `Window.offsetAndCount` — the two values that a range clause usually binds;
* `Criteria.assemble` — the queries of a page with their parameters, in the order
  of their placeholders: joins, main filter, groups, range, joins again, page
  filter;
* `DialectKind` — the databases there are dialects for, by their names.
-/

namespace SqlPlan

/-- A number of rows to skip and a number of rows to take. -/
def Window.offsetAndCount (w : Window) : Value × Value :=
  (Value.ofIndex w.start.toNat, Value.ofIndex (w.stop.toNat - w.start.toNat))

/-- The spellings of a database, and the queries it is asked with. What a dialect
does not build in its own way is built as usual. -/
structure Dialect where
  name : String
  /-- A column compared with regard to case, from the alias, what stands after it,
  and the name. -/
  caseSensitive : (tableAlias separator column : String) → String
  /-- A column compared without regard to case. -/
  caseInsensitive : (tableAlias separator column : String) → String
  /-- The end of a predicate that holds of the members of an array. Its one
  placeholder binds the array. -/
  inArray : String
  /-- The clause that limits a query to a range of rows, with two placeholders. -/
  range : String
  /-- What the range clause binds. -/
  rangeParams : Window → Value × Value := Window.offsetAndCount
  /-- The whole query for a tree. -/
  baseQuery : Tree → Sql := Tree.select
  /-- The FROM clause for a tree. -/
  fromQuery : Tree → Sql := Tree.fromClause
  /-- The query for the rows of a page. -/
  pageQuery : Criteria → PageQuery := fun c => c.pageQuery range
  /-- The query for the number of rows that are paged. -/
  countQuery : Criteria → Sql := Criteria.countQuery

namespace Dialect

/-- Arrays are bound as JSON texts. -/
def sqlite : Dialect where
  name := "sqlite"
  caseSensitive tableAlias separator column :=
    tableAlias ++ separator ++ column ++ " COLLATE BINARY"
  caseInsensitive tableAlias separator column :=
    tableAlias ++ separator ++ column ++ " COLLATE NOCASE"
  inArray := "IN (SELECT value FROM json_each(?))"
  range := "LIMIT ?, ?"

/-- Comparisons regard case by default. -/
def postgresql : Dialect where
  name := "postgresql"
  caseSensitive tableAlias separator column := tableAlias ++ separator ++ column
  caseInsensitive tableAlias separator column :=
    "LOWER(" ++ (tableAlias ++ separator ++ column) ++ ")"
  inArray := "= ANY(?)"
  range := "OFFSET ? ROWS FETCH NEXT ? ROWS ONLY"

/-- Comparisons disregard case by default. Arrays are bound as JSON texts. -/
def mysql : Dialect where
  name := "mysql"
  caseSensitive tableAlias separator column := "BINARY " ++ (tableAlias ++ separator ++ column)
  caseInsensitive tableAlias separator column := tableAlias ++ separator ++ column
  inArray := "MEMBER OF (?)"
  range := "LIMIT ?, ?"

/-- A column under an alias as a comparison refers to it. -/
def refer (d : Dialect) (tableAlias separator column : String) : Comparison → String
  | .asIs => tableAlias ++ separator ++ column
  | .caseSensitive => d.caseSensitive tableAlias separator column
  | .caseInsensitive => d.caseInsensitive tableAlias separator column

end Dialect

/-- The page query and the count query of a dialect with what the fragments bind. -/
def Criteria.assemble (c : Criteria) (d : Dialect) (w : Window)
    (filter having pageFilter : List Value) : Sql × Sql :=
  let page := d.pageQuery c
  let count := d.countQuery c
  let (offset, rows) := d.rangeParams w
  (⟨page.text,
      page.leading ++ filter ++ having ++ [offset, rows] ++ page.trailing ++ pageFilter⟩,
    ⟨count.text, count.params ++ filter ++ having⟩)

/-- A database that there is a dialect for. -/
inductive DialectKind where
  | sqlite
  | postgresql
  | mysql
  deriving DecidableEq, Inhabited

namespace DialectKind

def name : DialectKind → String
  | sqlite => "sqlite"
  | postgresql => "postgresql"
  | mysql => "mysql"

def dialect : DialectKind → Dialect
  | sqlite => .sqlite
  | postgresql => .postgresql
  | mysql => .mysql

/-- The database of a name, which may have blanks around it and ASCII capitals
in it. -/
def parse (s : String) : Except Error DialectKind :=
  let name := Text.asciiLowercase (Text.trim s)
  if name ∈ ["sqlite", "sqlite3"] then .ok sqlite
  else if name ∈ ["postgresql", "postgres", "pg"] then .ok postgresql
  else if name ∈ ["mysql", "mariadb"] then .ok mysql
  else .error (.unknownDialect name)

end DialectKind

end SqlPlan
