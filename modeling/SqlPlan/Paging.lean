import SqlPlan.Entity.Tree

/-!
# SqlPlan — page queries and count queries

A page of the rows of a root entity is fetched by one query and counted by
another. The inner query of a page selects the primary keys of the page; the
whole tree is joined back onto them. The count query counts what the inner
query would page:

* `Criteria` — the fragments that make up both queries;
* `Criteria.idQuery` — the inner query;
* `Criteria.pageQuery`, `Criteria.countQuery` — the two queries as they are
  usually built, the first around a range clause.
-/

namespace SqlPlan

/-- The fragments of a paged query. An empty fragment leaves its clause out. -/
structure Criteria where
  tree : Tree
  /-- What the inner query selects besides the primary key. -/
  columns : List String := []
  /-- The filter on the rows that are paged. -/
  filter : String := ""
  /-- Grouping by the primary key and these columns, in place of DISTINCT. -/
  grouping : Option (List String) := none
  /-- The condition on groups. -/
  having : String := ""
  order : String := ""
  /-- The filter on the joined rows of the page. -/
  pageFilter : String := ""

/-- A page query. Its joins stand before the range and again after it. -/
structure PageQuery where
  text : String
  /-- What the joins before the range bind. -/
  leading : List Value
  /-- What the joins after the range bind. -/
  trailing : List Value

namespace Criteria

/-- The fragments without the blanks at their ends. -/
def trimmed (c : Criteria) : Criteria :=
  { c with
    filter := Text.trim c.filter
    having := Text.trim c.having
    order := Text.trim c.order
    pageFilter := Text.trim c.pageFilter }

/-- A clause, empty if its fragment is. -/
def clause (opening fragment closing : String) : String :=
  if fragment = "" then "" else opening ++ fragment ++ closing

/-- The primary key of the root. -/
def rootKey (c : Criteria) : String :=
  c.tree.root.qualified c.tree.root.entity.primaryKey

/-- The label of the primary key of the root. -/
def rootLabel (c : Criteria) : String :=
  c.tree.root.label c.tree.root.entity.primaryKey

/-- What a query for primary keys selects. -/
def projection (c : Criteria) (withColumns : Bool) : String :=
  ", ".intercalate
    ((c.rootKey ++ " AS " ++ c.rootLabel) :: (if withColumns then c.columns else []))

/-- The clause that groups, if the query groups. -/
def groupClause (c : Criteria) : String :=
  match c.grouping with
  | some columns => " GROUP BY " ++ ", ".intercalate (c.rootKey :: columns)
  | none => ""

/-- The query for the primary keys, over a given FROM clause. -/
def idQuery (c : Criteria) (fromText : String) (withColumns : Bool) : String :=
  "SELECT " ++ (if c.grouping.isSome then "" else "DISTINCT ") ++ c.projection withColumns ++
    " " ++ fromText ++ clause " WHERE (" c.filter ")" ++ c.groupClause ++
    clause " HAVING " c.having ""

def orderClause (c : Criteria) : String := clause " ORDER BY " c.order ""

/-- The query for the rows of a page, with the clause that limits it to a range. -/
def pageQuery (c : Criteria) (range : String) : PageQuery :=
  let root := c.tree.root
  let fromClause := c.tree.fromClause
  let joins := c.tree.joins
  let inner := c.idQuery fromClause.text true ++ c.orderClause ++ " " ++ range
  let head := "SELECT " ++ c.tree.selectList ++ " FROM (" ++ inner ++
    ") page_ids INNER JOIN " ++ root.entity.table ++ " " ++ root.tableAlias ++ " ON " ++
    c.rootKey ++ " = page_ids." ++ c.rootLabel
  { text := Tree.followedBy head joins.text ++ clause " WHERE (" c.pageFilter ")" ++
      c.orderClause
    leading := fromClause.params
    trailing := joins.params }

/-- The query for the number of rows that are paged. -/
def countQuery (c : Criteria) : Sql :=
  let fromClause := c.tree.fromClause
  ⟨"SELECT COUNT(*) FROM (" ++ c.idQuery fromClause.text false ++ ") count_ids",
    fromClause.params⟩

end Criteria

end SqlPlan
