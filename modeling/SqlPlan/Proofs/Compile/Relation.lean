import SqlPlan.Proofs.Compile.Parameters
import SqlPlan.Proofs.Compile.Written
import SqlPlan.Proofs.Paging.Scope

/-!
# SqlPlan — the relation of a page and its count

A page and its count are made of the same fragments, each query by itself. What
the one takes its rows from and the other counts is the same text all the same:

* `Criteria.keys`, `Criteria.relation` — what the inner query selects and what it
  selects from;
* `Criteria.idQuery_eq`, `text_idItem` — the inner query is made of these two, and
  so is the derived table;
* `Criteria.countQuery_text`, `pageQuery_eq_keys` — the queries around them;
* `criteriaOf` — the fragments of a page, said without a walk, and
  `criteria_reading`, which says that a walk ends with them.
-/

namespace SqlPlan

namespace Criteria

/-- What an inner query selects, up to the further columns. -/
def keys (c : Criteria) : String :=
  "SELECT " ++ (if c.grouping.isSome then "" else "DISTINCT ") ++ c.rootKey ++ " AS " ++ c.rootLabel

/-- What an inner query selects from: the tables with the main filter, the
grouping and the condition on groups. -/
def relation (c : Criteria) : String :=
  " " ++ c.tree.fromClause.text ++ clause " WHERE (" c.filter ")" ++ c.groupClause ++
    clause " HAVING " c.having ""

/-- What follows the derived table in a page query, up to the order: the tables
that are joined back onto it, and the filter on their rows. -/
def rows (c : Criteria) : String :=
  " ".intercalate ((c.rowItem :: c.tree.joinItems).map FromItem.text) ++
    clause " WHERE (" c.pageFilter ")"

/-- An inner query selects its keys, and further columns, from its relation. -/
theorem idQuery_eq (c : Criteria) (withColumns : Bool) :
    c.idQuery c.tree.fromClause.text withColumns =
      ", ".intercalate (c.keys :: if withColumns then c.columns else []) ++ c.relation := by
  have hKeys : c.keys =
      "SELECT " ++ ((if c.grouping.isSome then "" else "DISTINCT ") ++
        (c.rootKey ++ " AS " ++ c.rootLabel)) := by
    unfold keys
    simp only [String.append_assoc]
  rw [hKeys, String.intercalate_cons_append, String.intercalate_cons_append]
  unfold idQuery projection relation
  simp only [String.append_assoc]

/-- A count query counts the keys of its relation. -/
theorem countQuery_text (c : Criteria) :
    c.countQuery.text = "SELECT COUNT(*) FROM (" ++ (c.keys ++ c.relation) ++ ") count_ids" := by
  have hIds : c.idQuery c.tree.fromClause.text false = c.keys ++ c.relation := by
    rw [idQuery_eq, if_neg Bool.false_ne_true, String.intercalate_singleton]
  rw [← hIds]
  rfl

/-- The derived table is made of the same relation. -/
theorem text_idItem (c : Criteria) (range : String) :
    (c.idItem range).text = "FROM (" ++
      (", ".intercalate (c.keys :: c.columns) ++ c.relation ++ c.orderClause ++ " " ++ range) ++
      ") page_ids" := by
  have hFrom : "FROM (" = "FROM" ++ (" " ++ "(") := by decide
  have hAlias : ") page_ids" = ")" ++ (" " ++ "page_ids") := by decide
  unfold idItem FromItem.text
  simp only [idQuery_eq, if_true, hFrom, hAlias, String.append_assoc, String.append_empty]

/-- The order stands in a clause of its own, if there is one. -/
theorem orderClause_eq (c : Criteria) :
    c.orderClause = if c.order = "" then "" else " ORDER BY " ++ c.order := by
  rw [orderClause, clause, String.append_empty]

/-- A page query selects from the derived table and the tables joined back onto it. -/
theorem pageQuery_eq_keys (c : Criteria) (range : String) :
    (c.pageQuery range).text =
      "SELECT " ++ c.tree.selectList ++ " FROM (" ++
        (", ".intercalate (c.keys :: c.columns) ++ c.relation ++ c.orderClause ++ " " ++ range) ++
        ") page_ids " ++ c.rows ++ c.orderClause := by
  have hFrom : " FROM (" = " " ++ "FROM (" := by decide
  have hIds : ") page_ids " = ") page_ids" ++ " " := by decide
  rw [pageQuery_text, pageItems, List.map_cons, List.map_cons, String.intercalate_cons_cons,
    text_idItem, rows, List.map_cons, hFrom, hIds]
  simp only [String.append_assoc]

end Criteria

-- ---------------------------------------------------------------------------
-- Pages that compile
-- ---------------------------------------------------------------------------

/-- The fragments of the page that instructions spell. -/
def criteriaOf (t : Tree) (d : Dialect) (is : List Instruction) : Criteria where
  tree := t
  columns := is.flatMap Instruction.columns
  filter := Text.trim (writtenTo t d .main is)
  grouping := groupingOf is
  having := Text.trim (writtenTo t d .having is)
  order := Text.trim (writtenTo t d .order is)
  pageFilter := Text.trim (writtenTo t d .secondary is)

section Pages

variable {t : Tree} {d : Dialect} {is : List Instruction}

/-- A walk has collected the fragments that its instructions spell. -/
theorem criteria_reading (t : Tree) (d : Dialect) (is : List Instruction) :
    (reading t d is).criteria t = criteriaOf t d is := by
  have hMain := text_reading t d is .main
  have hHaving := text_reading t d is .having
  have hOrder := text_reading t d is .order
  have hSecondary := text_reading t d is .secondary
  simp only [Accumulators.get] at hMain hHaving hOrder hSecondary
  rw [State.criteria, Criteria.trimmed, criteriaOf, hMain, hHaving, hOrder, hSecondary,
    reading_columns, reading_grouping]

/-- The queries of a page are made of the fragments that its instructions spell. -/
theorem texts_of_result (hd : d.UsesDefaults) {page count : Sql} {w : Window}
    (hResult : (reading t d is).result t d = .paged page count w) :
    page.text = ((criteriaOf t d is).pageQuery d.range).text ∧
      count.text = (criteriaOf t d is).countQuery.text := by
  rw [State.result, criteria_reading] at hResult
  cases hWindow : (reading t d is).window with
  | none => simp [hWindow] at hResult
  | some w' =>
    simp only [hWindow, Compiled.paged.injEq] at hResult
    obtain ⟨rfl, rfl, -⟩ := hResult
    rw [← hd.pageQuery, ← hd.countQuery]
    exact ⟨rfl, rfl⟩

/-- A page and its count name their keys as distinct unless they group. -/
theorem keys_criteriaOf (t : Tree) (d : Dialect) (is : List Instruction) :
    ((∃ columns, .pagedUseGroupBy columns ∈ is) →
      (criteriaOf t d is).keys = "SELECT " ++ t.root.qualified t.root.entity.primaryKey ++
        " AS " ++ t.root.label t.root.entity.primaryKey) ∧
    ((¬ ∃ columns, .pagedUseGroupBy columns ∈ is) →
      (criteriaOf t d is).keys = "SELECT DISTINCT " ++
        t.root.qualified t.root.entity.primaryKey ++
        " AS " ++ t.root.label t.root.entity.primaryKey) := by
  have hGrouping : (criteriaOf t d is).grouping = groupingOf is := rfl
  rw [← groupingOf_isSome_iff, Criteria.keys, hGrouping]
  refine ⟨fun hGroups => ?_, fun hGroups => ?_⟩
  · rw [if_pos hGroups, String.append_empty]
    rfl
  · rw [if_neg hGroups]
    rfl

/--
**A count counts what its page pages.** Where a dialect builds both as usual, as
every database does, they select the primary key, as distinct unless an
instruction groups, from one and the same relation: the tables with the main
filter, the grouping and the condition on groups. The page also selects the
columns that instructions add, puts the rows in an order, if there is one, and
takes a range of them; the order is that of the whole page query as well. What the
count binds the page binds first, then the range, the joins again and the filter on
its rows.
-/
theorem compile_counts_page (hd : d.UsesDefaults) {strict : Bool} {page count : Sql} {w : Window}
    (hc : compile t d strict is = .ok (.paged page count w)) :
    let c := criteriaOf t d is
    let order := Text.trim (writtenTo t d .order is)
    let orderBy := if order = "" then "" else " ORDER BY " ++ order
    ((∃ columns, .pagedUseGroupBy columns ∈ is) →
      c.keys = "SELECT " ++ c.rootKey ++ " AS " ++ c.rootLabel) ∧
    ((¬ ∃ columns, .pagedUseGroupBy columns ∈ is) →
      c.keys = "SELECT DISTINCT " ++ c.rootKey ++ " AS " ++ c.rootLabel) ∧
    count.text = "SELECT COUNT(*) FROM (" ++ (c.keys ++ c.relation) ++ ") count_ids" ∧
    page.text = "SELECT " ++ t.selectList ++ " FROM (" ++
      (", ".intercalate (c.keys :: is.flatMap Instruction.columns) ++ c.relation ++
        orderBy ++ " " ++ d.range) ++ ") page_ids " ++ c.rows ++ orderBy ∧
    count.params = t.joins.params ++ boundIn .main is ++ boundIn .having is ∧
    page.params = count.params ++ [(d.rangeParams w).1, (d.rangeParams w).2] ++
      t.joins.params ++ boundIn .secondary is := by
  obtain ⟨hFault, hFinish⟩ := compileLoose_eq_ok_iff.mp (compile_eq_ok_iff.mp hc).1
  have hResult := (State.eq_result_of_finish hFinish).symm
  obtain ⟨hPage, hCount⟩ := texts_of_result hd hResult
  obtain ⟨-, hCountParams, hPageParams⟩ := params_of_result hd hFault hResult
  obtain ⟨hGroups, hDistinct⟩ := keys_criteriaOf t d is
  rw [Criteria.pageQuery_eq_keys, Criteria.orderClause_eq] at hPage
  rw [Criteria.countQuery_text] at hCount
  exact ⟨hGroups, hDistinct, hCount, hPage, hCountParams, hPageParams⟩

end Pages

/-- Orders by their totals, with the lines of some quantity. -/
def ordersByTotal : List Instruction :=
  [.pagedInitialQuery ⟨0, 5⟩, .pagedUseGroupBy ["o.total"], .pagedMainWhere ["o.total"],
    .column "total" .asIs, .text " > ", .param (.int 7), .pagedMainOrderBy,
    .column "total" .asIs, .pagedSecondaryWhere, .sql ⟨"l.qty > ?", [.int 1]⟩]

/-- Grouped orders by their total, with a parameter in the join: both texts in
full. -/
theorem compile_counts_page_orders :
    Dialect.sqlite.UsesDefaults ∧ ∃ page count,
      compile (.orders (.int 3)) .sqlite false ordersByTotal = .ok (.paged page count ⟨0, 5⟩) ∧
      page.text = "SELECT o.id AS o_id, o.total AS o_total, l.id AS l_id " ++
        "FROM (SELECT o.id AS o_id, o.total FROM orders o " ++
        "LEFT JOIN lines l ON l.order_id = o.id AND (l.kind = ?) " ++
        "WHERE (o.total > ?) GROUP BY o.id, o.total ORDER BY o.total LIMIT ?, ?) page_ids " ++
        "INNER JOIN orders o ON o.id = page_ids.o_id " ++
        "LEFT JOIN lines l ON l.order_id = o.id AND (l.kind = ?) " ++
        "WHERE (l.qty > ?) ORDER BY o.total" ∧
      count.text = "SELECT COUNT(*) FROM (SELECT o.id AS o_id FROM orders o " ++
        "LEFT JOIN lines l ON l.order_id = o.id AND (l.kind = ?) " ++
        "WHERE (o.total > ?) GROUP BY o.id, o.total) count_ids" ∧
      page.params = count.params ++ [.int 0, .int 5] ++ [.int 3] ++ [.int 1] := by
  obtain ⟨page, count, hc⟩ : ∃ page count,
      compile (.orders (.int 3)) .sqlite false ordersByTotal =
        .ok (.paged page count ⟨0, 5⟩) := by
    rw [compile_eq]
    exact ⟨_, _, rfl⟩
  have hDialect : Dialect.sqlite.UsesDefaults := DialectKind.sqlite.usesDefaults
  obtain ⟨-, -, hCount, hPage, -, hParams⟩ := compile_counts_page hDialect hc
  refine ⟨hDialect, page, count, hc, hPage.trans ?_, hCount.trans ?_, hParams⟩
  · decide +kernel
  · decide +kernel

end SqlPlan
