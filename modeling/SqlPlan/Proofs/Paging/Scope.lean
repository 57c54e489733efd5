import SqlPlan.Proofs.Dialect
import SqlPlan.Proofs.Entity.Chain
import SqlPlan.Proofs.Paging

/-!
# SqlPlan — the names in scope of a page

A page query selects from a derived table of primary keys, onto which the table
of the root and all joins are joined back. The derived table has a name of its
own, which stands in one scope with the aliases of the joined nodes:

* `Criteria.pageItems` — the items of the outer FROM clause;
* `Criteria.pageQuery_text` — the query around them;
* `Criteria.map_tableAlias_pageItems` — the names that they bring in.

When a definition is accepted its aliases are compared with one another but not
with the name of the derived table. So an entity may be called `page_ids` too,
and then `page_ids` stands for two tables of the page.
-/

namespace SqlPlan

namespace Criteria

/-- The derived table of the primary keys, limited to a range. -/
def idItem (c : Criteria) (range : String) : FromItem :=
  { keyword := "FROM"
    table := "(" ++ (c.idQuery c.tree.fromClause.text true ++ c.orderClause ++ " " ++ range) ++ ")"
    tableAlias := "page_ids"
    condition := "" }

/-- The table of the root, joined back onto its primary keys. -/
def rowItem (c : Criteria) : FromItem :=
  { keyword := "INNER JOIN"
    table := c.tree.root.entity.table
    tableAlias := c.tree.root.tableAlias
    condition := " ON " ++ c.rootKey ++ " = page_ids." ++ c.rootLabel }

/-- The items of the outer FROM clause of a page, in their order. -/
def pageItems (c : Criteria) (range : String) : List FromItem :=
  c.idItem range :: c.rowItem :: c.tree.joinItems

/-- The text before the joins of the rows ends in the first two items. -/
theorem head_eq (c : Criteria) (range : String) :
    c.head range = "SELECT " ++ c.tree.selectList ++ " " ++
      ((c.idItem range).text ++ " " ++ c.rowItem.text) := by
  have hFrom : " FROM (" = " " ++ ("FROM" ++ (" " ++ "(")) := by decide
  have hJoin : ") page_ids INNER JOIN " =
      ")" ++ (" " ++ ("page_ids" ++ ("" ++ (" " ++ ("INNER JOIN" ++ " "))))) := by decide
  unfold head idItem rowItem FromItem.text
  simp only [hFrom, hJoin, String.append_assoc]

/-- A page query selects from its items. -/
theorem pageQuery_text (c : Criteria) (range : String) :
    (c.pageQuery range).text = "SELECT " ++ c.tree.selectList ++ " " ++
      " ".intercalate ((c.pageItems range).map FromItem.text) ++
      clause " WHERE (" c.pageFilter ")" ++ c.orderClause := by
  have hItems : " ".intercalate ((c.pageItems range).map FromItem.text) =
      " ".intercalate ((((c.idItem range).text ++ " " ++ c.rowItem.text)) ::
        c.tree.joinItems.map FromItem.text) := by
    rw [pageItems, List.map_cons, List.map_cons, String.intercalate_cons_cons,
      String.intercalate_cons_append]
  rw [pageQuery_eq, Tree.text_joins, Tree.followedBy_intercalate, head_eq,
    String.intercalate_cons_append, hItems]

/-- The items bring in the derived table and the joined nodes. -/
theorem map_tableAlias_pageItems {definition : Definition} {separator : String} {c : Criteria}
    (h : Tree.ofDefinition definition separator = .ok c.tree) (range : String) :
    (c.pageItems range).map FromItem.tableAlias =
      "page_ids" :: c.tree.joinedNodes.map Node.tableAlias := by
  rw [← Tree.map_tableAlias_fromItems h]
  rfl

/--
**The names in scope of a page are distinct but for one.** As it is usually
built, its query selects from a derived table named `page_ids` and from the joined
nodes under their aliases. All these names are distinct exactly if no joined node is called
`page_ids`. The alias of a joined node stands for one table, or else for two if
it is this one.
-/
theorem nodup_pageItems_iff {definition : Definition} {separator : String} {c : Criteria}
    (h : Tree.ofDefinition definition separator = .ok c.tree) {d : Dialect}
    (hd : d.UsesDefaults) :
    (d.pageQuery c).text = "SELECT " ++ c.tree.selectList ++ " " ++
      " ".intercalate ((c.pageItems d.range).map FromItem.text) ++
      clause " WHERE (" c.pageFilter ")" ++ c.orderClause ∧
    (c.pageItems d.range).map FromItem.tableAlias =
      "page_ids" :: c.tree.joinedNodes.map Node.tableAlias ∧
    (((c.pageItems d.range).map FromItem.tableAlias).Nodup ↔
      ∀ n ∈ c.tree.joinedNodes, n.tableAlias ≠ "page_ids") ∧
    ∀ n ∈ c.tree.joinedNodes,
      ((c.pageItems d.range).map FromItem.tableAlias).count n.tableAlias =
      if n.tableAlias = "page_ids" then 2 else 1 := by
  have hNodup := Tree.nodup_tableAlias_joinedNodes h
  have hNames := map_tableAlias_pageItems h d.range
  rw [hd.pageQuery]
  refine ⟨c.pageQuery_text d.range, hNames, ?_, fun n hn => ?_⟩
  · rw [hNames, List.nodup_cons, List.mem_map]
    constructor
    · rintro ⟨hNew, -⟩ n hn hSame
      exact hNew ⟨n, hn, hSame⟩
    · intro hNew
      exact ⟨fun ⟨n, hn, hSame⟩ => hNew n hn hSame, hNodup⟩
  -- each alias stands once in the tree, and the derived table adds its own
  · have hOnce := List.count_eq_one_of_mem hNodup (List.mem_map_of_mem hn)
    rw [hNames, List.count_cons, hOnce]
    by_cases hSame : n.tableAlias = "page_ids"
    · simp [hSame]
    · simp [hSame, Ne.symm hSame]

/-- A page of orders, whatever there is to filter and to order by. -/
def ordersPage : Criteria := { tree := .orders (.int 7), filter := "o.total > ?", order := "o.id" }

/-- Orders with their lines use no alias of the page's own. -/
theorem nodup_pageItems_orders :
    Tree.ofDefinition (.orders (.int 7)) "_" = .ok ordersPage.tree ∧
    (∀ n ∈ ordersPage.tree.joinedNodes, n.tableAlias ≠ "page_ids") ∧
    DialectKind.sqlite.dialect.UsesDefaults ∧
    ((ordersPage.pageItems DialectKind.sqlite.dialect.range).map FromItem.tableAlias).Nodup := by
  have ht : Tree.ofDefinition (.orders (.int 7)) "_" = .ok ordersPage.tree := rfl
  have hNames : ∀ n ∈ ordersPage.tree.joinedNodes, n.tableAlias ≠ "page_ids" := by
    intro n hn
    have hAlias : n.tableAlias ∈ ordersPage.tree.joinedNodes.map Node.tableAlias :=
      List.mem_map_of_mem hn
    have hList : ordersPage.tree.joinedNodes.map Node.tableAlias = ["o", "l"] := rfl
    rw [hList] at hAlias
    rintro hSame
    rw [hSame] at hAlias
    exact absurd hAlias (by decide)
  have hDialect := DialectKind.sqlite.usesDefaults
  exact ⟨ht, hNames, hDialect, (nodup_pageItems_iff ht hDialect).2.2.1.mpr hNames⟩

/-- A page of orders that are called like their primary keys. -/
def pageIdsPage : Criteria :=
  { tree := ⟨.ofDefinition "_" none 0 (.of "Order" "orders" "page_ids"), []⟩ }

/-- The derived table and the table of the orders have the same name. -/
theorem not_nodup_pageItems_pageIds :
    Tree.ofDefinition (.of "Order" "orders" "page_ids") "_" = .ok pageIdsPage.tree ∧
    (DialectKind.sqlite.dialect.pageQuery pageIdsPage).text =
      "SELECT page_ids.id AS page_ids_id FROM (SELECT DISTINCT page_ids.id AS page_ids_id " ++
        "FROM orders page_ids LIMIT ?, ?) page_ids INNER JOIN orders page_ids " ++
        "ON page_ids.id = page_ids.page_ids_id" ∧
    ¬ ((pageIdsPage.pageItems DialectKind.sqlite.dialect.range).map FromItem.tableAlias).Nodup := by
  refine ⟨rfl, by decide +kernel, ?_⟩
  show ¬ ["page_ids", "page_ids"].Nodup
  decide

end Criteria

end SqlPlan
