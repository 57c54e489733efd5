import SqlPlan.Paging
import SqlPlan.Proofs.Entity.Closed

/-!
# SqlPlan — the two queries of a page, part by part

* `Criteria.pageQuery_eq`, `countQuery_eq` — the queries of a page and what they
  bind;
* `Criteria.EndOutside` — fragments that end outside quotes and comments;
* `Criteria.EndOutside.pageQuery`, `EndOutside.countQuery` — of such fragments
  the queries are made so that every placeholder of a part is one of the whole.

A fragment may end in a `-`, which a `-` after it would make a comment of. The
closing bracket of its clause, or the blank that the next clause begins with,
stands between the two.
-/

namespace SqlPlan.Criteria

-- ---------------------------------------------------------------------------
-- Equations
-- ---------------------------------------------------------------------------

/-- The text of a page query before the joins of its rows. -/
def head (c : Criteria) (range : String) : String :=
  "SELECT " ++ c.tree.selectList ++ " FROM (" ++
    (c.idQuery c.tree.fromClause.text true ++ c.orderClause ++ " " ++ range) ++
    ") page_ids INNER JOIN " ++ c.tree.root.entity.table ++ " " ++ c.tree.root.tableAlias ++
    " ON " ++ c.rootKey ++ " = page_ids." ++ c.rootLabel

/-- A page query is its head with the joins, the page filter and the order after it. -/
theorem pageQuery_eq (c : Criteria) (range : String) :
    c.pageQuery range =
      ⟨Tree.followedBy (c.head range) c.tree.joins.text ++ clause " WHERE (" c.pageFilter ")" ++
        c.orderClause, c.tree.fromClause.params, c.tree.joins.params⟩ := rfl

/-- A count query stands around the query for the primary keys. -/
theorem countQuery_eq (c : Criteria) :
    c.countQuery =
      ⟨"SELECT COUNT(*) FROM (" ++ c.idQuery c.tree.fromClause.text false ++ ") count_ids",
        c.tree.fromClause.params⟩ := rfl

-- ---------------------------------------------------------------------------
-- Placeholders
-- ---------------------------------------------------------------------------

/-- The fragments end outside quotes and comments, with so many placeholders;
the names that stand between them are closed and have none. -/
structure EndOutside (c : Criteria) (filter having order pageFilter : Nat) : Prop where
  nodes      : ∀ n ∈ c.tree.nodes, n.IsClosed
  columns    : ∀ x ∈ c.columns, Closed x 0
  grouping   : ∀ columns x, c.grouping = some columns → x ∈ columns → Closed x 0
  filter     : EndsOutside c.filter filter
  having     : EndsOutside c.having having
  order      : EndsOutside c.order order
  pageFilter : EndsOutside c.pageFilter pageFilter

/-- A clause in brackets ends in code. -/
theorem endsInCode_clause {opening fragment closing : String} {n : Nat}
    (hOpening : EndsInCode opening 0) (hFragment : EndsOutside fragment n)
    (hClosing : EndsInCode closing 0) (hFresh : startsFresh closing = true)
    (hText : closing ≠ "") : EndsInCode (clause opening fragment closing) n := by
  unfold clause
  split
  · rename_i hEmpty
    rw [hEmpty] at hFragment
    exact EndsInCode.empty.of_eq hFragment.count
  · exact ((hOpening.append_outside hFragment).append_code hClosing hFresh hText).of_eq (by omega)

/-- A clause without brackets ends as its fragment does. -/
theorem endsOutside_clause {opening fragment : String} {n : Nat}
    (hOpening : EndsInCode opening 0) (hFragment : EndsOutside fragment n) :
    EndsOutside (clause opening fragment "") n := by
  unfold clause
  split
  · rename_i hEmpty
    rw [hEmpty] at hFragment
    exact EndsInCode.empty.endsOutside.of_eq hFragment.count
  · rw [String.append_empty]
    exact (hOpening.append_outside hFragment).of_eq (by omega)

/-- A clause begins as its opening word does, also when it is left out. -/
theorem startsFresh_clause {opening : String} (hFresh : startsFresh opening = true)
    (hText : opening ≠ "") (fragment closing : String) :
    startsFresh (clause opening fragment closing) = true := by
  unfold clause
  split
  · rfl
  · rw [String.append_assoc]
    exact startsFresh_append hFresh hText _

namespace EndOutside

variable {c : Criteria} {filter having order pageFilter : Nat}

theorem root (h : c.EndOutside filter having order pageFilter) : c.tree.root.IsClosed :=
  h.nodes _ (List.mem_cons_self ..)

theorem rootKey (h : c.EndOutside filter having order pageFilter) : Closed c.rootKey 0 :=
  h.root.qualified h.root.primaryKey

theorem rootLabel (h : c.EndOutside filter having order pageFilter) : Closed c.rootLabel 0 :=
  h.root.label h.root.primaryKey

/-- The columns of the inner query hold no placeholder. -/
theorem projection (h : c.EndOutside filter having order pageFilter) (withColumns : Bool) :
    Closed (c.projection withColumns) 0 := by
  have hAs : Closed " AS " 0 := by decide
  refine Closed.intercalate_zero (by decide) fun x hx => ?_
  rcases List.mem_cons.mp hx with rfl | hColumn
  · exact (h.rootKey.append hAs).append h.rootLabel
  · cases withColumns with
    | false => simp at hColumn
    | true => exact h.columns x hColumn

theorem groupClause (h : c.EndOutside filter having order pageFilter) :
    Closed c.groupClause 0 := by
  unfold Criteria.groupClause
  cases hGrouping : c.grouping with
  | none => exact Closed.empty
  | some columns =>
    have hBy : Closed " GROUP BY " 0 := by decide
    refine hBy.append (Closed.intercalate_zero (by decide) fun x hx => ?_)
    rcases List.mem_cons.mp hx with rfl | hColumn
    · exact h.rootKey
    · exact h.grouping columns x hGrouping hColumn

/-- The inner query has the placeholders of the joins, the main filter and the
condition on groups. -/
theorem idQuery (h : c.EndOutside filter having order pageFilter) (withColumns : Bool) :
    EndsOutside (c.idQuery c.tree.fromClause.text withColumns)
      (c.tree.joins.params.length + filter + having) := by
  have hDistinct : EndsInCode (if c.grouping.isSome then "" else "DISTINCT ") 0 := by
    split <;> decide
  have hSelect : EndsInCode "SELECT " 0 := by decide
  have hSpace : EndsInCode " " 0 := by decide
  have hFrom : EndsInCode c.tree.fromClause.text c.tree.joins.params.length :=
    (Tree.closed_fromClause h.nodes).toEndsInCode
  have hFilter : EndsInCode (clause " WHERE (" c.filter ")") filter :=
    endsInCode_clause (by decide) h.filter (by decide) (by decide) (by decide)
  have hHaving : EndsOutside (clause " HAVING " c.having "") having :=
    endsOutside_clause (by decide) h.having
  -- up to the filter everything ends in code, so the clauses may begin as they do
  have hHead := (((hSelect.append hDistinct).append (h.projection withColumns).toEndsInCode).append
    hSpace).append hFrom
  exact (((hHead.append hFilter).append h.groupClause.toEndsInCode).append_outside
    hHaving).of_eq (by omega)

/-- The order ends outside, wherever it is written. -/
theorem orderClause (h : c.EndOutside filter having order pageFilter) :
    EndsOutside c.orderClause order ∧ startsFresh c.orderClause = true :=
  ⟨endsOutside_clause (by decide) h.order, startsFresh_clause (by decide) (by decide) _ _⟩

/-- The count query has the placeholders of its inner query. -/
theorem countQuery (h : c.EndOutside filter having order pageFilter) :
    EndsInCode c.countQuery.text (c.tree.joins.params.length + filter + having) := by
  have hOpening : EndsInCode "SELECT COUNT(*) FROM (" 0 := by decide
  have hClosing : EndsInCode ") count_ids" 0 := by decide
  exact ((hOpening.append_outside (h.idQuery false)).append_code hClosing (by decide)
    (by decide)).of_eq (by omega)

/-- Before the joins of its rows, a page query has the placeholders of its
inner query, of its order and of its range. -/
theorem head (h : c.EndOutside filter having order pageFilter) {range : String}
    (hRange : EndsInCode range 2) :
    EndsInCode (c.head range) (c.tree.joins.params.length + filter + having + order + 2) := by
  obtain ⟨hOrder, hFresh⟩ := h.orderClause
  have hSelect : EndsInCode "SELECT " 0 := by decide
  have hFrom : EndsInCode " FROM (" 0 := by decide
  have hSpace : EndsInCode " " 0 := by decide
  have hJoin : EndsInCode ") page_ids INNER JOIN " 0 := by decide
  have hOn : EndsInCode " ON " 0 := by decide
  have hIds : EndsInCode " = page_ids." 0 := by decide
  -- the space behind the order closes what its fragment may have left open
  have hInner := (((h.idQuery true).append hOrder hFresh).append_code hSpace (by decide)
    (by decide)).append hRange
  have hOpening := (hSelect.append (Tree.closed_selectList h.nodes).toEndsInCode).append hFrom
  have hTable := (((hOpening.append hInner).append hJoin).append
    h.root.table.toEndsInCode).append hSpace |>.append h.root.tableAlias.toEndsInCode
  exact ((((hTable.append hOn).append h.rootKey.toEndsInCode).append hIds).append
    h.rootLabel.toEndsInCode).of_eq (by omega)

/-- A page query has the placeholders of everything that is written in it; the
joins and the order are written twice. -/
theorem pageQuery (h : c.EndOutside filter having order pageFilter) {range : String}
    (hRange : EndsInCode range 2) :
    EndsOutside (c.pageQuery range).text
      (c.tree.joins.params.length + filter + having + order + 2 + c.tree.joins.params.length +
        pageFilter + order) := by
  obtain ⟨hOrder, hFresh⟩ := h.orderClause
  obtain ⟨joins, hJoins, hText⟩ := Tree.exists_rest_followedBy (Tree.closed_joins h.nodes)
  have hPageFilter : EndsInCode (clause " WHERE (" c.pageFilter ")") pageFilter :=
    endsInCode_clause (by decide) h.pageFilter (by decide) (by decide) (by decide)
  rw [pageQuery_eq, hText]
  exact (((h.head hRange).append hJoins.toEndsInCode).append hPageFilter).append_outside hOrder

end EndOutside

end SqlPlan.Criteria
