import SqlPlan.Entity.Tree
import SqlPlan.Proofs.Sql.Closed

/-!
# SqlPlan — the SQL of a tree is closed

If the names of a tree are closed and the conditions of its joins bind what
they ask for, so does everything that is written for the tree:

* `Node.IsClosed` — what is asked of the names and the condition of a node;
* `Tree.closed_joins`, `closed_fromClause`, `closed_select` — the SQL of a tree
  is closed and has a placeholder for each of its parameters.
-/

namespace SqlPlan

-- ---------------------------------------------------------------------------
-- Nodes
-- ---------------------------------------------------------------------------

/-- Whatever a node may put into a query is closed. No name has a placeholder;
a condition, which is written trimmed, has one for each parameter of its join. -/
structure Node.IsClosed (n : Node) : Prop where
  table      : Closed n.entity.table 0
  tableAlias : Closed n.tableAlias 0
  primaryKey : Closed n.entity.primaryKey 0
  columns    : ∀ c ∈ n.entity.columns, Closed c 0
  separator  : Closed n.separator 0
  link       : ∀ l, n.link = some l →
    Closed l.join.parentColumn 0 ∧ Closed l.join.childColumn 0
  condition  : ∀ l x, n.joined = true → n.link = some l → l.join.condition = some x →
    Closed (Text.trim x) l.join.params.length

namespace Node.IsClosed

variable {n : Node}

/-- A qualified name holds no placeholder and opens nothing. -/
theorem qualified (h : n.IsClosed) {column : String} (hColumn : Closed column 0) :
    Closed (n.qualified column) 0 := by
  have hDot : Closed "." 0 := by decide
  exact (h.tableAlias.append hDot).append hColumn

theorem label (h : n.IsClosed) {column : String} (hColumn : Closed column 0) :
    Closed (n.label column) 0 :=
  (h.tableAlias.append h.separator).append hColumn

theorem projected (h : n.IsClosed) {column : String} (hColumn : column ∈ n.projected) :
    Closed column 0 := by
  rcases List.mem_cons.mp hColumn with rfl | hMem
  · exact h.primaryKey
  · exact h.columns column hMem

end Node.IsClosed

theorem JoinKind.closed_keyword (k : JoinKind) : Closed k.keyword 0 := by
  cases k <;> decide

-- ---------------------------------------------------------------------------
-- Trees
-- ---------------------------------------------------------------------------

namespace Tree

variable {t : Tree}

/-- The selected columns hold no placeholder. -/
theorem closed_selectList (h : ∀ n ∈ t.nodes, n.IsClosed) : Closed t.selectList 0 := by
  refine Closed.intercalate_zero (by decide) fun x hx => ?_
  obtain ⟨n, hn, hMem⟩ := List.mem_flatMap.mp hx
  obtain ⟨column, hColumn, rfl⟩ := List.mem_map.mp hMem
  have hNode := h n (List.mem_filter.mp hn).1
  have hClosed := hNode.projected hColumn
  have hAs : Closed " AS " 0 := by decide
  exact ((hNode.qualified hClosed).append hAs).append (hNode.label hClosed)

/-- A join holds as many placeholders as it binds values. -/
theorem closed_joinOf? (h : ∀ n ∈ t.nodes, n.IsClosed) {n : Node} (hn : n ∈ t.joinedNodes)
    {q : Sql} (hJoin : t.joinOf? n = some q) : Closed q.text q.params.length := by
  obtain ⟨hMem, hJoined⟩ := List.mem_filter.mp hn
  have hNode := h n hMem
  rw [joinOf?, Option.bind_eq_bind, Option.bind_eq_some_iff] at hJoin
  obtain ⟨l, hLink, hJoin⟩ := hJoin
  rw [Option.bind_eq_bind, Option.bind_eq_some_iff] at hJoin
  obtain ⟨p, hParent, hJoin⟩ := hJoin
  have hParentNode := h p (List.mem_of_getElem? hParent)
  obtain ⟨hParentColumn, hChildColumn⟩ := hNode.link l hLink
  have hSpace : Closed " " 0 := by decide
  have hOnWord : Closed " ON " 0 := by decide
  have hEquals : Closed " = " 0 := by decide
  -- kind, table, alias and the two columns, with the words between them
  have hOn := ((((((l.join.kind.closed_keyword.append hSpace).append hNode.table).append
    hSpace).append hNode.tableAlias).append hOnWord).append
    (hNode.qualified hChildColumn)).append hEquals |>.append
    (hParentNode.qualified hParentColumn)
  cases hCondition : l.join.condition with
  | none =>
    simp only [hCondition, Option.some.injEq] at hJoin
    rw [← hJoin]
    exact hOn
  | some x =>
    simp only [hCondition, Option.some.injEq] at hJoin
    rw [← hJoin]
    have hAnd : Closed " AND (" 0 := by decide
    have hClose : Closed ")" 0 := by decide
    have hText := hNode.condition l x hJoined hLink hCondition
    exact (((hOn.append hAnd).append hText).append hClose).of_eq (by simp)

/-- Joins have a placeholder for each of their parameters. -/
theorem closed_joins (h : ∀ n ∈ t.nodes, n.IsClosed) :
    Closed t.joins.text t.joins.params.length := by
  have hParts : ∀ q ∈ t.joinedNodes.filterMap t.joinOf?, Closed q.text q.params.length := by
    intro q hq
    obtain ⟨n, hn, hJoin⟩ := List.mem_filterMap.mp hq
    exact closed_joinOf? h hn hJoin
  have hSpace : Closed " " 0 := by decide
  exact Closed.intercalate hSpace hParts

/-- What is set after a text by a blank is closed together with the blank. -/
theorem exists_rest_followedBy {more : String} {n : Nat} (hMore : Closed more n) :
    ∃ rest, Closed rest n ∧ ∀ text, followedBy text more = text ++ rest := by
  by_cases hEmpty : more = ""
  · refine ⟨"", hEmpty ▸ hMore, fun text => ?_⟩
    rw [followedBy, if_pos hEmpty, String.append_empty]
  · have hSpace : Closed " " 0 := by decide
    refine ⟨" " ++ more, (hSpace.append hMore).of_eq (Nat.zero_add n), fun text => ?_⟩
    rw [followedBy, if_neg hEmpty, String.append_assoc]

/-- The FROM clause holds as many placeholders as it binds values. -/
theorem closed_fromClause (h : ∀ n ∈ t.nodes, n.IsClosed) :
    Closed t.fromClause.text t.fromClause.params.length := by
  have hRoot := h t.root (List.mem_cons_self ..)
  have hFrom : Closed "FROM " 0 := by decide
  have hSpace : Closed " " 0 := by decide
  have hTable := ((hFrom.append hRoot.table).append hSpace).append hRoot.tableAlias
  obtain ⟨rest, hRest, hText⟩ := exists_rest_followedBy (closed_joins h)
  rw [fromClause, hText]
  exact (hTable.append hRest).of_eq (Nat.zero_add _)

theorem closed_select (h : ∀ n ∈ t.nodes, n.IsClosed) :
    Closed t.select.text t.select.params.length := by
  have hSelect : Closed "SELECT " 0 := by decide
  have hSpace : Closed " " 0 := by decide
  have hHead := (hSelect.append (closed_selectList h)).append hSpace
  exact (hHead.append (closed_fromClause h)).of_eq (Nat.zero_add _)

/-- The query for a tree ends as its FROM clause does. -/
theorem endsInMark_trim_select (h : ∀ n ∈ t.nodes, n.IsClosed) :
    EndsInMark (Text.trim t.select.text) ↔ EndsInMark (Text.trim t.fromClause.text) := by
  have hSelect : Closed "SELECT " 0 := by decide
  have hSpace : Closed " " 0 := by decide
  have hHead := ((hSelect.append (closed_selectList h)).append hSpace).toEndsInCode
  obtain ⟨rest, -, hText⟩ := exists_rest_followedBy (closed_joins h)
  have hFrom : 'F' ∈ t.fromClause.text.toList := by
    rw [fromClause, hText]
    simp
  rw [EndsInMark, EndsInMark, select, hHead.after_trim_append hFrom (by decide)]

end Tree

end SqlPlan
