import SqlPlan.Proofs.Entity.Acceptance

/-!
# SqlPlan — the names that a FROM clause introduces

The FROM clause of a tree is a list of items, each of which brings a table into
the query under an alias:

* `FromItem`, `Tree.fromItems` — the table of the root, and a join for every
  other joined node;
* `Tree.fromClause_text`, `text_joins` — they are what the clause consists of;
* `Tree.map_tableAlias_fromItems` — they bring in the joined nodes and nothing
  else;
* `Tree.IntroducesOnce` — an alias that one item brings in, and no other.
-/

namespace SqlPlan

/-- A table in a FROM clause. -/
structure FromItem where
  /-- `FROM`, or the type of a join. -/
  keyword    : String
  table      : String
  tableAlias : String
  /-- What the table is joined on; nothing if it comes first. -/
  condition  : String

def FromItem.text (i : FromItem) : String :=
  i.keyword ++ " " ++ i.table ++ " " ++ i.tableAlias ++ i.condition

namespace Tree

/-- The table that a FROM clause begins with. -/
def rootItem (t : Tree) : FromItem :=
  { keyword := "FROM", table := t.root.entity.table, tableAlias := t.root.tableAlias,
    condition := "" }

/-- The join that brings a node into a FROM clause. -/
def joinItem? (t : Tree) (n : Node) : Option FromItem := do
  let link ← n.link
  let parent ← t.node? link.parent
  let further := link.join.condition.elim "" fun x => " AND (" ++ Text.trim x ++ ")"
  some
    { keyword := link.join.kind.keyword, table := n.entity.table, tableAlias := n.tableAlias,
      condition := " ON " ++ n.qualified link.join.childColumn ++ " = " ++
        parent.qualified link.join.parentColumn ++ further }

/-- The joins that bring in the nodes below the root, in their order. -/
def joinItems (t : Tree) : List FromItem := t.joinedNodes.filterMap t.joinItem?

/-- The items of a FROM clause, in their order. -/
def fromItems (t : Tree) : List FromItem := t.rootItem :: t.joinedNodes.filterMap t.joinItem?

variable {t : Tree}

-- ---------------------------------------------------------------------------
-- The text of the items
-- ---------------------------------------------------------------------------

/-- The text of a join is that of its item. -/
theorem text_joinOf? (t : Tree) (n : Node) :
    (t.joinOf? n).map Sql.text = (t.joinItem? n).map FromItem.text := by
  unfold joinOf? joinItem?
  cases n.link with
  | none => rfl
  | some l =>
    cases hParent : t.node? l.parent with
    | none => simp [hParent]
    | some p =>
      cases hCondition : l.join.condition <;>
        simp [hParent, hCondition, FromItem.text, Sql.ofText, String.append_assoc]

theorem followedBy_intercalate (first : String) (items : List FromItem) :
    followedBy first (" ".intercalate (items.map FromItem.text)) =
      " ".intercalate (first :: items.map FromItem.text) := by
  cases items with
  | nil => simp [followedBy]
  | cons i rest =>
    -- no item is empty, for it has blanks in it
    have hText : " ".intercalate ((i :: rest).map FromItem.text) ≠ "" := by
      simp [FromItem.text, String.append_assoc]
    rw [followedBy, if_neg hText, List.map_cons, String.intercalate_cons_cons]

/-- The joins of a tree are the items after the first. -/
theorem text_joins (t : Tree) :
    t.joins.text = " ".intercalate (t.joinItems.map FromItem.text) := by
  have hParts : (t.joinedNodes.filterMap t.joinOf?).map Sql.text =
      t.joinItems.map FromItem.text := by
    rw [joinItems, List.map_filterMap, List.map_filterMap]
    exact List.filterMap_congr fun n _ => t.text_joinOf? n
  rw [joins, hParts]

/-- A FROM clause consists of its items. -/
theorem fromClause_text (t : Tree) :
    t.fromClause.text = " ".intercalate (t.fromItems.map FromItem.text) := by
  have hItems : t.fromItems = t.rootItem :: t.joinItems := rfl
  rw [fromClause, text_joins, followedBy_intercalate, hItems, List.map_cons]
  simp [rootItem, FromItem.text, String.append_assoc]

-- ---------------------------------------------------------------------------
-- The names in the items
-- ---------------------------------------------------------------------------

variable {d : Definition} {separator : String}

/-- A node below the root has a join that brings in its table. -/
theorem exists_joinItem (h : ofDefinition d separator = .ok t) {n : Node} (hn : n ∈ t.below) :
    ∃ i, t.joinItem? n = some i ∧ i.table = n.entity.table ∧ i.tableAlias = n.tableAlias := by
  obtain ⟨l, hLink⟩ := exists_link h hn
  obtain ⟨p, hParent⟩ := exists_parent h (List.mem_cons_of_mem _ hn) hLink
  simp [joinItem?, hLink, hParent]

theorem joinItem?_root (h : ofDefinition d separator = .ok t) : t.joinItem? t.root = none := by
  rw [root_eq h]
  rfl

/-- The items bring in the joined nodes, in their order. -/
theorem map_tableAlias_fromItems (h : ofDefinition d separator = .ok t) :
    t.fromItems.map FromItem.tableAlias = t.joinedNodes.map Node.tableAlias := by
  -- the root has no join: it is the item in front
  have hBelow : ∀ ns : List Node, (∀ n ∈ ns, n ∈ t.below) →
      (ns.filterMap t.joinItem?).map FromItem.tableAlias = ns.map Node.tableAlias := by
    intro ns hns
    induction ns with
    | nil => rfl
    | cons n rest ih =>
      obtain ⟨i, hItem, -, hAlias⟩ := exists_joinItem h (hns n (List.mem_cons_self ..))
      rw [List.filterMap_cons_some hItem, List.map_cons, List.map_cons, hAlias,
        ih fun m hm => hns m (List.mem_cons_of_mem _ hm)]
  rw [fromItems, joinedNodes, nodes, List.filter_cons_of_pos (joined_root h),
    List.filterMap_cons_none (joinItem?_root h), List.map_cons, List.map_cons,
    hBelow _ fun n hn => (List.mem_filter.mp hn).1]
  rfl

/-- The table of the root, or a join of the node, brings in its table under its
alias, and no other item of the FROM clause has that alias. -/
def IntroducesOnce (t : Tree) (n : Node) : Prop :=
  ∃ before item after, t.fromItems = before ++ item :: after ∧
    (n = t.root ∧ item = t.rootItem ∨ t.joinItem? n = some item) ∧
    item.table = n.entity.table ∧ item.tableAlias = n.tableAlias ∧
    ∀ other ∈ before ++ after, other.tableAlias ≠ n.tableAlias

/-- Every joined node is introduced once. -/
theorem introducesOnce (h : ofDefinition d separator = .ok t) {n : Node}
    (hn : n ∈ t.joinedNodes) : t.IntroducesOnce n := by
  have hNodup : (t.fromItems.map FromItem.tableAlias).Nodup := by
    rw [map_tableAlias_fromItems h]
    exact nodup_tableAlias_joinedNodes h
  obtain ⟨item, hItem, hOwn, hTable, hAlias⟩ : ∃ item ∈ t.fromItems,
      (n = t.root ∧ item = t.rootItem ∨ t.joinItem? n = some item) ∧
        item.table = n.entity.table ∧ item.tableAlias = n.tableAlias := by
    rcases List.mem_cons.mp (List.mem_filter.mp hn).1 with rfl | hBelow
    · exact ⟨t.rootItem, List.mem_cons_self .., Or.inl ⟨rfl, rfl⟩, rfl, rfl⟩
    · obtain ⟨i, hItem, hTable, hAlias⟩ := exists_joinItem h hBelow
      exact ⟨i, List.mem_cons_of_mem _ (List.mem_filterMap.mpr ⟨n, hn, hItem⟩), Or.inr hItem,
        hTable, hAlias⟩
  obtain ⟨before, after, hEq⟩ := List.append_of_mem hItem
  refine ⟨before, item, after, hEq, hOwn, hTable, hAlias, fun other hOther hSame => ?_⟩
  rw [hEq, List.map_append, List.map_cons] at hNodup
  -- a second item of this alias would repeat it among all aliases
  have hNew : item.tableAlias ∉ (before ++ after).map FromItem.tableAlias := by
    rw [List.map_append]
    exact (List.nodup_middle.mp hNodup).notMem
  exact hNew (List.mem_map.mpr ⟨other, hOther, hSame.trans hAlias.symm⟩)

end Tree

end SqlPlan
