import SqlPlan.Proofs.Entity.Listing
import SqlPlan.Proofs.Entity.Scope

/-!
# SqlPlan — the chain of joins

A FROM clause is read from left to right, and a join may only speak of tables
that stand before it. The joins of a tree are those of its joined nodes in the
order of their numbers, without a look at the tree that they make:

* `FromItem.IsJoin` — the join of a node to another, column by column;
* `Tree.Chained` — joins one after another, each to a table that is there;
* `Tree.mem_of_hangsOn` — what a joined node hangs on stands before it;
* `Tree.chained_joinItems` — so the joins of a tree are a chain;
* `Tree.count_tableAlias` — and a FROM clause names each joined node once.
-/

namespace SqlPlan

/-- The item joins a node to another one, on a column of each. -/
structure FromItem.IsJoin (i : FromItem) (n p : Node) (join : Join) : Prop where
  keyword    : i.keyword = join.kind.keyword
  table      : i.table = n.entity.table
  tableAlias : i.tableAlias = n.tableAlias
  condition  : i.condition = " ON " ++ n.tableAlias ++ "." ++ join.childColumn ++ " = " ++
    p.tableAlias ++ "." ++ join.parentColumn ++
      join.condition.elim "" fun x => " AND (" ++ Text.trim x ++ ")"

namespace Tree

/-- Joins of nodes, one for each, to their parents. The alias of a parent is known
when its child is joined. -/
inductive Chained (t : Tree) : (known : List String) → List Node → List FromItem → Prop
  | nil {known : List String} : Chained t known [] []
  | cons {known : List String} {n p : Node} {ns : List Node} {i : FromItem} {is : List FromItem}
      {join : Join} (link : n.link = some ⟨p.id, join⟩) (parent : t.node? p.id = some p)
      (before : p.tableAlias ∈ known) (item : i.IsJoin n p join)
      (rest : Chained t (known ++ [n.tableAlias]) ns is) : Chained t known (n :: ns) (i :: is)

variable {d : Definition} {separator : String} {t : Tree}

-- ---------------------------------------------------------------------------
-- Joins
-- ---------------------------------------------------------------------------

/-- What joins a node to its parent. -/
theorem exists_isJoin {n p : Node} {join : Join} (hLink : n.link = some ⟨p.id, join⟩)
    (hParent : t.node? p.id = some p) : ∃ i, t.joinItem? n = some i ∧ i.IsJoin n p join := by
  unfold joinItem?
  rw [hLink, Option.bind_eq_bind, Option.bind_some, Option.bind_eq_bind, hParent,
    Option.bind_some]
  exact ⟨_, rfl, rfl, rfl, rfl, by simp only [Node.qualified, String.append_assoc]⟩

/-- The numbers of the joined nodes ascend. -/
theorem pairwise_joinedNodes (h : ofDefinition d separator = .ok t) :
    t.joinedNodes.Pairwise fun m n => m.id < n.id := by
  have hIds : (t.joinedNodes.map Node.id).Pairwise (· < ·) := by
    refine List.Pairwise.sublist (List.filter_sublist.map Node.id) ?_
    rw [map_id_nodes h]
    exact List.pairwise_lt_range
  exact List.pairwise_map.mp hIds

/-- What a joined node hangs on is joined before it. -/
theorem mem_of_hangsOn (h : ofDefinition d separator = .ok t) {before after : List Node}
    {n p : Node} (hSplit : t.joinedNodes = before ++ n :: after)
    (hHangs : t.HangsOn separator n p) : p ∈ before := by
  have hn : n ∈ t.joinedNodes := by simp [hSplit]
  have hp : p ∈ t.joinedNodes :=
    List.mem_filter.mpr ⟨hHangs.mem, (hHangs.joined.mp (List.mem_filter.mp hn).2).2⟩
  have hOrder := pairwise_joinedNodes h
  rw [hSplit, List.pairwise_append, List.pairwise_cons] at hOrder
  rw [hSplit, List.mem_append, List.mem_cons] at hp
  have hLt := hHangs.lt
  rcases hp with hBefore | rfl | hAfter
  · exact hBefore
  · omega
  · have hGt := hOrder.2.1.1 p hAfter
    omega

/-- From any joined node on, the joins that follow are a chain. -/
theorem chained_joinItems (h : ofDefinition d separator = .ok t) {before after : List Node}
    (hSplit : t.joinedNodes = before ++ after) (hAfter : ∀ n ∈ after, n ∈ t.below) :
    t.Chained (before.map Node.tableAlias) after (after.filterMap t.joinItem?) := by
  induction after generalizing before with
  | nil => exact .nil
  | cons n rest ih =>
    obtain ⟨p, join, hHangs, -, hLink⟩ := exists_hangsOn_link h (hAfter n (List.mem_cons_self ..))
    have hParent := (numbered_of_ofDefinition h).own p hHangs.mem
    obtain ⟨i, hItem, hJoin⟩ := exists_isJoin hLink hParent
    have hNext : t.joinedNodes = (before ++ [n]) ++ rest := by
      rw [hSplit, List.append_assoc, List.singleton_append]
    have hRest := ih hNext fun m hm => hAfter m (List.mem_cons_of_mem _ hm)
    rw [List.map_append, List.map_singleton] at hRest
    rw [List.filterMap_cons_some hItem]
    exact .cons hLink hParent (List.mem_map_of_mem (mem_of_hangsOn h hSplit hHangs)) hJoin hRest

-- ---------------------------------------------------------------------------
-- Names
-- ---------------------------------------------------------------------------

/-- A FROM clause has one item under the alias of a joined node, and none under
that of another node. -/
theorem count_tableAlias (h : ofDefinition d separator = .ok t) {n : Node} (hn : n ∈ t.nodes) :
    (t.fromItems.map FromItem.tableAlias).count n.tableAlias = if n.joined then 1 else 0 := by
  have hMem : n.tableAlias ∈ t.joinedNodes.map Node.tableAlias ↔ n.joined = true := by
    constructor
    · intro hAlias
      obtain ⟨m, hm, hSame⟩ := List.mem_map.mp hAlias
      obtain ⟨hNode, hJoined⟩ := List.mem_filter.mp hm
      rwa [List.inj_on_of_nodup_map (nodup_tableAlias h) hNode hn hSame] at hJoined
    · intro hJoined
      exact List.mem_map_of_mem (List.mem_filter.mpr ⟨hn, hJoined⟩)
  rw [map_tableAlias_fromItems h, (nodup_tableAlias_joinedNodes h).count]
  simp only [hMem]

/--
**A FROM clause is a chain of joins to tables already in it.** It consists of the
table of the root and of one join for every other joined node, in pre-order;
each join equates a column of its own table with one of the parent, which is
there before it. Every joined node is named once and no other node is named. The
FROM clause, the joins and the whole query bind the same: what the joins with a
condition bind, one after another.
-/
theorem fromClause_chained (h : ofDefinition d separator = .ok t) :
    t.nodes.map Node.entity = d.preorder ∧
    (∃ joins : List FromItem,
      t.joins.text = " ".intercalate (joins.map FromItem.text) ∧
      t.fromClause.text = " ".intercalate ((t.rootItem :: joins).map FromItem.text) ∧
      t.Chained [t.root.tableAlias] (t.below.filter Node.joined) joins ∧
      ∀ n ∈ t.nodes, ((t.rootItem :: joins).map FromItem.tableAlias).count n.tableAlias =
        if n.joined then 1 else 0) ∧
    t.joins.params = t.joinedNodes.flatMap Node.joinParams ∧
    t.fromClause.params = t.joinedNodes.flatMap Node.joinParams ∧
    t.select.params = t.joinedNodes.flatMap Node.joinParams := by
  have hParams := params_joins_eq_flatMap h
  have hRoot : t.joinedNodes = [t.root] ++ t.below.filter Node.joined :=
    List.filter_cons_of_pos (joined_root h)
  have hItems : t.joinItems = (t.below.filter Node.joined).filterMap t.joinItem? := by
    rw [joinItems, hRoot, List.singleton_append, List.filterMap_cons_none (joinItem?_root h)]
  have hChain := chained_joinItems h hRoot fun n hn => (List.mem_filter.mp hn).1
  rw [← hItems] at hChain
  exact ⟨(lists_of_ofDefinition h).entities,
    ⟨_, t.text_joins, t.fromClause_text, hChain, fun n hn => count_tableAlias h hn⟩,
    hParams, hParams, hParams⟩

/-- Orders with their lines: two tables, one parameter. -/
theorem fromClause_chained_orders :
    ofDefinition (.orders (.int 7)) "_" = .ok (.orders (.int 7)) ∧
    (∃ joins, (orders (.int 7)).fromClause.text =
        " ".intercalate (((orders (.int 7)).rootItem :: joins).map FromItem.text) ∧
      (orders (.int 7)).Chained ["o"] ((orders (.int 7)).below.filter Node.joined) joins) ∧
    (orders (.int 7)).select.params = [.int 7] := by
  have ht := ofDefinition_orders (.int 7)
  obtain ⟨-, ⟨joins, -, hText, hChain, -⟩, -, -, hSelect⟩ := fromClause_chained ht
  exact ⟨ht, ⟨joins, hText, hChain⟩, hSelect⟩

end Tree

end SqlPlan
