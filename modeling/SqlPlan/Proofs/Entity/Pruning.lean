import SqlPlan.Proofs.Entity.Acceptance
import SqlPlan.Proofs.Entity.Path

/-!
# SqlPlan — leaving out what is fetched lazily

A definition may be pruned: lazy entities below its root are left out, together
with everything below them. The nodes of the pruned tree have other numbers, but
every joined node has its counterpart:

* `Definition.PrunedAll`, `Definition.Pruned` — what pruning is;
* `Definition.Pruned.isSound` — a pruned definition is accepted like the whole;
* `Tree.Counterpart` — nodes of the two trees that stand for the same entity;
* `Tree.resolve_pruned` — a path that resolves in the whole tree resolves in
  the pruned one, and leads to the counterpart there;
* `Tree.SameSql`, `sameSql_of_pruned` — both trees are written alike.

A path passes joined nodes only if it ends at one. So the first child that a
matcher selects on the way is not lazy, and leaving out lazy children before it
or after it does not change which child comes first.
-/

namespace SqlPlan

-- ---------------------------------------------------------------------------
-- Definitions
-- ---------------------------------------------------------------------------

namespace Definition

/-- Some lazy definitions have been left out of a list, or from below those
that are left in it. -/
inductive PrunedAll : List Definition → List Definition → Prop where
  | nil : PrunedAll [] []
  | leaveOut {d : Definition} {rest rest' : List Definition} (hLazy : d.entity.fetch = .lazy)
      (hRest : PrunedAll rest rest') : PrunedAll (d :: rest) rest'
  | keep {e : Entity} {children children' rest rest' : List Definition}
      (hChildren : PrunedAll children children') (hRest : PrunedAll rest rest') :
      PrunedAll (⟨e, children⟩ :: rest) (⟨e, children'⟩ :: rest')

/-- Some lazy definitions have been left out from below the root. -/
structure Pruned (d d' : Definition) : Prop where
  entity   : d'.entity = d.entity
  children : PrunedAll d.children d'.children

/-- Pruning drops entities from the pre-order and moves none. -/
theorem PrunedAll.sublist_preorders {ds ds' : List Definition} (h : PrunedAll ds ds') :
    (preorders ds').Sublist (preorders ds) := by
  induction h with
  | nil => exact List.Sublist.refl _
  | leaveOut hLazy hRest ih =>
    rw [preorders]
    exact ih.trans (List.sublist_append_right ..)
  | keep hChildren hRest ihChildren ihRest =>
    rw [preorders, preorders, preorder, preorder]
    exact (ihChildren.cons_cons _).append ihRest

/-- Leaving entities out causes no fault. -/
theorem Pruned.isSound {d d' : Definition} (h : d.Pruned d') (hSound : d.IsSound) :
    d'.IsSound := by
  have hBelow := h.children.sublist_preorders
  have hPreorder : ∀ d : Definition, d.preorder = d.entity :: preorders d.children := by
    rintro ⟨entity, children⟩
    rw [preorder]
  have hAll : d'.preorder.Sublist d.preorder := by
    rw [hPreorder, hPreorder, h.entity]
    exact hBelow.cons_cons _
  exact ⟨fun e he => hSound.named e (hAll.subset he), hSound.distinct.sublist (hAll.map _),
    fun e he => hSound.joins e (hBelow.subset he)⟩

end Definition

-- ---------------------------------------------------------------------------
-- Nodes that are not joined
-- ---------------------------------------------------------------------------

namespace Node

mutual

/-- Below a node that is not joined no node is. -/
theorem filter_joined_layout (separator : String) :
    ∀ (d : Definition) (p : Nat × Bool) (id : Nat), d.entity.fetch = .lazy ∨ p.2 = false →
      (layout separator (some p) id d).filter joined = []
  | ⟨entity, children⟩, p, id, h => by
    have hJoined : (ofDefinition separator (some p) id ⟨entity, children⟩).joined = false := by
      rcases h with hLazy | hAbove
      · change entity.fetch = .lazy at hLazy
        simp [ofDefinition, hLazy]
      · simp [ofDefinition, hAbove]
    rw [layout_eq, List.filter_cons_of_neg (by simp [hJoined]), hJoined]
    exact filter_joined_layouts separator children (id, false) (id + 1) rfl

/-- Below a node that is not joined, nothing is joined. -/
theorem filter_joined_layouts (separator : String) :
    ∀ (ds : List Definition) (p : Nat × Bool) (id : Nat), p.2 = false →
      (layouts separator p id ds).filter joined = []
  | [], _, _, _ => rfl
  | d :: rest, p, id, h => by
    rw [layouts, List.filter_append, filter_joined_layout separator d p id (Or.inr h),
      filter_joined_layouts separator rest p _ h]
    rfl

end

/-- A sibling is the root of the layout of one of the definitions. -/
theorem mem_siblings {separator : String} {p : Nat × Bool} {id : Nat} {ds : List Definition}
    {n : Node} (hn : n ∈ siblings separator p id ds) :
    ∃ d ∈ ds, n = ofDefinition separator (some p) n.id d := by
  induction ds generalizing id with
  | nil => simp [siblings] at hn
  | cons d rest ih =>
    rcases List.mem_cons.mp hn with rfl | hRest
    · exact ⟨d, List.mem_cons_self .., rfl⟩
    · obtain ⟨e, he, hNode⟩ := ih hRest
      exact ⟨e, List.mem_cons_of_mem _ he, hNode⟩

end Node

namespace Tree

variable {d d' : Definition} {separator : String} {t t' : Tree}

/-- A path comes to a joined node through joined nodes only. -/
theorem joined_of_step (h : ofDefinition d separator = .ok t) {n c : Node} (hn : n ∈ t.nodes)
    {m : Matcher} (hStep : t.step n m = .ok c) (hJoined : c.joined = true) : n.joined = true := by
  obtain ⟨parent, e, hStands⟩ := exists_standsFor h hn
  obtain ⟨-, hFind⟩ := step_eq_ok_iff.mp hStep
  rw [hStands.childrenOf] at hFind
  obtain ⟨below, -, hNode⟩ := Node.mem_siblings (List.mem_of_find?_eq_some hFind)
  rw [hNode] at hJoined
  exact (Bool.and_eq_true_iff.mp hJoined).2

/-- A walk that ends at a joined node has passed joined nodes only. -/
theorem joined_of_walk (h : ofDefinition d separator = .ok t) {n m : Node} (hn : n ∈ t.nodes)
    {matchers : List Matcher} (hWalk : t.walk n matchers = .ok m) (hJoined : m.joined = true) :
    n.joined = true := by
  induction matchers generalizing n with
  | nil => exact Except.ok.inj hWalk ▸ hJoined
  | cons matcher rest ih =>
    obtain ⟨next, hStep, hRest⟩ := walk_cons_eq_ok_iff.mp hWalk
    exact joined_of_step h hn hStep (ih (mem_nodes_of_step hStep) hRest)

-- ---------------------------------------------------------------------------
-- Counterparts
-- ---------------------------------------------------------------------------

/-- Nodes of two trees that stand for a definition and what is left of it. -/
structure Counterpart (t t' : Tree) (separator : String) (n n' : Node) : Prop where
  joined     : n'.joined = n.joined
  standsFor  : ∃ parent parent' d d', t.StandsFor separator parent n d ∧
    t'.StandsFor separator parent' n' d' ∧ d.Pruned d'

namespace Counterpart

variable {n n' : Node}

theorem entity (h : Counterpart t t' separator n n') : n'.entity = n.entity := by
  obtain ⟨parent, parent', e, e', hStands, hStands', hPruned⟩ := h.standsFor
  rw [hStands.entity, hStands'.entity, hPruned.entity]

theorem separator_eq (h : Counterpart t t' separator n n') : n'.separator = n.separator := by
  obtain ⟨parent, parent', e, e', hStands, hStands', hPruned⟩ := h.standsFor
  rw [hStands.separator_eq, hStands'.separator_eq, hPruned.entity]

end Counterpart

/-- A matcher looks at the entity of a node alone. -/
theorem selects_congr {n n' : Node} (h : n'.entity = n.entity) (m : Matcher) :
    m.selects n' = m.selects n := by
  have hAlias : n'.tableAlias = n.tableAlias := congrArg Entity.tableAlias h
  cases m <;> simp [Matcher.selects, h, hAlias]

/-- The first child that is selected has a counterpart that is selected first,
unless it is lazy. -/
theorem find_siblings_pruned {ds ds' : List Definition} (hPruned : Definition.PrunedAll ds ds')
    {p p' : Nat × Bool} (hJoined : p'.2 = p.2) {id id' : Nat}
    (h : t.HoldsAll separator p id ds) (h' : t'.HoldsAll separator p' id' ds') {m : Matcher}
    {c : Node} (hFind : (Node.siblings separator p id ds).find? m.selects = some c)
    (hc : c.joined = true) :
    ∃ c', (Node.siblings separator p' id' ds').find? m.selects = some c' ∧
      Counterpart t t' separator c c' := by
  induction hPruned generalizing id id' with
  | nil => simp [Node.siblings] at hFind
  | @leaveOut d rest rest' hLazy hRest ih =>
    rw [Node.siblings, List.find?_cons] at hFind
    split at hFind
    -- what is left out is lazy, so it is not the joined node that was found
    · rw [← Option.some.inj hFind] at hc
      simp [Node.ofDefinition, hLazy] at hc
    · exact ih h.tail h' hFind
  | @keep e children children' rest rest' hChildren hRest ihChildren ihRest =>
    rw [Node.siblings, List.find?_cons] at hFind ⊢
    have hSelects : m.selects (Node.ofDefinition separator (some p') id' ⟨e, children'⟩) =
        m.selects (Node.ofDefinition separator (some p) id ⟨e, children⟩) := selects_congr rfl m
    rw [hSelects]
    -- a definition that is kept is found in both lists or in neither
    cases hHead : m.selects (Node.ofDefinition separator (some p) id ⟨e, children⟩) with
    | true =>
      rw [hHead] at hFind
      obtain rfl := Option.some.inj hFind
      exact ⟨_, rfl, by simp [Node.ofDefinition, hJoined], some p, some p', ⟨e, children⟩,
        ⟨e, children'⟩, ⟨rfl, h.head⟩, ⟨rfl, h'.head⟩, rfl, hChildren⟩
    | false =>
      rw [hHead] at hFind
      exact ihRest h.tail h'.tail hFind

/-- A step to a joined node has its counterpart: nothing that was pruned stood
before it among the nodes that match. -/
theorem step_pruned {n n' : Node} (hCounterpart : Counterpart t t' separator n n') {m : Matcher}
    {c : Node} (hStep : t.step n m = .ok c) (hc : c.joined = true) :
    ∃ c', t'.step n' m = .ok c' ∧ Counterpart t t' separator c c' := by
  obtain ⟨parent, parent', e, e', hStands, hStands', hPruned⟩ := hCounterpart.standsFor
  obtain ⟨hRoot, hFind⟩ := step_eq_ok_iff.mp hStep
  rw [hStands.childrenOf] at hFind
  obtain ⟨c', hFind', hCounterpart'⟩ := find_siblings_pruned hPruned.children
    hCounterpart.joined hStands.holdsAll hStands'.holdsAll hFind hc
  rw [← hStands'.childrenOf] at hFind'
  exact ⟨c', step_eq_ok_iff.mpr ⟨hRoot, hFind'⟩, hCounterpart'⟩

/-- A walk to a joined node has its counterpart, step by step. -/
theorem walk_pruned (h : ofDefinition d separator = .ok t) {n n' m : Node} (hn : n ∈ t.nodes)
    (hCounterpart : Counterpart t t' separator n n') {matchers : List Matcher}
    (hWalk : t.walk n matchers = .ok m) (hm : m.joined = true) :
    ∃ m', t'.walk n' matchers = .ok m' ∧ Counterpart t t' separator m m' := by
  induction matchers generalizing n n' with
  | nil =>
    obtain rfl := Except.ok.inj hWalk
    exact ⟨n', rfl, hCounterpart⟩
  | cons matcher rest ih =>
    obtain ⟨next, hStep, hRest⟩ := walk_cons_eq_ok_iff.mp hWalk
    -- the path ends at a joined node, so every node on its way is joined
    have hNext := mem_nodes_of_step hStep
    have hJoined := joined_of_walk h hNext hRest hm
    obtain ⟨next', hStep', hCounterpart'⟩ := step_pruned hCounterpart hStep hJoined
    obtain ⟨m', hRest', hEnd⟩ := ih hNext hCounterpart' hRest
    exact ⟨m', walk_cons_eq_ok_iff.mpr ⟨next', hStep', hRest'⟩, hEnd⟩

/-- The roots of a tree and of a pruned one are counterparts. -/
theorem root_counterpart (h : ofDefinition d separator = .ok t)
    (h' : ofDefinition d' separator = .ok t') (hPruned : d.Pruned d') :
    Counterpart t t' separator t.root t'.root :=
  ⟨by rw [joined_root h, joined_root h'],
    none, none, d, d', root_standsFor h, root_standsFor h', hPruned⟩

/-- Where a path resolves, it resolves in the pruned tree as well. -/
theorem resolve_pruned (h : ofDefinition d separator = .ok t)
    (h' : ofDefinition d' separator = .ok t') (hPruned : d.Pruned d') {matchers : List Matcher}
    {n : Node} (hResolve : t.resolve matchers = .ok n) :
    ∃ n', t'.resolve matchers = .ok n' ∧ Counterpart t t' separator n n' := by
  have hCounterpart := root_counterpart h h' hPruned
  cases matchers with
  | nil =>
    obtain rfl := Except.ok.inj hResolve
    exact ⟨t'.root, rfl, hCounterpart⟩
  | cons matcher rest =>
    by_cases hRoot : matcher = .root
    · subst hRoot
      obtain rfl := Except.ok.inj hResolve
      exact ⟨t'.root, rfl, hCounterpart⟩
    · obtain ⟨hWalk, hJoined⟩ := (resolve_cons_eq_ok_iff hRoot).mp hResolve
      obtain ⟨n', hWalk', hEnd⟩ := walk_pruned h (List.mem_cons_self ..) hCounterpart hWalk hJoined
      exact ⟨n', (resolve_cons_eq_ok_iff hRoot).mpr ⟨hWalk', hEnd.joined.trans hJoined⟩, hEnd⟩

-- ---------------------------------------------------------------------------
-- The SQL of a pruned tree
-- ---------------------------------------------------------------------------

/-- What the SQL of a tree shows of a node. -/
def shown (t : Tree) (n : Node) : Entity × String × Option Sql :=
  (n.entity, n.separator, t.joinOf? n)

/-- A node is shown by its entity, that of its parent and the default separator,
whatever its number is. -/
theorem shown_ofDefinition (separator : String) (e : Entity) (children children' : List Definition)
    {p q : Node} (hParent : t.node? p.id = some p) (hParent' : t'.node? q.id = some q)
    (hEntity : q.entity = p.entity) (id id' : Nat) :
    t'.shown (Node.ofDefinition separator (some (q.id, q.joined)) id' ⟨e, children'⟩) =
      t.shown (Node.ofDefinition separator (some (p.id, p.joined)) id ⟨e, children⟩) := by
  have hQualified : q.qualified = p.qualified := by
    funext column
    rw [Node.qualified, Node.qualified, Node.tableAlias, Node.tableAlias, hEntity]
  have hJoin : t'.joinOf? (Node.ofDefinition separator (some (q.id, q.joined)) id'
        ⟨e, children'⟩) =
      t.joinOf? (Node.ofDefinition separator (some (p.id, p.joined)) id ⟨e, children⟩) := by
    unfold joinOf? Node.ofDefinition
    cases e.join with
    | none => rfl
    | some join =>
      simp only [Option.bind_eq_bind, Option.bind_some, hParent, hParent', hQualified]
      rfl
  rw [shown, shown, hJoin]
  rfl

/-- The joined nodes below two parents of the same entity are shown alike. -/
theorem shown_layouts {ds ds' : List Definition} (hPruned : Definition.PrunedAll ds ds')
    {p q : Node} {id id' : Nat} (h : t.HoldsAll separator (p.id, p.joined) id ds)
    (h' : t'.HoldsAll separator (q.id, q.joined) id' ds') (hParent : t.node? p.id = some p)
    (hParent' : t'.node? q.id = some q) (hEntity : q.entity = p.entity)
    (hJoined : q.joined = p.joined) :
    ((Node.layouts separator (q.id, q.joined) id' ds').filter Node.joined).map t'.shown =
      ((Node.layouts separator (p.id, p.joined) id ds).filter Node.joined).map t.shown := by
  induction hPruned generalizing p q id id' with
  | nil => rfl
  | @leaveOut d rest rest' hLazy hRest ih =>
    -- a lazy subtree has no joined nodes to lose
    rw [Node.layouts, List.filter_append, Node.filter_joined_layout _ _ _ _ (Or.inl hLazy),
      List.nil_append]
    exact ih h.tail h' hParent hParent' hEntity hJoined
  | @keep e children children' rest rest' hChildren hRest ihChildren ihRest =>
    have hHead := h.head
    have hHead' := h'.head
    have hShown := shown_ofDefinition separator e children children' hParent hParent' hEntity id id'
    have hSame : (Node.ofDefinition separator (some (q.id, q.joined)) id'
        ⟨e, children'⟩).joined =
        (Node.ofDefinition separator (some (p.id, p.joined)) id ⟨e, children⟩).joined := by
      simp [Node.ofDefinition, hJoined]
    -- what is below a node that is kept, and what comes after it
    have hBelow := ihChildren
      (p := Node.ofDefinition separator (some (p.id, p.joined)) id ⟨e, children⟩)
      (q := Node.ofDefinition separator (some (q.id, q.joined)) id' ⟨e, children'⟩)
      hHead.children hHead'.children hHead.node? hHead'.node? rfl hSame
    rw [hSame] at hBelow
    have hAfter := ihRest h.tail h'.tail hParent hParent' hEntity hJoined
    rw [Node.layouts, Node.layouts, Node.layout_eq, Node.layout_eq, List.filter_append,
      List.filter_append, List.map_append, List.map_append, hAfter]
    congr 1
    rw [List.filter_cons, List.filter_cons, hSame]
    split
    · rw [List.map_cons, List.map_cons, hShown]
      exact congrArg _ hBelow
    · exact hBelow

/-- The joined nodes are shown alike, one after another. -/
theorem map_shown_joinedNodes (h : ofDefinition d separator = .ok t)
    (h' : ofDefinition d' separator = .ok t') (hPruned : d.Pruned d') :
    t'.joinedNodes.map t'.shown = t.joinedNodes.map t.shown := by
  have hRoot := root_counterpart h h' hPruned
  have hShown : t'.shown t'.root = t.shown t.root := by
    rw [shown, shown, hRoot.entity, hRoot.separator_eq, root_eq h, root_eq h']
    rfl
  have hBelow := shown_layouts hPruned.children (root_standsFor h).holdsAll
    (root_standsFor h').holdsAll ((numbered_of_ofDefinition h).own _ (List.mem_cons_self ..))
    ((numbered_of_ofDefinition h').own _ (List.mem_cons_self ..)) hRoot.entity hRoot.joined
  rw [root_eq h, root_eq h'] at hBelow
  rw [joinedNodes, joinedNodes, nodes, nodes, List.filter_cons_of_pos (joined_root h),
    List.filter_cons_of_pos (joined_root h'), List.map_cons, List.map_cons, hShown, below_eq h,
    below_eq h']
  exact congrArg _ hBelow

/-- Two trees are written alike in a query. -/
structure SameSql (t t' : Tree) : Prop where
  entity     : t'.root.entity = t.root.entity
  separator  : t'.root.separator = t.root.separator
  selectList : t'.selectList = t.selectList
  joins      : t'.joins = t.joins

namespace SameSql

/-- Trees with the same joined nodes have the same FROM clause. -/
theorem fromClause (h : SameSql t t') : t'.fromClause = t.fromClause := by
  rw [Tree.fromClause, Tree.fromClause, h.joins, Node.tableAlias, Node.tableAlias, h.entity]

theorem select (h : SameSql t t') : t'.select = t.select := by
  rw [Tree.select, Tree.select, h.selectList, h.fromClause]

end SameSql

/-- A tree and a pruned one show the same SQL. -/
theorem sameSql_of_pruned (h : ofDefinition d separator = .ok t)
    (h' : ofDefinition d' separator = .ok t') (hPruned : d.Pruned d') : SameSql t t' := by
  have hRoot := root_counterpart h h' hPruned
  have hShown := map_shown_joinedNodes h h' hPruned
  -- the select list and the joins only ask for what joined nodes show
  have hSelect : ∀ t : Tree, t.selectList = ", ".intercalate
      ((t.joinedNodes.map t.shown).flatMap fun x => (x.1.primaryKey :: x.1.columns).map fun c =>
        x.1.tableAlias ++ "." ++ c ++ " AS " ++ (x.1.tableAlias ++ x.2.1 ++ c)) := by
    intro t
    rw [List.flatMap_map]
    rfl
  have hParts : t'.joinedNodes.filterMap t'.joinOf? = t.joinedNodes.filterMap t.joinOf? := by
    have hJoins := congrArg (List.filterMap fun x => x.2.2) hShown
    rwa [List.filterMap_map, List.filterMap_map] at hJoins
  refine ⟨hRoot.entity, hRoot.separator_eq, ?_, ?_⟩
  · rw [hSelect, hSelect, hShown]
  · rw [joins, joins, hParts]

end Tree

end SqlPlan
