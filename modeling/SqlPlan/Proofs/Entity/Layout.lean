import SqlPlan.Entity.Tree

/-!
# SqlPlan — what a layout keeps of its definition

A definition is laid out by a recursion over it and its children, so each fact
about the nodes is an induction with one case for a definition and one for a
list of siblings:

* `Node.length_layout` — there are as many nodes as entities;
* `Node.parent_of_mem_layout` — the parent of a node is the one given from
  outside, or among the nodes laid out together with it;
* `Tree.exists_parent` — so every node below the root finds its parent;
* `Tree.params_joins` — the joins bind what the entities joined along the
  definition bind, in pre-order.
-/

namespace SqlPlan

-- ---------------------------------------------------------------------------
-- What joins bind
-- ---------------------------------------------------------------------------

/-- What a join binds. Without a condition its parameters have no placeholder. -/
def Join.bound (j : Join) : List Value :=
  if j.condition.isSome then j.params else []

/-- What the join of an entity binds. -/
def Entity.joinParams (e : Entity) : List Value := e.join.elim [] Join.bound

namespace Definition

mutual

/-- What the joins of a definition bind that stands below a joined entity. A
lazy entity takes everything below it out of the query. -/
def paramsBelow : Definition → List Value
  | ⟨entity, children⟩ =>
    if entity.fetch = .eager then entity.joinParams ++ paramsOfAll children else []

/-- What the joins of several such definitions bind. -/
def paramsOfAll : List Definition → List Value
  | [] => []
  | d :: rest => paramsBelow d ++ paramsOfAll rest

end

/-- What the joins of a definition bind, in pre-order. The root is not joined
to anything. -/
def joinParams (d : Definition) : List Value := paramsOfAll d.children

end Definition

/-- What the join of a node binds. -/
def Node.joinParams (n : Node) : List Value := n.link.elim [] fun l => l.join.bound

-- ---------------------------------------------------------------------------
-- Layouts
-- ---------------------------------------------------------------------------

namespace Node

/-- The node that a definition becomes. -/
def ofDefinition (separator : String) (parent : Option (Nat × Bool)) (id : Nat)
    (d : Definition) : Node :=
  { id
    entity := d.entity
    separator := d.entity.separator.getD separator
    link := match parent, d.entity.join with
      | some (p, _), some join => some ⟨p, join⟩
      | _, _ => none
    children := idsFrom (id + 1) d.children
    joined := match parent with
      | none => true
      | some (_, above) => d.entity.fetch = .eager && above }

/-- A subtree is laid out as its root and then what is below it. -/
theorem layout_eq (separator : String) (parent : Option (Nat × Bool)) (id : Nat)
    (d : Definition) :
    layout separator parent id d =
      ofDefinition separator parent id d ::
        layouts separator (id, (ofDefinition separator parent id d).joined) (id + 1)
          d.children := by
  obtain ⟨entity, children⟩ := d
  rfl

mutual

/-- A subtree has a node for each of its definitions. -/
theorem length_layout (separator : String) :
    ∀ (d : Definition) (parent : Option (Nat × Bool)) (id : Nat),
      (layout separator parent id d).length = d.size
  | ⟨entity, children⟩, parent, id => by
    rw [layout_eq, List.length_cons, length_layouts separator children, Definition.size]
    omega

theorem length_layouts (separator : String) :
    ∀ (ds : List Definition) (parent : Nat × Bool) (id : Nat),
      (layouts separator parent id ds).length = Definition.sizes ds
  | [], _, _ => rfl
  | d :: rest, parent, id => by
    rw [layouts, List.length_append, length_layout separator d, length_layouts separator rest,
      Definition.sizes]

end

mutual

/-- A parent is given from outside or laid out along with its child. -/
theorem parent_of_mem_layout (separator : String) :
    ∀ (d : Definition) (parent : Option (Nat × Bool)) (id : Nat),
      ∀ n ∈ layout separator parent id d, ∀ l, n.link = some l →
        (∃ above, parent = some (l.parent, above)) ∨
          (id ≤ l.parent ∧ l.parent < id + d.size)
  | ⟨entity, children⟩, parent, id => by
    intro n hn l hLink
    rw [layout_eq] at hn
    rcases List.mem_cons.mp hn with rfl | hBelow
    · -- the node of the entity itself
      left
      cases parent with
      | none => simp [ofDefinition] at hLink
      | some p =>
        cases hJoin : entity.join with
        | none => simp [ofDefinition, hJoin] at hLink
        | some join =>
          simp only [ofDefinition, hJoin, Option.some.injEq] at hLink
          exact ⟨p.2, by rw [← hLink]⟩
    · right
      -- the parent of a node further down is the entity's own node or stands below it
      have hChild := parent_of_mem_layouts separator children _ _ n hBelow l hLink
      rw [Definition.size]
      rcases hChild with hParent | hParent
      · rw [hParent]
        omega
      · omega

theorem parent_of_mem_layouts (separator : String) :
    ∀ (ds : List Definition) (parent : Nat × Bool) (id : Nat),
      ∀ n ∈ layouts separator parent id ds, ∀ l, n.link = some l →
        l.parent = parent.1 ∨ (id ≤ l.parent ∧ l.parent < id + Definition.sizes ds)
  | [], _, _ => by
    intro n hn
    simp [layouts] at hn
  | d :: rest, parent, id => by
    intro n hn l hLink
    rw [layouts, List.mem_append] at hn
    rw [Definition.sizes]
    rcases hn with hHead | hRest
    · rcases parent_of_mem_layout separator d (some parent) id n hHead l hLink with
        ⟨above, hParent⟩ | hParent
      · left
        rw [Option.some.inj hParent]
      · omega
    · rcases parent_of_mem_layouts separator rest parent _ n hRest l hLink with hParent | hParent
      · exact Or.inl hParent
      · omega

end

mutual

/-- The joined nodes of a definition bind what its joined entities bind, and
nothing if what stands above is not joined. -/
theorem joinParams_layout (separator : String) :
    ∀ (d : Definition) (p : Nat) (above : Bool) (id : Nat),
      ((layout separator (some (p, above)) id d).filter joined).flatMap joinParams =
        if above then d.paramsBelow else []
  | ⟨entity, children⟩, p, above, id => by
    rw [layout_eq, List.filter_cons]
    have hChildren := joinParams_layouts separator children id
      (ofDefinition separator (some (p, above)) id ⟨entity, children⟩).joined (id + 1)
    have hOwn : (ofDefinition separator (some (p, above)) id ⟨entity, children⟩).joinParams =
        entity.joinParams := by
      cases hJoin : entity.join <;> simp [joinParams, ofDefinition, Entity.joinParams, hJoin]
    have hJoined : (ofDefinition separator (some (p, above)) id ⟨entity, children⟩).joined =
        (decide (entity.fetch = .eager) && above) := rfl
    rw [hJoined] at hChildren ⊢
    rw [Definition.paramsBelow]
    -- a join counts if its entity is fetched eagerly and all above it are
    cases above with
    | false =>
      rw [Bool.and_false] at hChildren ⊢
      exact hChildren
    | true =>
      rw [Bool.and_true] at hChildren ⊢
      by_cases hEager : entity.fetch = .eager
      · rw [decide_eq_true hEager] at hChildren ⊢
        rw [if_pos rfl, if_pos rfl, if_pos hEager, List.flatMap_cons, hOwn]
        exact congrArg (entity.joinParams ++ ·) hChildren
      · rw [decide_eq_false hEager] at hChildren ⊢
        rw [if_pos rfl, if_neg hEager]
        exact hChildren

theorem joinParams_layouts (separator : String) :
    ∀ (ds : List Definition) (p : Nat) (above : Bool) (id : Nat),
      ((layouts separator (p, above) id ds).filter joined).flatMap joinParams =
        if above then Definition.paramsOfAll ds else []
  | [], _, above, _ => by cases above <;> rfl
  | d :: rest, p, above, id => by
    rw [layouts, List.filter_append, List.flatMap_append, joinParams_layout separator d,
      joinParams_layouts separator rest, Definition.paramsOfAll]
    cases above <;> rfl

end

end Node

-- ---------------------------------------------------------------------------
-- Trees
-- ---------------------------------------------------------------------------

namespace Tree

variable {d : Definition} {separator : String} {t : Tree}

/-- The nodes of an accepted definition are its layout. -/
theorem nodes_eq_layout (h : ofDefinition d separator = .ok t) :
    t.nodes = Node.layout separator none 0 d := by
  unfold ofDefinition at h
  cases hFault : d.fault? with
  | some e => simp [hFault] at h
  | none =>
    rw [hFault, Node.layout_eq] at h
    rw [Node.layout_eq, ← Except.ok.inj h]
    rfl

/-- The root of an accepted tree is made from the definition itself. -/
theorem root_eq (h : ofDefinition d separator = .ok t) :
    t.root = Node.ofDefinition separator none 0 d := by
  have hNodes := nodes_eq_layout h
  rw [Node.layout_eq, nodes, List.cons.injEq] at hNodes
  exact hNodes.1

/-- The other nodes are those of its children, from the first id on. -/
theorem below_eq (h : ofDefinition d separator = .ok t) :
    t.below = Node.layouts separator (0, true) 1 d.children := by
  have hNodes := nodes_eq_layout h
  rw [Node.layout_eq, nodes, List.cons.injEq] at hNodes
  exact hNodes.2

theorem joined_root (h : ofDefinition d separator = .ok t) : t.root.joined = true := by
  rw [root_eq h]
  rfl

/-- Every node below the root finds its parent. -/
theorem exists_parent (h : ofDefinition d separator = .ok t) {n : Node} (hn : n ∈ t.nodes)
    {l : Link} (hLink : n.link = some l) : ∃ p, t.node? l.parent = some p := by
  rw [nodes_eq_layout h] at hn
  have hParent := Node.parent_of_mem_layout separator d none 0 n hn l hLink
  have hLength := Node.length_layout separator d none 0
  rcases hParent with ⟨above, hNone⟩ | ⟨-, hLt⟩
  · simp at hNone
  · refine ⟨_, List.getElem?_eq_getElem (h := ?_)⟩
    rw [nodes_eq_layout h]
    omega

/-- The join of a node binds what is bound by the link to its parent. -/
theorem params_joinOf? (h : ofDefinition d separator = .ok t) {n : Node} (hn : n ∈ t.nodes) :
    (t.joinOf? n).elim [] Sql.params = n.joinParams := by
  cases hLink : n.link with
  | none => simp [joinOf?, Node.joinParams, hLink]
  | some l =>
    obtain ⟨p, hParent⟩ := exists_parent h hn hLink
    cases hCondition : l.join.condition <;>
      simp [joinOf?, Node.joinParams, Join.bound, hLink, hParent, hCondition, Sql.ofText]

/-- The joins bind what the links of the joined nodes bind, in their order. -/
theorem params_joins_eq_flatMap (h : ofDefinition d separator = .ok t) :
    t.joins.params = t.joinedNodes.flatMap Node.joinParams := by
  -- said of any nodes of the tree, for joined nodes are not closed under tails
  have hNodes : ∀ ns : List Node, (∀ n ∈ ns, n ∈ t.nodes) →
      (ns.filterMap t.joinOf?).flatMap Sql.params = ns.flatMap Node.joinParams := by
    intro ns
    induction ns with
    | nil => intro _; rfl
    | cons n rest ih =>
      intro hMem
      have hHead := params_joinOf? h (hMem n (List.mem_cons_self ..))
      rw [List.flatMap_cons, ← ih fun m hm => hMem m (List.mem_cons_of_mem _ hm), ← hHead]
      cases hJoin : t.joinOf? n with
      | none => rw [List.filterMap_cons_none hJoin]; rfl
      | some q => rw [List.filterMap_cons_some hJoin, List.flatMap_cons]; rfl
  exact hNodes _ fun n hn => (List.mem_filter.mp hn).1

/-- The joins bind what the definition binds, in pre-order. -/
theorem params_joins (h : ofDefinition d separator = .ok t) : t.joins.params = d.joinParams := by
  have hRoot : t.root.joinParams = [] := by
    rw [root_eq h]
    rfl
  calc t.joins.params = t.joinedNodes.flatMap Node.joinParams := params_joins_eq_flatMap h
    _ = t.root.joinParams ++ (t.below.filter Node.joined).flatMap Node.joinParams := by
        rw [joinedNodes, nodes, List.filter_cons_of_pos (joined_root h), List.flatMap_cons]
    _ = d.joinParams := by
        rw [hRoot, below_eq h, Node.joinParams_layouts, List.nil_append]
        rfl

end Tree

-- ---------------------------------------------------------------------------
-- A sample
-- ---------------------------------------------------------------------------

/-- Orders with their lines of one kind. -/
def Definition.orders (kind : Value) : Definition :=
  ((Definition.of "Order" "orders" "o").withColumns ["total"]).withChild
    ((Definition.of "Line" "lines" "l").withJoin
      ((Join.left "id" "order_id").withCondition "l.kind = ?" [kind]))

example (kind : Value) : (Definition.orders kind).joinParams = [kind] := rfl

/-- The sample laid out. -/
def Tree.orders (kind : Value) : Tree :=
  let d := Definition.orders kind
  ⟨.ofDefinition "_" none 0 d, Node.layouts "_" (0, true) 1 d.children⟩

theorem Tree.ofDefinition_orders (kind : Value) :
    Tree.ofDefinition (.orders kind) "_" = .ok (.orders kind) := rfl

end SqlPlan
