import SqlPlan.Proofs.Entity.Listing
import SqlPlan.Proofs.Entity.Path

/-!
# SqlPlan — paths through a definition

A path is resolved over the numbers of nodes, and whether the node reached is
joined was settled when the tree was laid out. Neither is needed to say where a
path leads. In the definition a matcher leads to the first child that it names,
and what is reached is joined if everything on the way is fetched eagerly:

* `Matcher.names` — what a matcher says of an entity;
* `Definition.follow` — the definitions that matchers lead through, or the step
  that fails;
* `Tree.StandsFor.step_of_some`, `step_of_none` — a step between nodes is a step
  between the definitions that they stand for;
* `Tree.StandsFor.walk_of_follow` — so is a walk, and the node it ends at
  is joined if the node it began at is and all definitions on it are eager.
-/

namespace SqlPlan

-- ---------------------------------------------------------------------------
-- Following a path
-- ---------------------------------------------------------------------------

/-- A matcher names an entity by its type, a marker of it, or its alias. -/
def Matcher.names (m : Matcher) (e : Entity) : Bool :=
  match m with
  | .root => false
  | .entity name => e.name = name
  | .marker name => name ∈ e.markers
  | .tableAlias name => e.tableAlias = name

theorem Matcher.selects_eq (m : Matcher) (n : Node) : m.selects n = m.names n.entity := by
  cases m with
  | marker name => simp [selects, names]
  | root | entity | tableAlias => rfl

/-- The definition is fetched eagerly. -/
def Definition.isEager (d : Definition) : Bool := d.entity.fetch = .eager

/-- The definitions that matchers lead through, each the first child of the one
before it that its matcher names. -/
def Definition.follow (d : Definition) : List Matcher → Except Error (List Definition)
  | [] => .ok []
  | m :: rest =>
    if m = .root then .error .misplacedRoot
    else
      match d.children.find? fun c => m.names c.entity with
      | some child => (child.follow rest).map (child :: ·)
      | none => .error (.noChild m d.entity.name)

namespace Definition

variable {d : Definition} {m : Matcher} {rest : List Matcher}

/-- A path passes the first child that its matcher names, then goes on from
there. -/
theorem follow_cons_eq_ok_iff {passed : List Definition} :
    d.follow (m :: rest) = .ok passed ↔
      m ≠ .root ∧ ∃ child below, (d.children.find? fun c => m.names c.entity) = some child ∧
        child.follow rest = .ok below ∧ passed = child :: below := by
  rw [follow]
  by_cases hRoot : m = .root
  · simp [hRoot]
  · cases hFind : d.children.find? fun c => m.names c.entity with
    | none => simp [hRoot]
    | some child =>
      cases hRest : child.follow rest with
      | error e => simp [hRoot, hRest, Except.map]
      | ok below => simp [hRoot, hRest, Except.map, eq_comm]

/-- It fails at a root that is not in front, at a matcher that names no child,
or further down. -/
theorem follow_cons_eq_error_iff {e : Error} :
    d.follow (m :: rest) = .error e ↔
      (m = .root ∧ e = .misplacedRoot) ∨
      (m ≠ .root ∧ (d.children.find? fun c => m.names c.entity) = none ∧
        e = .noChild m d.entity.name) ∨
      (m ≠ .root ∧ ∃ child, (d.children.find? fun c => m.names c.entity) = some child ∧
        child.follow rest = .error e) := by
  rw [follow]
  by_cases hRoot : m = .root
  · simp [hRoot, eq_comm]
  · cases hFind : d.children.find? fun c => m.names c.entity with
    | none => simp [hRoot, eq_comm]
    | some child =>
      cases hRest : child.follow rest with
      | error e => simp [hRoot, hRest, Except.map]
      | ok below => simp [hRoot, hRest, Except.map]

/-- What stops a walk is a mistake in the path. -/
theorem category_of_follow {matchers : List Matcher} {e : Error}
    (h : d.follow matchers = .error e) : e.category = .path := by
  induction matchers generalizing d with
  | nil => cases h
  | cons m rest ih =>
    rcases follow_cons_eq_error_iff.mp h with ⟨-, rfl⟩ | ⟨-, -, rfl⟩ | ⟨-, child, -, hRest⟩
    · rfl
    · rfl
    · exact ih hRest

end Definition

-- ---------------------------------------------------------------------------
-- Steps
-- ---------------------------------------------------------------------------

namespace Tree

variable {t : Tree} {separator : String}

/-- Among siblings, the first node that a matcher selects stands for the first
definition that it names; there is none of the one if there is none of the other. -/
theorem HoldsAll.rel_find?_siblings {p : Nat × Bool} {id : Nat} {ds : List Definition}
    (h : t.HoldsAll separator p id ds) (m : Matcher) :
    Option.Rel (fun child c => t.StandsFor separator (some p) c child)
      (ds.find? fun c => m.names c.entity) ((Node.siblings separator p id ds).find? m.selects) := by
  induction ds generalizing id with
  | nil => exact .none
  | cons d rest ih =>
    have hHead : m.selects (Node.ofDefinition separator (some p) id d) = m.names d.entity :=
      m.selects_eq _
    rw [Node.siblings, List.find?_cons, List.find?_cons, hHead]
    cases m.names d.entity with
    | true => exact .some ⟨rfl, h.head⟩
    | false => exact ih h.tail

namespace StandsFor

variable {parent : Option (Nat × Bool)} {n : Node} {d : Definition} {m : Matcher}

/-- The first child that a matcher names is the same in the tree and in the
definition, up to what stands for what. -/
theorem rel_find?_childrenOf (h : t.StandsFor separator parent n d) (m : Matcher) :
    Option.Rel (fun child c => t.StandsFor separator (some (n.id, n.joined)) c child)
      (d.children.find? fun c => m.names c.entity) ((t.childrenOf n).find? m.selects) := by
  rw [h.childrenOf]
  exact h.holdsAll.rel_find?_siblings m

/-- Where the definition has no child, the step fails and says so. -/
theorem step_of_none (h : t.StandsFor separator parent n d) (hRoot : m ≠ .root)
    (hFind : (d.children.find? fun c => m.names c.entity) = none) :
    t.step n m = .error (.noChild m d.entity.name) := by
  have hRel := h.rel_find?_childrenOf m
  rw [hFind] at hRel
  rw [Tree.step, if_neg hRoot]
  generalize (t.childrenOf n).find? m.selects = found at hRel ⊢
  cases hRel with
  | none => rw [h.entity]

/-- From a node a matcher leads where it leads from its definition. -/
theorem step_of_some {child : Definition} (h : t.StandsFor separator parent n d)
    (hRoot : m ≠ .root) (hFind : (d.children.find? fun c => m.names c.entity) = some child) :
    ∃ c, t.step n m = .ok c ∧ t.StandsFor separator (some (n.id, n.joined)) c child := by
  have hRel := h.rel_find?_childrenOf m
  rw [hFind] at hRel
  rw [Tree.step, if_neg hRoot]
  generalize (t.childrenOf n).find? m.selects = found at hRel ⊢
  cases hRel with
  | some hStands => exact ⟨_, rfl, hStands⟩

/-- Below a node, a node is joined if that one is and its own definition is
eager. -/
theorem joined {p : Nat × Bool} (h : t.StandsFor separator (some p) n d) :
    n.joined = (d.isEager && p.2) := by
  rw [h.node]
  rfl

-- ---------------------------------------------------------------------------
-- Walks
-- ---------------------------------------------------------------------------

/-- Where the definitions stop, so do the nodes. -/
theorem walk_of_follow_error (h : t.StandsFor separator parent n d) {matchers : List Matcher}
    {e : Error} (hFollow : d.follow matchers = .error e) : t.walk n matchers = .error e := by
  induction matchers generalizing n d parent with
  | nil => cases hFollow
  | cons m rest ih =>
    rcases Definition.follow_cons_eq_error_iff.mp hFollow with
      ⟨hRoot, rfl⟩ | ⟨hRoot, hFind, rfl⟩ | ⟨hRoot, child, hFind, hRest⟩
    · have hStep : t.step n m = .error .misplacedRoot := if_pos hRoot
      exact walk_cons_of_error hStep
    · exact walk_cons_of_error (h.step_of_none hRoot hFind)
    · obtain ⟨c, hStep, hStands⟩ := h.step_of_some hRoot hFind
      rw [walk_cons_of_ok hStep]
      exact ih hStands hRest

/-- A walk ends at a node that stands for the last definition passed, and the
node is joined if that before the walk is and every definition passed is eager. -/
theorem walk_of_follow (h : t.StandsFor separator parent n d) {matchers : List Matcher}
    {passed : List Definition} (hFollow : d.follow matchers = .ok passed) :
    ∃ parent' m, t.walk n matchers = .ok m ∧
      t.StandsFor separator parent' m (passed.getLastD d) ∧
      m.joined = (n.joined && passed.all Definition.isEager) := by
  induction matchers generalizing n d parent passed with
  | nil =>
    obtain rfl := Except.ok.inj hFollow
    exact ⟨parent, n, rfl, h, (Bool.and_true _).symm⟩
  | cons m rest ih =>
    obtain ⟨hRoot, child, below, hFind, hRest, rfl⟩ :=
      Definition.follow_cons_eq_ok_iff.mp hFollow
    -- the step leads to the node that stands for the child
    obtain ⟨c, hStep, hStands⟩ := h.step_of_some hRoot hFind
    obtain ⟨parent', reached, hWalk, hReached, hJoined⟩ := ih hStands hRest
    refine ⟨parent', reached, ?_, ?_, ?_⟩
    · rw [walk_cons_of_ok hStep]
      exact hWalk
    · rw [List.getLastD_cons]
      exact hReached
    · rw [hJoined, hStands.joined, List.all_cons, Bool.and_comm child.isEager, Bool.and_assoc]

end StandsFor

end Tree

-- ---------------------------------------------------------------------------
-- Paths
-- ---------------------------------------------------------------------------

/--
**Paths lead where the definition leads.** The empty path and every path that
begins with the root matcher lead to the root. Any other path is followed from
the root definition, each matcher to the first child that it names; it fails
where this fails, whatever was passed before. Otherwise it leads to the node of
the last definition passed if all that were passed are eager, and this entity is
not joined if one of them is lazy.
-/
theorem resolve_eq_follow {d : Definition} {separator : String} {t : Tree}
    (h : Tree.ofDefinition d separator = .ok t) :
    t.resolve [] = .ok t.root ∧ (∀ rest, t.resolve (.root :: rest) = .ok t.root) ∧
    ∀ m rest, m ≠ .root →
      (∀ e, d.follow (m :: rest) = .error e →
        e.category = .path ∧ t.resolve (m :: rest) = .error e) ∧
      ∀ passed, d.follow (m :: rest) = .ok passed →
        ((∀ x ∈ passed, x.entity.fetch = .eager) →
          ∃ n parent, t.resolve (m :: rest) = .ok n ∧
            t.StandsFor separator parent n (passed.getLastD d) ∧
            t.find? (passed.getLastD d).entity.tableAlias = some n) ∧
        ((∃ x ∈ passed, x.entity.fetch = .lazy) →
          t.resolve (m :: rest) = .error (.unjoined (passed.getLastD d).entity.name)) := by
  refine ⟨rfl, fun _ => rfl, fun m rest hRoot => ⟨fun e hFollow => ?_, fun passed hFollow => ?_⟩⟩
  · have hWalk := (Tree.root_standsFor h).walk_of_follow_error hFollow
    refine ⟨Definition.category_of_follow hFollow, ?_⟩
    rw [Tree.resolve_cons hRoot, hWalk]
    rfl
  · obtain ⟨parent, n, hWalk, hStands, hJoined⟩ := (Tree.root_standsFor h).walk_of_follow hFollow
    rw [Tree.joined_root h, Bool.true_and] at hJoined
    constructor
    · intro hEager
      have hAll : n.joined = true := by
        rw [hJoined, List.all_eq_true]
        exact fun x hx => decide_eq_true (hEager x hx)
      -- aliases are unique, so a search for the last one finds this node
      have hFound := Tree.find?_tableAlias h (Tree.mem_nodes_of_walk (List.mem_cons_self ..) hWalk)
      rw [Node.tableAlias, hStands.entity] at hFound
      have hResolve := (Tree.resolve_cons_eq_ok_iff hRoot).mpr ⟨hWalk, hAll⟩
      exact ⟨n, parent, hResolve, hStands, hFound⟩
    -- one lazy entity on the way is enough
    · rintro ⟨x, hx, hLazy⟩
      have hSome : n.joined = false := by
        rw [hJoined, List.all_eq_false]
        refine ⟨x, hx, ?_⟩
        rw [Definition.isEager, hLazy]
        decide
      rw [Tree.resolve_cons hRoot, hWalk, Except.bind, hSome, hStands.entity]
      rfl

namespace Definition

def buyer : Definition :=
  ((Definition.of "Customer" "customers" "c").withMarker "buyer").withJoin
    (.left "customer_id" "id")

def address : Definition :=
  (Definition.of "Address" "addresses" "a").withJoin (.left "address_id" "id")

/-- Customers who sell are left out of the query, and so are their addresses. -/
def seller : Definition :=
  (((Definition.of "Customer" "customers" "s").withMarker "seller").withJoin
    (.left "seller_id" "id")).fetchedLazily.withChild address

/-- Orders with their customers on both sides. -/
def trades : Definition :=
  ((Definition.of "Order" "orders" "o").withChild buyer).withChild seller

end Definition

/-- Of two customers the first is found. A path through the seller, who is
fetched lazily, is refused at its end, unless it has failed before. -/
theorem resolve_eq_follow_trades :
    ∃ t n, Tree.ofDefinition .trades "_" = .ok t ∧
      t.resolve [.entity "Customer"] = .ok n ∧ n.entity = Definition.buyer.entity ∧
      t.resolve [.marker "seller", .entity "Address"] = .error (.unjoined "Address") ∧
      t.resolve [.marker "seller", .entity "Address", .root] = .error .misplacedRoot := by
  obtain ⟨t, ht⟩ : ∃ t, Tree.ofDefinition .trades "_" = .ok t := ⟨_, rfl⟩
  obtain ⟨-, -, hPaths⟩ := resolve_eq_follow ht
  have hBuyer : Definition.trades.follow [.entity "Customer"] = .ok [.buyer] := rfl
  have hAddress : Definition.trades.follow [.marker "seller", .entity "Address"] =
      .ok [.seller, .address] := rfl
  have hStop : Definition.trades.follow [.marker "seller", .entity "Address", .root] =
      .error .misplacedRoot := rfl
  have hEager : ∀ x ∈ [Definition.buyer], x.entity.fetch = .eager := by
    intro x hx
    rw [List.mem_singleton.mp hx]
    rfl
  have hLazy : ∃ x ∈ [Definition.seller, .address], x.entity.fetch = .lazy :=
    ⟨.seller, List.mem_cons_self .., rfl⟩
  obtain ⟨n, parent, hResolve, hStands, -⟩ :=
    ((hPaths (.entity "Customer") [] (by decide)).2 _ hBuyer).1 hEager
  exact ⟨t, n, ht, hResolve, hStands.entity,
    ((hPaths (.marker "seller") _ (by decide)).2 _ hAddress).2 hLazy,
    ((hPaths (.marker "seller") _ (by decide)).1 _ hStop).2⟩

end SqlPlan
