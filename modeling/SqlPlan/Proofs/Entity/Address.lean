import SqlPlan.Proofs.Entity.Following

/-!
# SqlPlan — the address of a node

No two nodes have the same alias, so the aliases on the way down to a node say
which one it is, whatever types and markers its siblings share with it:

* `Tree.Lineage` — the nodes on the way from the root, which is left out, down to
  a node. Every node has one (`exists_lineage`) and no other (`Lineage.unique`);
* `Tree.address` — the path made of their aliases;
* `Tree.HangsOn.step_tableAlias` — each alias leads from a node to its child;
* `Tree.Lineage.walk_address` — so they lead from the root to the node;
* `Tree.exists_resolve_iff` — paths lead to the joined nodes.

Whether the node may be addressed at all is another matter: a path to a node that
is not joined is refused.
-/

namespace SqlPlan

namespace Tree

/-- The node that a node is linked to. -/
def parent? (t : Tree) (n : Node) : Option Node := n.link.bind fun l => t.node? l.parent

/-- Nodes that lead from the root, which is not among them, down to a node. Each
is linked to the one before it. -/
inductive Lineage (t : Tree) : List Node → Node → Prop
  | root : Lineage t [] t.root
  | child {ns : List Node} {p n : Node} (above : Lineage t ns p) (mem : n ∈ t.nodes)
      (parent : t.parent? n = some p) : Lineage t (ns ++ [n]) n

/-- The path that goes from the root through nodes by their aliases. -/
def address (ns : List Node) : List Matcher := ns.map fun n => .tableAlias n.tableAlias

variable {d : Definition} {separator : String} {t : Tree}

-- ---------------------------------------------------------------------------
-- Parents
-- ---------------------------------------------------------------------------

theorem parent?_root (h : ofDefinition d separator = .ok t) : t.parent? t.root = none := by
  rw [parent?, link_root h, Option.bind_none]

/-- Every node below the root is linked to the one it hangs on. -/
theorem exists_parent? (h : ofDefinition d separator = .ok t) {n : Node} (hn : n ∈ t.below) :
    ∃ p, t.parent? n = some p ∧ t.HangsOn separator n p := by
  obtain ⟨p, join, hHangs, -, hLink⟩ := exists_hangsOn_link h hn
  refine ⟨p, ?_, hHangs⟩
  rw [parent?, hLink, Option.bind_some]
  exact (numbered_of_ofDefinition h).own p hHangs.mem

/-- What a node is linked to it hangs on. -/
theorem hangsOn_of_parent? (h : ofDefinition d separator = .ok t) {n p : Node} (hn : n ∈ t.nodes)
    (hParent : t.parent? n = some p) : t.HangsOn separator n p := by
  rcases List.mem_cons.mp hn with rfl | hBelow
  · rw [parent?_root h] at hParent
    cases hParent
  · obtain ⟨q, hOther, hHangs⟩ := exists_parent? h hBelow
    rw [hParent] at hOther
    rwa [Option.some.inj hOther]

-- ---------------------------------------------------------------------------
-- Lineages
-- ---------------------------------------------------------------------------

theorem Lineage.mem_nodes {ns : List Node} {n : Node} (h : t.Lineage ns n) : n ∈ t.nodes := by
  cases h with
  | root => exact List.mem_cons_self ..
  | child _ mem _ => exact mem

/-- Parents come before their children, so every way up ends at the root. -/
theorem exists_lineage (h : ofDefinition d separator = .ok t) {n : Node} (hn : n ∈ t.nodes) :
    ∃ ns, t.Lineage ns n := by
  induction hId : n.id using Nat.strong_induction_on generalizing n with
  | _ id ih =>
    -- a parent has a smaller id than its child
    rcases List.mem_cons.mp hn with rfl | hBelow
    · exact ⟨[], .root⟩
    · obtain ⟨p, hParent, hHangs⟩ := exists_parent? h hBelow
      have hLt := hHangs.lt
      obtain ⟨ns, hLineage⟩ := ih p.id (by omega) hHangs.mem rfl
      exact ⟨ns ++ [n], .child hLineage hn hParent⟩

theorem Lineage.unique (h : ofDefinition d separator = .ok t) {ns ns' : List Node} {n : Node}
    (hLineage : t.Lineage ns n) (hLineage' : t.Lineage ns' n) : ns = ns' := by
  -- both lineages end alike: at the root, which has no parent, or below the one parent
  induction hLineage generalizing ns' with
  | root =>
    cases hLineage' with
    | root => rfl
    | child _ _ hParent =>
      rw [parent?_root h] at hParent
      cases hParent
  | child _ _ hParent ih =>
    cases hLineage' with
    | root =>
      rw [parent?_root h] at hParent
      cases hParent
    | child hAbove' _ hParent' =>
      rw [hParent] at hParent'
      rw [ih (Option.some.inj hParent' ▸ hAbove')]

-- ---------------------------------------------------------------------------
-- Addresses
-- ---------------------------------------------------------------------------

/-- What hangs on a node is found among its children. -/
theorem HangsOn.mem_childrenOf (h : ofDefinition d separator = .ok t) {n p : Node}
    (hn : n ∈ t.nodes) (hHangs : t.HangsOn separator n p) : n ∈ t.childrenOf p :=
  List.mem_filterMap.mpr ⟨n.id, hHangs.child, (numbered_of_ofDefinition h).own n hn⟩

/-- The alias of a node leads to it from the node it hangs on. -/
theorem HangsOn.step_tableAlias (h : ofDefinition d separator = .ok t) {n p : Node}
    (hn : n ∈ t.nodes) (hHangs : t.HangsOn separator n p) :
    t.step p (.tableAlias n.tableAlias) = .ok n := by
  refine step_eq_ok_iff.mpr ⟨by simp, find?_tableAlias_of_mem h ?_ (hHangs.mem_childrenOf h hn)⟩
  intro c hc
  obtain ⟨id, -, hNode⟩ := List.mem_filterMap.mp hc
  exact mem_of_node? hNode

theorem address_concat (ns : List Node) (n : Node) :
    address (ns ++ [n]) = address ns ++ [.tableAlias n.tableAlias] :=
  List.map_append

/-- The aliases of a lineage lead from the root to its end. -/
theorem Lineage.walk_address (h : ofDefinition d separator = .ok t) {ns : List Node} {n : Node}
    (hLineage : t.Lineage ns n) : t.walk t.root (address ns) = .ok n := by
  induction hLineage with
  | root => rfl
  | child _ hn hParent ih =>
    rw [address_concat, walk_concat, ih]
    exact (hangsOn_of_parent? h hn hParent).step_tableAlias h hn

/-- An address leads to its node if that is joined, and nowhere otherwise. -/
theorem Lineage.resolve_eq (h : ofDefinition d separator = .ok t) {ns : List Node} {n : Node}
    (hLineage : t.Lineage ns n) :
    t.resolve (address ns) =
      if n.joined then .ok n else .error (.unjoined n.entity.name) := by
  have hWalk := hLineage.walk_address h
  cases ns with
  | nil =>
    obtain rfl := Except.ok.inj hWalk
    rw [joined_root h]
    rfl
  | cons m rest =>
    have hCons : address (m :: rest) = .tableAlias m.tableAlias :: address rest := rfl
    rw [hCons] at hWalk ⊢
    rw [resolve_cons (by simp), hWalk]
    rfl

/-- The address of a joined node resolves to it. -/
theorem Lineage.resolve_of_mem (h : ofDefinition d separator = .ok t) {ns : List Node} {n : Node}
    (hLineage : t.Lineage ns n) (hn : n ∈ t.joinedNodes) : t.resolve (address ns) = .ok n := by
  rw [hLineage.resolve_eq h, if_pos (List.mem_filter.mp hn).2]

/-- The address of any other fails and names its entity. -/
theorem Lineage.resolve_of_not_mem (h : ofDefinition d separator = .ok t) {ns : List Node}
    {n : Node} (hLineage : t.Lineage ns n) (hn : n ∉ t.joinedNodes) :
    t.resolve (address ns) = .error (.unjoined n.entity.name) := by
  have hJoined : ¬ n.joined = true := fun hJoined =>
    hn (List.mem_filter.mpr ⟨hLineage.mem_nodes, hJoined⟩)
  rw [hLineage.resolve_eq h, if_neg hJoined]

/-- An address belongs to one joined node. -/
theorem Lineage.eq_of_address (h : ofDefinition d separator = .ok t) {ns ns' : List Node}
    {n n' : Node} (hLineage : t.Lineage ns n) (hLineage' : t.Lineage ns' n')
    (hn : n ∈ t.joinedNodes) (hn' : n' ∈ t.joinedNodes) (hAddress : address ns = address ns') :
    n = n' := by
  have hSame := hLineage.resolve_of_mem h hn
  rw [hAddress, hLineage'.resolve_of_mem h hn'] at hSame
  exact (Except.ok.inj hSame).symm

/-- Paths lead to the joined nodes and nowhere else. -/
theorem exists_resolve_iff (h : ofDefinition d separator = .ok t) {n : Node} :
    (∃ matchers, t.resolve matchers = .ok n) ↔ n ∈ t.joinedNodes := by
  constructor
  · rintro ⟨matchers, hOk⟩
    exact List.mem_filter.mpr ⟨mem_nodes_of_resolve hOk, joined_of_resolve h hOk⟩
  · intro hn
    obtain ⟨ns, hLineage⟩ := exists_lineage h (List.mem_filter.mp hn).1
    exact ⟨address ns, hLineage.resolve_of_mem h hn⟩

/--
**Every node has an address of its own.** It has exactly one lineage, and the
aliases along it lead to the node if it is joined and are refused for it
otherwise. So two joined nodes have different numbers and different addresses,
and the numbers of the nodes that paths lead to are those of the joined nodes.
-/
theorem resolve_address (h : ofDefinition d separator = .ok t) :
    (∀ n ∈ t.nodes, ∃! ns, t.Lineage ns n) ∧
    (∀ ns n, t.Lineage ns n →
      (n ∈ t.joinedNodes → t.resolve (address ns) = .ok n) ∧
      (n ∉ t.joinedNodes → t.resolve (address ns) = .error (.unjoined n.entity.name))) ∧
    (∀ ns n ns' n', t.Lineage ns n → t.Lineage ns' n' → n ∈ t.joinedNodes →
      n' ∈ t.joinedNodes → n ≠ n' → n.id ≠ n'.id ∧ address ns ≠ address ns') ∧
    ∀ id, (∃ matchers n, t.resolve matchers = .ok n ∧ n.id = id) ↔
      ∃ n ∈ t.joinedNodes, n.id = id := by
  refine ⟨fun n hn => ?_, fun ns n hLineage =>
    ⟨hLineage.resolve_of_mem h, hLineage.resolve_of_not_mem h⟩, ?_, fun id => ⟨?_, ?_⟩⟩
  · obtain ⟨ns, hLineage⟩ := exists_lineage h hn
    exact ⟨ns, hLineage, fun ns' hLineage' => hLineage'.unique h hLineage⟩
  · intro ns n ns' n' hLineage hLineage' hn hn' hNe
    exact ⟨fun hId => hNe ((numbered_of_ofDefinition h).eq_of_id hLineage.mem_nodes
      hLineage'.mem_nodes hId), fun hSame => hNe (hLineage.eq_of_address h hLineage' hn hn' hSame)⟩
  · rintro ⟨matchers, n, hOk, hId⟩
    exact ⟨n, (exists_resolve_iff h).mp ⟨matchers, hOk⟩, hId⟩
  · rintro ⟨n, hn, hId⟩
    obtain ⟨matchers, hOk⟩ := (exists_resolve_iff h).mpr hn
    exact ⟨matchers, n, hOk, hId⟩

end Tree

-- ---------------------------------------------------------------------------
-- A sample
-- ---------------------------------------------------------------------------

/-- Orders with their customers on both sides, laid out. -/
def Tree.trades : Tree :=
  ⟨.ofDefinition "_" none 0 .trades, Node.layouts "_" (0, true) 1 Definition.trades.children⟩

def Node.buyer : Node := .ofDefinition "_" (some (0, true)) 1 .buyer

def Node.seller : Node := .ofDefinition "_" (some (0, true)) 2 .seller

/-- The address of the seller. -/
def Node.place : Node := .ofDefinition "_" (some (2, false)) 3 .address

/-- Both customers are of one type, but each has an address. The seller is not
joined, and so neither is what is below. -/
theorem Tree.resolve_address_trades :
    ofDefinition .trades "_" = .ok .trades ∧ Tree.trades.Lineage [.buyer] .buyer ∧
      Tree.trades.Lineage [.seller, .place] .place ∧
      Node.buyer.entity.name = Node.seller.entity.name ∧
      Tree.trades.resolve [.tableAlias "c"] = .ok .buyer ∧
      Tree.trades.resolve [.tableAlias "s", .tableAlias "a"] = .error (.unjoined "Address") := by
  have ht : ofDefinition .trades "_" = .ok .trades := rfl
  have hBuyer : Tree.trades.Lineage [.buyer] .buyer :=
    .child .root (mem_of_node? (i := 1) rfl) rfl
  have hSeller : Tree.trades.Lineage [.seller] .seller :=
    .child .root (mem_of_node? (i := 2) rfl) rfl
  have hPlace : Tree.trades.Lineage [.seller, .place] .place :=
    .child hSeller (mem_of_node? (i := 3) rfl) rfl
  have hJoined : Node.buyer ∈ Tree.trades.joinedNodes :=
    List.mem_filter.mpr ⟨hBuyer.mem_nodes, rfl⟩
  have hUnjoined : Node.place ∉ Tree.trades.joinedNodes := fun hMem =>
    absurd (List.mem_filter.mp hMem).2 (by decide)
  obtain ⟨-, hResolve, -, -⟩ := resolve_address ht
  exact ⟨ht, hBuyer, hPlace, rfl, (hResolve _ _ hBuyer).1 hJoined,
    (hResolve _ _ hPlace).2 hUnjoined⟩

end SqlPlan
