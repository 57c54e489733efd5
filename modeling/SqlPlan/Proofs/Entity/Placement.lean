import SqlPlan.Proofs.Entity.Layout

/-!
# SqlPlan — where definitions are laid out

A layout numbers its nodes by their places in the tree, so a node is found
again under its own number, and its children under the numbers it has for them:

* `Tree.Holds`, `Tree.HoldsAll` — the nodes of a definition, or of several one
  after another, stand in the tree from some number on;
* `Tree.StandsFor` — what every node is to a definition that the tree holds
  (`exists_standsFor`), and what its children are (`StandsFor.childrenOf`);
* `Tree.Numbered` — so no number of a node is one of nothing, nor of two nodes
  (`Numbered.eq_of_id`).
-/

namespace SqlPlan

/-- The nodes of definitions with one parent, without those below them. -/
def Node.siblings (separator : String) (parent : Nat × Bool) (id : Nat) :
    List Definition → List Node
  | [] => []
  | d :: rest =>
    ofDefinition separator (some parent) id d :: siblings separator parent (id + d.size) rest

namespace Tree

-- ---------------------------------------------------------------------------
-- Definitions that a tree holds
-- ---------------------------------------------------------------------------

/-- The nodes of a definition stand in the tree from a number on. -/
def Holds (t : Tree) (separator : String) (parent : Option (Nat × Bool)) (id : Nat)
    (d : Definition) : Prop :=
  ∃ before after, t.nodes = before ++ Node.layout separator parent id d ++ after ∧
    before.length = id

/-- The nodes of the children of a node stand in the tree from a number on. -/
def HoldsAll (t : Tree) (separator : String) (parent : Nat × Bool) (id : Nat)
    (ds : List Definition) : Prop :=
  ∃ before after, t.nodes = before ++ Node.layouts separator parent id ds ++ after ∧
    before.length = id

variable {t : Tree} {separator : String} {parent : Option (Nat × Bool)} {id : Nat}

/-- An accepted tree holds its definition at the root. -/
theorem holds_of_ofDefinition {d : Definition} (h : ofDefinition d separator = .ok t) :
    t.Holds separator none 0 d :=
  ⟨[], [], by rw [nodes_eq_layout h, List.nil_append, List.append_nil], rfl⟩

/-- Where a definition is held, its children are held from the next id on. -/
theorem Holds.children {d : Definition} (h : t.Holds separator parent id d) :
    t.HoldsAll separator (id, (Node.ofDefinition separator parent id d).joined) (id + 1)
      d.children := by
  obtain ⟨before, after, hNodes, hLength⟩ := h
  refine ⟨before ++ [Node.ofDefinition separator parent id d], after, ?_, ?_⟩
  · rw [hNodes, Node.layout_eq]
    simp only [List.append_assoc, List.cons_append, List.nil_append]
  · rw [List.length_append, List.length_singleton, hLength]

section Siblings

variable {p : Nat × Bool} {d : Definition} {rest : List Definition}

/-- The first of neighbouring definitions is held where they begin. -/
theorem HoldsAll.head (h : t.HoldsAll separator p id (d :: rest)) :
    t.Holds separator (some p) id d := by
  obtain ⟨before, after, hNodes, hLength⟩ := h
  refine ⟨before, Node.layouts separator p (id + d.size) rest ++ after, ?_, hLength⟩
  rw [hNodes, Node.layouts]
  simp only [List.append_assoc]

/-- The others are held behind all nodes of the first. -/
theorem HoldsAll.tail (h : t.HoldsAll separator p id (d :: rest)) :
    t.HoldsAll separator p (id + d.size) rest := by
  obtain ⟨before, after, hNodes, hLength⟩ := h
  refine ⟨before ++ Node.layout separator (some p) id d, after, ?_, ?_⟩
  · rw [hNodes, Node.layouts]
    simp only [List.append_assoc]
  · rw [List.length_append, hLength, Node.length_layout]

end Siblings

-- ---------------------------------------------------------------------------
-- Numbers
-- ---------------------------------------------------------------------------

/-- A definition is found under the number from which on it is held. -/
theorem Holds.node? {d : Definition} (h : t.Holds separator parent id d) :
    t.node? id = some (Node.ofDefinition separator parent id d) := by
  obtain ⟨before, after, hNodes, hLength⟩ := h
  rw [Tree.node?, hNodes, Node.layout_eq, List.append_assoc,
    List.getElem?_append_right (by omega), hLength, Nat.sub_self]
  rfl

/-- Every number of a child is that of a definition under the same parent. -/
theorem HoldsAll.exists_node?_of_mem {p : Nat × Bool} {ds : List Definition}
    (h : t.HoldsAll separator p id ds) {c : Nat} (hc : c ∈ Node.idsFrom id ds) :
    ∃ d, t.node? c = some (Node.ofDefinition separator (some p) c d) := by
  induction ds generalizing id with
  | nil => simp [Node.idsFrom] at hc
  | cons d rest ih =>
    rw [Node.idsFrom, List.mem_cons] at hc
    rcases hc with rfl | hRest
    · exact ⟨d, h.head.node?⟩
    · exact ih h.tail hRest

/-- Looked up by their ids, the roots of neighbouring subtrees are the siblings
that were laid out. -/
theorem HoldsAll.filterMap_node? {p : Nat × Bool} {ds : List Definition}
    (h : t.HoldsAll separator p id ds) :
    (Node.idsFrom id ds).filterMap t.node? = Node.siblings separator p id ds := by
  induction ds generalizing id with
  | nil => rfl
  | cons d rest ih =>
    rw [Node.idsFrom, List.filterMap_cons_some h.head.node?, ih h.tail]
    rfl

-- ---------------------------------------------------------------------------
-- Every node
-- ---------------------------------------------------------------------------

/-- A node stands for a definition that is held under a given parent. -/
structure StandsFor (t : Tree) (separator : String) (parent : Option (Nat × Bool)) (n : Node)
    (d : Definition) : Prop where
  node  : n = Node.ofDefinition separator parent n.id d
  holds : t.Holds separator parent n.id d

/-- The root of an accepted tree stands for the whole definition. -/
theorem root_standsFor {d : Definition} (h : ofDefinition d separator = .ok t) :
    t.StandsFor separator none t.root d := by
  have hRoot := root_eq h
  have hId : t.root.id = 0 := by
    rw [hRoot]
    rfl
  exact ⟨by rw [hId]; exact hRoot, by rw [hId]; exact holds_of_ofDefinition h⟩

mutual

/-- Every node of a subtree stands for a definition in it. -/
theorem exists_standsFor_of_mem_layout :
    ∀ (d : Definition) (p : Nat × Bool) (id : Nat), t.Holds separator (some p) id d →
      ∀ n ∈ Node.layout separator (some p) id d, ∃ q e, t.StandsFor separator (some q) n e
  | ⟨entity, children⟩, p, id, h => by
    intro n hn
    rw [Node.layout_eq] at hn
    rcases List.mem_cons.mp hn with rfl | hBelow
    · exact ⟨p, ⟨entity, children⟩, rfl, h⟩
    · exact exists_standsFor_of_mem_layouts children _ (id + 1) h.children n hBelow

theorem exists_standsFor_of_mem_layouts :
    ∀ (ds : List Definition) (p : Nat × Bool) (id : Nat), t.HoldsAll separator p id ds →
      ∀ n ∈ Node.layouts separator p id ds, ∃ q e, t.StandsFor separator (some q) n e
  | [], _, _, _ => by
    intro n hn
    simp [Node.layouts] at hn
  | d :: rest, p, id, h => by
    intro n hn
    rw [Node.layouts, List.mem_append] at hn
    rcases hn with hHead | hRest
    · exact exists_standsFor_of_mem_layout d p id h.head n hHead
    · exact exists_standsFor_of_mem_layouts rest p (id + d.size) h.tail n hRest

end

/-- A node below the root stands for a definition below another. -/
theorem exists_standsFor_of_mem_below {d : Definition} (h : ofDefinition d separator = .ok t)
    {n : Node} (hn : n ∈ t.below) : ∃ q e, t.StandsFor separator (some q) n e := by
  rw [below_eq h] at hn
  exact exists_standsFor_of_mem_layouts _ _ _ (holds_of_ofDefinition h).children n hn

/-- Every node of an accepted tree stands for a definition, its own subtree. -/
theorem exists_standsFor {d : Definition} (h : ofDefinition d separator = .ok t) {n : Node}
    (hn : n ∈ t.nodes) : ∃ parent e, t.StandsFor separator parent n e := by
  rcases List.mem_cons.mp hn with rfl | hBelow
  · exact ⟨none, d, root_standsFor h⟩
  · obtain ⟨q, e, hStands⟩ := exists_standsFor_of_mem_below h hBelow
    exact ⟨some q, e, hStands⟩

namespace StandsFor

variable {n : Node} {d : Definition}

/-- A node has the entity of the definition it stands for. -/
theorem entity (h : t.StandsFor separator parent n d) : n.entity = d.entity := by
  rw [h.node]
  rfl

/-- The separator of a node is its entity's own, or else the default. -/
theorem separator_eq (h : t.StandsFor separator parent n d) :
    n.separator = d.entity.separator.getD separator := by
  rw [h.node]
  rfl

/-- Below a node, the tree holds the children of the definition it stands for. -/
theorem holdsAll (h : t.StandsFor separator parent n d) :
    t.HoldsAll separator (n.id, n.joined) (n.id + 1) d.children := by
  have hAll := h.holds.children
  rwa [← h.node] at hAll

/-- The children of a node are there for the definitions below its own. -/
theorem childrenOf (h : t.StandsFor separator parent n d) :
    t.childrenOf n = Node.siblings separator (n.id, n.joined) (n.id + 1) d.children := by
  have hChildren : n.children = Node.idsFrom (n.id + 1) d.children := by
    rw [h.node]
    rfl
  rw [Tree.childrenOf, hChildren, h.holdsAll.filterMap_node?]

end StandsFor

/-- Whatever number a node has or names, there is a node of that number. -/
structure Numbered (t : Tree) : Prop where
  own    : ∀ n ∈ t.nodes, t.node? n.id = some n
  child  : ∀ n ∈ t.nodes, ∀ c ∈ n.children, ∃ m, t.node? c = some m
  parent : ∀ n ∈ t.nodes, ∀ l, n.link = some l → ∃ p, t.node? l.parent = some p

/-- In an accepted tree, every node is found at its id. -/
theorem numbered_of_ofDefinition {d : Definition} (h : ofDefinition d separator = .ok t) :
    t.Numbered := by
  refine ⟨fun n hn => ?_, fun n hn c hc => ?_, fun n hn l hLink => exists_parent h hn hLink⟩
  · obtain ⟨parent, e, hStands⟩ := exists_standsFor h hn
    exact hStands.holds.node?.trans (congrArg some hStands.node.symm)
  · obtain ⟨parent, e, hStands⟩ := exists_standsFor h hn
    rw [hStands.node] at hc
    obtain ⟨x, hx⟩ := hStands.holdsAll.exists_node?_of_mem hc
    exact ⟨_, hx⟩

/-- Two nodes of one number are the same. -/
theorem Numbered.eq_of_id (h : t.Numbered) {m n : Node} (hm : m ∈ t.nodes) (hn : n ∈ t.nodes)
    (hId : m.id = n.id) : m = n := by
  have hSame := h.own m hm
  rw [hId, h.own n hn] at hSame
  exact (Option.some.inj hSame).symm

end Tree

end SqlPlan
