import Mathlib.Data.List.Sort
import SqlPlan.Proofs.Entity.Acceptance

/-!
# SqlPlan — what a tree says of its definition

A tree is a list of nodes that name one another by number. All that other
modules take for granted of it is gathered here:

* `Entity.offence?`, `Definition.OffendsFirst` — the first entity, in pre-order,
  that has something wrong with it, which is what a refusal is about;
* `Tree.HangsOn` — a node and the one it hangs on: the latter comes first, has
  the number of the former among its children, and decides whether it is joined
  (`exists_hangsOn`);
* `Tree.Unfolds` — the tree read back from a node on, along the lists of children,
  is the definition;
* `Tree.Lists` — what the nodes of an accepted definition are, one by one.
-/

namespace SqlPlan

-- ---------------------------------------------------------------------------
-- Refusals
-- ---------------------------------------------------------------------------

/-- What is wrong with an entity that others come before in pre-order. The first
one needs no join. -/
def Entity.offence? (before : List Entity) (e : Entity) : Option Error :=
  if e.tableAlias = "" then some (.emptyAlias e.name)
  else if e.tableAlias ∈ before.map Entity.tableAlias then
    some (.repeatedAlias e.tableAlias e.name)
  else if before ≠ [] ∧ e.join = none then some (.noJoin e.name)
  else none

/-- The error is about the first entity of the definition with something wrong. -/
def Definition.OffendsFirst (d : Definition) (e : Error) : Prop :=
  ∃ before x after, d.preorder = before ++ x :: after ∧ x.offence? before = some e ∧
    ∀ b y a, before = b ++ y :: a → y.offence? b = none

namespace Entity

/-- The first offence among entities that others come before. -/
def firstOffence? (before : List Entity) : List Entity → Option Error
  | [] => none
  | e :: rest => (e.offence? before).or (firstOffence? (before ++ [e]) rest)

/-- Below the root, the aliases that have been seen are those of the entities
before: the check of a tree and a reading of its list in pre-order come to the
same. -/
theorem faultBelow?_eq_firstOffence? {seen : List String} {before es : List Entity}
    (hSeen : ∀ x, x ∈ seen ↔ x ∈ before.map Entity.tableAlias) (hBefore : before ≠ []) :
    faultBelow? seen es = firstOffence? before es := by
  induction es generalizing seen before with
  | nil => rfl
  | cons e rest ih =>
    have hRest : faultBelow? (e.tableAlias :: seen) rest = firstOffence? (before ++ [e]) rest :=
      ih (fun x => by simp [hSeen, or_comm]) (by simp)
    rw [faultBelow?, firstOffence?, offence?, hRest]
    -- the checks in their order: an alias, a new one, a join
    by_cases hEmpty : e.tableAlias = ""
    · simp [hEmpty]
    · by_cases hRepeated : e.tableAlias ∈ before.map Entity.tableAlias
      · simp [hEmpty, hRepeated, hSeen]
      · cases e.join <;> simp [hEmpty, hRepeated, hSeen, hBefore]

/-- An offence that is found first has an entity of its own, and none before
that entity offends. -/
theorem exists_of_firstOffence? {before es : List Entity} {e : Error}
    (h : firstOffence? before es = some e) :
    ∃ between x after, es = between ++ x :: after ∧ x.offence? (before ++ between) = some e ∧
      ∀ b y a, between = b ++ y :: a → y.offence? (before ++ b) = none := by
  induction es generalizing before with
  | nil => simp [firstOffence?] at h
  | cons x rest ih =>
    rw [firstOffence?] at h
    cases hOwn : x.offence? before with
    | some e' =>
      rw [hOwn, Option.some_or] at h
      refine ⟨[], x, rest, rfl, ?_, fun b y a hEq => by simp at hEq⟩
      rw [List.append_nil, hOwn, h]
    | none =>
      rw [hOwn, Option.none_or] at h
      obtain ⟨between, y, after, hEq, hOffence, hNone⟩ := ih h
      refine ⟨x :: between, y, after, by rw [hEq]; rfl, ?_, ?_⟩
      · rwa [List.append_assoc] at hOffence
      -- of the entities before, the first is free of offences, the others by induction
      · intro b z a hSplit
        cases b with
        | nil =>
          rw [List.nil_append, List.cons.injEq] at hSplit
          rw [List.append_nil, ← hSplit.1, hOwn]
        | cons head b =>
          rw [List.cons_append, List.cons.injEq] at hSplit
          have hLater := hNone b z a hSplit.2
          rw [List.append_assoc, List.singleton_append, hSplit.1] at hLater
          exact hLater

end Entity

/-- The fault of a definition is the first offence in its pre-order. -/
theorem Definition.fault?_eq_firstOffence? (d : Definition) :
    d.fault? = Entity.firstOffence? [] d.preorder := by
  obtain ⟨entity, children⟩ := d
  have hBelow : Entity.faultBelow? [entity.tableAlias] (preorders children) =
      Entity.firstOffence? [entity] (preorders children) :=
    Entity.faultBelow?_eq_firstOffence? (fun x => by simp) (by simp)
  rw [preorder, Entity.firstOffence?, Entity.offence?, fault?, List.nil_append]
  show (if entity.tableAlias = "" then some (Error.emptyAlias entity.name)
    else Entity.faultBelow? [entity.tableAlias] (preorders children)) = _
  rw [hBelow]
  by_cases hEmpty : entity.tableAlias = "" <;> simp [hEmpty]

/-- Every offence of an entity is one of configuration. -/
theorem Entity.category_of_offence? {before : List Entity} {x : Entity} {e : Error}
    (h : x.offence? before = some e) : e.category = .configuration := by
  rw [offence?] at h
  split at h
  · rw [← Option.some.inj h]
    rfl
  · split at h
    · rw [← Option.some.inj h]
      rfl
    · split at h
      · rw [← Option.some.inj h]
        rfl
      · simp at h

namespace Tree

variable {d : Definition} {separator : String} {t : Tree}

/-- A definition is refused for its fault and for nothing else. -/
theorem fault?_of_ofDefinition {e : Error} (h : ofDefinition d separator = .error e) :
    d.fault? = some e := by
  unfold ofDefinition at h
  cases hFault : d.fault? with
  | some e' =>
    simp only [hFault, Except.error.injEq] at h
    rw [h]
  | none => simp [hFault, Node.layout_eq] at h

/-- A refusal is a configuration error about the first entity that offends. -/
theorem offendsFirst_of_ofDefinition {e : Error} (h : ofDefinition d separator = .error e) :
    e.category = .configuration ∧ d.OffendsFirst e := by
  have hFault := fault?_of_ofDefinition h
  rw [Definition.fault?_eq_firstOffence?] at hFault
  obtain ⟨before, x, after, hEq, hOffence, hNone⟩ := Entity.exists_of_firstOffence? hFault
  exact ⟨Entity.category_of_offence? hOffence, before, x, after, hEq, hOffence, hNone⟩

end Tree

-- ---------------------------------------------------------------------------
-- Numbers
-- ---------------------------------------------------------------------------

namespace Node

mutual

/-- The nodes of a subtree are numbered without gaps from the id of its root. -/
theorem map_id_layout (separator : String) :
    ∀ (d : Definition) (parent : Option (Nat × Bool)) (id : Nat),
      (layout separator parent id d).map Node.id = List.range' id d.size
  | ⟨entity, children⟩, parent, id => by
    rw [layout_eq, List.map_cons, map_id_layouts separator children, Definition.size,
      Nat.add_comm 1, List.range'_succ]
    rfl

theorem map_id_layouts (separator : String) :
    ∀ (ds : List Definition) (parent : Nat × Bool) (id : Nat),
      (layouts separator parent id ds).map Node.id = List.range' id (Definition.sizes ds)
  | [], _, _ => rfl
  | d :: rest, parent, id => by
    rw [layouts, List.map_append, map_id_layout separator d, map_id_layouts separator rest,
      Definition.sizes, List.range'_append_1]

end

/-- Ids of siblings are given out in ascending order. -/
theorem le_of_mem_idsFrom {ds : List Definition} {id c : Nat} (h : c ∈ idsFrom id ds) :
    id ≤ c := by
  induction ds generalizing id with
  | nil => simp [idsFrom] at h
  | cons d rest ih =>
    rw [idsFrom, List.mem_cons] at h
    rcases h with rfl | hRest
    · exact Nat.le_refl _
    · have hLe := ih hRest
      omega

/-- The numbers of siblings ascend, for every definition has an entity. -/
theorem pairwise_idsFrom (id : Nat) (ds : List Definition) :
    (idsFrom id ds).Pairwise (· < ·) := by
  induction ds generalizing id with
  | nil => exact List.Pairwise.nil
  | cons d rest ih =>
    rw [idsFrom, List.pairwise_cons]
    refine ⟨fun c hc => ?_, ih _⟩
    have hLe := le_of_mem_idsFrom hc
    have hSize : 0 < d.size := by
      obtain ⟨entity, children⟩ := d
      rw [Definition.size]
      omega
    omega

end Node

namespace Tree

variable {d : Definition} {separator : String} {t : Tree}

/-- In a whole tree, ids are positions. -/
theorem map_id_nodes (h : ofDefinition d separator = .ok t) :
    t.nodes.map Node.id = List.range t.nodes.length := by
  rw [nodes_eq_layout h, Node.map_id_layout, Node.length_layout, List.range_eq_range']

theorem id_of_node? (h : ofDefinition d separator = .ok t) {i : Nat} {n : Node}
    (hn : t.node? i = some n) : n.id = i := by
  have hMap : (t.nodes.map Node.id)[i]? = some n.id := by
    rw [List.getElem?_map]
    exact congrArg (Option.map Node.id) hn
  rw [map_id_nodes h] at hMap
  obtain ⟨hLt, hEq⟩ := List.getElem?_eq_some_iff.mp hMap
  rw [← hEq, List.getElem_range]

theorem mem_of_node? {i : Nat} {n : Node} (hn : t.node? i = some n) : n ∈ t.nodes :=
  List.mem_of_getElem? hn

-- ---------------------------------------------------------------------------
-- Parents
-- ---------------------------------------------------------------------------

/-- A node below the root, and the one it hangs on. -/
structure HangsOn (t : Tree) (separator : String) (n p : Node) : Prop where
  mem    : p ∈ t.nodes
  lt     : p.id < n.id
  child  : n.id ∈ p.children
  stands : ∃ e, t.StandsFor separator (some (p.id, p.joined)) n e

mutual

/-- In a subtree whose root hangs on a node, every node hangs on one. -/
theorem exists_hangsOn_of_mem_layout :
    ∀ (d : Definition) (p : Node) (id : Nat), t.Holds separator (some (p.id, p.joined)) id d →
      p ∈ t.nodes → p.id < id → id ∈ p.children →
      ∀ n ∈ Node.layout separator (some (p.id, p.joined)) id d, ∃ q, t.HangsOn separator n q
  | ⟨entity, children⟩, p, id, h, hMem, hLt, hChild => by
    intro n hn
    rw [Node.layout_eq] at hn
    rcases List.mem_cons.mp hn with rfl | hBelow
    · exact ⟨p, hMem, hLt, hChild, ⟨entity, children⟩, rfl, h⟩
    · -- what is below hangs on the node of this definition, or further down
      have hOwn := mem_of_node? h.node?
      exact exists_hangsOn_of_mem_layouts children _ (id + 1) h.children hOwn (Nat.lt_succ_self _)
        (fun c hc => hc) n hBelow

theorem exists_hangsOn_of_mem_layouts :
    ∀ (ds : List Definition) (p : Node) (id : Nat), t.HoldsAll separator (p.id, p.joined) id ds →
      p ∈ t.nodes → p.id < id → (∀ c ∈ Node.idsFrom id ds, c ∈ p.children) →
      ∀ n ∈ Node.layouts separator (p.id, p.joined) id ds, ∃ q, t.HangsOn separator n q
  | [], _, _, _, _, _, _ => by
    intro n hn
    simp [Node.layouts] at hn
  | d :: rest, p, id, h, hMem, hLt, hChildren => by
    intro n hn
    rw [Node.layouts, List.mem_append] at hn
    rw [Node.idsFrom, List.forall_mem_cons] at hChildren
    rcases hn with hHead | hRest
    · exact exists_hangsOn_of_mem_layout d p id h.head hMem hLt hChildren.1 n hHead
    · exact exists_hangsOn_of_mem_layouts rest p (id + d.size) h.tail hMem (by omega) hChildren.2 n
        hRest

end

/-- Every node but the root hangs on another node of the tree. -/
theorem exists_hangsOn (h : ofDefinition d separator = .ok t) {n : Node} (hn : n ∈ t.below) :
    ∃ p, t.HangsOn separator n p := by
  have hRoot := root_standsFor h
  have hAll := hRoot.holdsAll
  have hId : t.root.id = 0 := by
    rw [root_eq h]
    rfl
  rw [below_eq h] at hn
  have hJoined := joined_root h
  -- all nodes below the root are laid out from the first id on
  refine exists_hangsOn_of_mem_layouts d.children t.root 1 ?_ (List.mem_cons_self ..) (by omega)
    ?_ n ?_
  · rwa [hId] at hAll ⊢
  · rw [root_eq h]
    exact fun c hc => hc
  · rwa [hId, hJoined]

namespace HangsOn

variable {n p : Node}

/-- A node is joined if it is fetched eagerly and what it hangs on is joined. -/
theorem joined (h : t.HangsOn separator n p) :
    n.joined = true ↔ n.entity.fetch = .eager ∧ p.joined = true := by
  obtain ⟨e, hStands⟩ := h.stands
  rw [hStands.entity, hStands.node]
  simp [Node.ofDefinition]

/-- The link of a node names the one it hangs on. -/
theorem link (h : t.HangsOn separator n p) {join : Join} (hJoin : n.entity.join = some join) :
    n.link = some ⟨p.id, join⟩ := by
  obtain ⟨e, hStands⟩ := h.stands
  rw [hStands.entity] at hJoin
  rw [hStands.node]
  simp [Node.ofDefinition, hJoin]

end HangsOn

/-- Every node below the root is linked by its own join to the one it hangs on. -/
theorem exists_hangsOn_link (h : ofDefinition d separator = .ok t) {n : Node}
    (hn : n ∈ t.below) :
    ∃ p join, t.HangsOn separator n p ∧ n.entity.join = some join ∧ n.link = some ⟨p.id, join⟩ := by
  obtain ⟨p, hHangs⟩ := exists_hangsOn h hn
  have hEntity : n.entity ∈ Definition.preorders d.children := by
    rw [← Node.map_entity_layouts separator d.children (0, true) 1, ← below_eq h]
    exact List.mem_map_of_mem hn
  obtain ⟨join, hJoin⟩ := Option.isSome_iff_exists.mp
    ((isSound_of_ofDefinition h).joins n.entity hEntity)
  exact ⟨p, join, hHangs, hJoin, hHangs.link hJoin⟩

theorem link_root (h : ofDefinition d separator = .ok t) : t.root.link = none := by
  rw [root_eq h]
  rfl

/-- The children of a node are the nodes that name it as their parent. -/
theorem mem_children_iff (h : ofDefinition d separator = .ok t) {n : Node} (hn : n ∈ t.nodes)
    {c : Nat} :
    c ∈ n.children ↔ ∃ m ∈ t.nodes, m.link.map Link.parent = some n.id ∧ m.id = c := by
  constructor
  · intro hc
    obtain ⟨parent, e, hStands⟩ := exists_standsFor h hn
    rw [hStands.node] at hc
    obtain ⟨x, hx⟩ := hStands.holdsAll.exists_node?_of_mem hc
    have hId := id_of_node? h hx
    have hMem := mem_of_node? hx
    refine ⟨_, hMem, ?_, hId⟩
    rcases List.mem_cons.mp hMem with hRoot | hBelow
    · -- the root comes before all others, so it is no child
      have hLe := Node.le_of_mem_idsFrom hc
      have hZero : t.root.id = 0 := by
        rw [root_eq h]
        rfl
      rw [← hRoot, hId] at hZero
      omega
    · obtain ⟨l, hLink⟩ := exists_link h hBelow
      cases hJoin : x.entity.join with
      | none => simp [Node.ofDefinition, hJoin] at hLink
      | some join => simp [Node.ofDefinition, hJoin]
  -- what names a node as its parent hangs on it, for ids are unique
  · rintro ⟨m, hm, hParent, rfl⟩
    rcases List.mem_cons.mp hm with rfl | hBelow
    · rw [link_root h] at hParent
      simp at hParent
    · obtain ⟨p, join, hHangs, -, hLink⟩ := exists_hangsOn_link h hBelow
      rw [hLink, Option.map_some, Option.some.injEq] at hParent
      rw [← (numbered_of_ofDefinition h).eq_of_id hHangs.mem hn hParent]
      exact hHangs.child

/-- The nodes that name a node as their parent, by number. -/
def childrenNaming (t : Tree) (n : Node) : List Nat :=
  (t.nodes.filter fun m => m.link.map Link.parent = some n.id).map Node.id

/-- Children are listed in the order of their ids, without repetitions. -/
theorem pairwise_children (h : ofDefinition d separator = .ok t) {n : Node} (hn : n ∈ t.nodes) :
    n.children.Pairwise (· < ·) := by
  obtain ⟨parent, e, hStands⟩ := exists_standsFor h hn
  rw [hStands.node]
  exact Node.pairwise_idsFrom _ _

/-- The children of a node are those that name it as their parent, in the order
of their ids. -/
theorem children_eq_childrenNaming (h : ofDefinition d separator = .ok t) {n : Node}
    (hn : n ∈ t.nodes) : n.children = t.childrenNaming n := by
  have hNaming : (t.childrenNaming n).Pairwise (· < ·) := by
    refine List.Pairwise.sublist (List.filter_sublist.map Node.id) ?_
    rw [map_id_nodes h]
    exact List.pairwise_lt_range
  refine (pairwise_children h hn).eq_of_mem_iff hNaming fun c => ?_
  rw [mem_children_iff h hn, childrenNaming, List.mem_map]
  simp only [List.mem_filter, decide_eq_true_eq, and_assoc]

-- ---------------------------------------------------------------------------
-- The definition read back
-- ---------------------------------------------------------------------------

mutual

/-- From a node on, along the lists of children, the tree reads as a definition. -/
def Unfolds (t : Tree) : Definition → Nat → Prop
  | ⟨entity, children⟩, id =>
    ∃ n, t.node? id = some n ∧ n.entity = entity ∧ UnfoldsAll t children n.children

/-- From several nodes on the tree reads as definitions, one for each. -/
def UnfoldsAll (t : Tree) : List Definition → List Nat → Prop
  | [], ids => ids = []
  | d :: rest, ids => ∃ id more, ids = id :: more ∧ Unfolds t d id ∧ UnfoldsAll t rest more

end

mutual

/-- Where a definition is laid out, the tree unfolds to it again. -/
theorem Holds.unfolds :
    ∀ (d : Definition) (parent : Option (Nat × Bool)) (id : Nat),
      t.Holds separator parent id d → t.Unfolds d id
  | ⟨_, children⟩, _, _, h =>
    ⟨_, h.node?, rfl, HoldsAll.unfoldsAll children _ _ h.children⟩

theorem HoldsAll.unfoldsAll :
    ∀ (ds : List Definition) (parent : Nat × Bool) (id : Nat),
      t.HoldsAll separator parent id ds → t.UnfoldsAll ds (Node.idsFrom id ds)
  | [], _, _, _ => rfl
  | d :: rest, parent, id, h =>
    ⟨id, _, rfl, Holds.unfolds d _ id h.head, HoldsAll.unfoldsAll rest parent _ h.tail⟩

end

-- ---------------------------------------------------------------------------
-- Aliases
-- ---------------------------------------------------------------------------

/-- Among nodes of a tree, one is found under its alias. -/
theorem find?_tableAlias_of_mem (h : ofDefinition d separator = .ok t) {ns : List Node}
    (hns : ∀ m ∈ ns, m ∈ t.nodes) {n : Node} (hn : n ∈ ns) :
    (ns.find? fun m => m.tableAlias = n.tableAlias) = some n := by
  cases hFind : ns.find? fun m => m.tableAlias = n.tableAlias with
  | none =>
    have hNone := List.find?_eq_none.mp hFind n hn
    simp at hNone
  | some m =>
    have hAlias : m.tableAlias = n.tableAlias := by simpa using List.find?_some hFind
    rw [List.inj_on_of_nodup_map (nodup_tableAlias h) (hns m (List.mem_of_find?_eq_some hFind))
      (hns n hn) hAlias]

/-- A node is found under its alias. -/
theorem find?_tableAlias (h : ofDefinition d separator = .ok t) {n : Node} (hn : n ∈ t.nodes) :
    t.find? n.tableAlias = some n :=
  find?_tableAlias_of_mem h (fun _ hm => hm) hn

theorem find?_eq_none {tableAlias : String} (h : ∀ n ∈ t.nodes, n.tableAlias ≠ tableAlias) :
    t.find? tableAlias = none :=
  List.find?_eq_none.mpr fun n hn => by simpa using h n hn

-- ---------------------------------------------------------------------------
-- All nodes
-- ---------------------------------------------------------------------------

/-- What the nodes of a tree are for its definition. -/
structure Lists (t : Tree) (d : Definition) (separator : String) : Prop where
  /-- There is a node for each entity, in pre-order. -/
  entities   : t.nodes.map Node.entity = d.preorder
  /-- They are numbered by their places. -/
  ids        : t.nodes.map Node.id = List.range t.nodes.length
  separators : ∀ n ∈ t.nodes, n.separator = n.entity.separator.getD separator
  root       : t.root.link = none
  /-- All others keep their join, to a parent that comes before them. -/
  links      : ∀ n ∈ t.below, ∃ l, n.link = some l ∧ n.entity.join = some l.join ∧ l.parent < n.id
  children   : ∀ n ∈ t.nodes, n.children = t.childrenNaming n ∧ n.children.Pairwise (· < ·)
  /-- The children of a node are in the order of the definition. -/
  unfolds    : t.Unfolds d 0
  joined     : ∀ n ∈ t.nodes, n.joined = true ↔ n = t.root ∨
    n.entity.fetch = .eager ∧ ∃ l p, n.link = some l ∧ t.node? l.parent = some p ∧ p.joined = true
  found      : ∀ n ∈ t.nodes, t.find? n.tableAlias = some n
  missing    : ∀ tableAlias, (∀ n ∈ t.nodes, n.tableAlias ≠ tableAlias) →
    t.find? tableAlias = none

/-- A node is joined exactly if all steps from the root to it are eager, said
one step at a time. -/
theorem joined_iff (h : ofDefinition d separator = .ok t) {n : Node} (hn : n ∈ t.nodes) :
    n.joined = true ↔ n = t.root ∨ n.entity.fetch = .eager ∧
      ∃ l p, n.link = some l ∧ t.node? l.parent = some p ∧ p.joined = true := by
  rcases List.mem_cons.mp hn with rfl | hBelow
  · simp [joined_root h]
  · obtain ⟨p, join, hHangs, -, hLink⟩ := exists_hangsOn_link h hBelow
    have hParent := (numbered_of_ofDefinition h).own p hHangs.mem
    have hNotRoot : n ≠ t.root := by
      intro hEq
      rw [hEq, link_root h] at hLink
      simp at hLink
    rw [hHangs.joined, hLink]
    simp [hNotRoot, hParent]

/-- An accepted tree lists its definition: each part of this has been shown
above. -/
theorem lists_of_ofDefinition (h : ofDefinition d separator = .ok t) : t.Lists d separator where
  entities   := by rw [nodes_eq_layout h, Node.map_entity_layout]
  ids        := map_id_nodes h
  separators := by
    intro n hn
    obtain ⟨parent, e, hStands⟩ := exists_standsFor h hn
    rw [hStands.separator_eq, hStands.entity]
  root       := link_root h
  links      := by
    intro n hn
    obtain ⟨p, join, hHangs, hJoin, hLink⟩ := exists_hangsOn_link h hn
    exact ⟨_, hLink, hJoin, hHangs.lt⟩
  children   := fun _ hn => ⟨children_eq_childrenNaming h hn, pairwise_children h hn⟩
  unfolds    := Holds.unfolds d none 0 (holds_of_ofDefinition h)
  joined     := fun _ hn => joined_iff h hn
  found      := fun _ hn => find?_tableAlias h hn
  missing    := fun _ hNone => find?_eq_none hNone

/--
**Which definitions have a tree, and what it holds.** A definition has one
exactly if every entity has an alias of its own and, below the root, a join.
Otherwise the refusal is a configuration error about the first entity in
pre-order with something wrong. A tree lists its definition.
-/
theorem ofDefinition_lists (d : Definition) (separator : String) :
    ((∃ t, ofDefinition d separator = .ok t) ↔ d.IsSound) ∧
    (∀ e, ofDefinition d separator = .error e →
      e.category = .configuration ∧ d.OffendsFirst e) ∧
    ∀ t, ofDefinition d separator = .ok t → t.Lists d separator :=
  ⟨exists_ofDefinition_iff, fun _ h => offendsFirst_of_ofDefinition h,
    fun _ h => lists_of_ofDefinition h⟩

end Tree

/-- A definition that uses an alias twice. The second entity has no join either. -/
def Definition.twice : Definition :=
  (Definition.of "Order" "orders" "o").withChild (Definition.of "Line" "lines" "o")

theorem Tree.ofDefinition_lists_orders :
    (∃ t, ofDefinition (.orders .null) "_" = .ok t ∧ t.Lists (.orders .null) "_") ∧
    Definition.twice.OffendsFirst (.repeatedAlias "o" "Line") := by
  have hAccepted : ofDefinition (.orders .null) "_" = .ok (.orders .null) := rfl
  have hRefused : ofDefinition Definition.twice "_" = .error (.repeatedAlias "o" "Line") := rfl
  exact ⟨⟨_, hAccepted, (ofDefinition_lists _ _).2.2 _ hAccepted⟩,
    ((ofDefinition_lists _ _).2.1 _ hRefused).2⟩

end SqlPlan
