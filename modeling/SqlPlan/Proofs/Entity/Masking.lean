import Mathlib.Data.List.Basic
import SqlPlan.Entity.Path

/-!
# SqlPlan — trees without their values

Masking a tree puts nulls in the place of all values that its joins bind, as
many as there were. Two trees with the same mask differ in these values and in
nothing else. What is asked of a tree commutes with its masking:

* `Tree.resolve_masked` — paths lead to the same node, or fail alike;
* `Tree.joins_masked`, `fromClause_masked`, `select_masked` — the SQL of a tree
  has the same text and binds as many values.
-/

namespace SqlPlan

-- ---------------------------------------------------------------------------
-- Masks
-- ---------------------------------------------------------------------------

/-- A null for every value. -/
def Value.maskAll (vs : List Value) : List Value := vs.map fun _ => .null

/-- Masked values differ in their number alone. -/
theorem Value.maskAll_eq_iff {vs vs' : List Value} :
    maskAll vs = maskAll vs' ↔ vs.length = vs'.length := by
  rw [maskAll, maskAll, List.map_const', List.map_const', List.replicate_left_inj]

theorem Value.maskAll_append (vs ws : List Value) :
    maskAll (vs ++ ws) = maskAll vs ++ maskAll ws := List.map_append

def Sql.masked (q : Sql) : Sql := { q with params := Value.maskAll q.params }

def Join.masked (j : Join) : Join := { j with params := Value.maskAll j.params }

def Entity.masked (e : Entity) : Entity := { e with join := e.join.map Join.masked }

def Link.masked (l : Link) : Link := { l with join := l.join.masked }

def Node.masked (n : Node) : Node :=
  { n with entity := n.entity.masked, link := n.link.map Link.masked }

/-- A null in the place of everything that the joins of a tree bind. -/
def Tree.masked (t : Tree) : Tree := ⟨t.root.masked, t.below.map Node.masked⟩

namespace Tree

variable (t : Tree)

/-- The nodes of a masked tree are the masked nodes, in the same order. -/
theorem nodes_masked : t.masked.nodes = t.nodes.map Node.masked := rfl

/-- A masked tree has a masked node where the tree has a node. -/
theorem node?_masked (id : Nat) : t.masked.node? id = (t.node? id).map Node.masked := by
  rw [node?, nodes_masked, List.getElem?_map]
  rfl

-- ---------------------------------------------------------------------------
-- Paths
-- ---------------------------------------------------------------------------

theorem childrenOf_masked (n : Node) :
    t.masked.childrenOf n.masked = (t.childrenOf n).map Node.masked := by
  rw [childrenOf, childrenOf, List.map_filterMap]
  exact List.filterMap_congr fun id _ => t.node?_masked id

/-- A matcher looks at nothing that a mask covers. -/
theorem selects_masked (m : Matcher) (n : Node) : m.selects n.masked = m.selects n := by
  cases m <;> rfl

/-- A step leads to the masked node, or fails with the same error. -/
theorem step_masked (n : Node) (m : Matcher) :
    t.masked.step n.masked m = (t.step n m).map Node.masked := by
  have hSelects : m.selects ∘ Node.masked = m.selects := funext (selects_masked m)
  rw [step, step, childrenOf_masked, List.find?_map, hSelects]
  split
  · rfl
  · cases (t.childrenOf n).find? m.selects <;> rfl

/-- So does a walk: the error of a path names entities and matchers, no values. -/
theorem walk_masked (n : Node) (matchers : List Matcher) :
    t.masked.walk n.masked matchers = (t.walk n matchers).map Node.masked := by
  induction matchers generalizing n with
  | nil => rfl
  | cons m rest ih =>
    rw [walk, walk, List.foldlM_cons, List.foldlM_cons, step_masked]
    cases t.step n m with
    | error e => rfl
    | ok next => exact ih next

/-- Masking hides nothing that a path asks for. -/
theorem resolve_masked (matchers : List Matcher) :
    t.masked.resolve matchers = (t.resolve matchers).map Node.masked := by
  have hWalk := t.walk_masked t.root matchers
  unfold resolve
  split
  · rfl
  · rfl
  · show (t.masked.walk t.root.masked matchers >>= _) = _
    rw [hWalk]
    cases t.walk t.root matchers with
    | error e => rfl
    | ok n =>
      show (if n.joined then _ else _) = _
      cases h : n.joined <;> simp [bind, Except.bind, Except.map, h, Node.masked, Entity.masked]

-- ---------------------------------------------------------------------------
-- The SQL of a tree
-- ---------------------------------------------------------------------------

/-- Which nodes are joined does not hang on what their joins bind. -/
theorem joinedNodes_masked : t.masked.joinedNodes = t.joinedNodes.map Node.masked := by
  rw [joinedNodes, nodes_masked, List.filter_map]
  rfl

/-- Selected columns bind nothing, so their text stays as it is. -/
theorem selectList_masked : t.masked.selectList = t.selectList := by
  rw [selectList, joinedNodes_masked, List.flatMap_map]
  rfl

/-- One join has the same text and binds as many values. -/
theorem joinOf?_masked (n : Node) :
    t.masked.joinOf? n.masked = (t.joinOf? n).map Sql.masked := by
  unfold joinOf?
  cases hLink : n.link with
  | none => simp [Node.masked, hLink]
  | some l =>
    have hMasked : n.masked.link = some l.masked := by
      rw [Node.masked, hLink]
      rfl
    obtain ⟨parent, kind, parentColumn, childColumn, condition, params⟩ := l
    rw [hMasked]
    show (t.masked.node? parent >>= _) = ((t.node? parent >>= _) : Option Sql).map Sql.masked
    rw [node?_masked]
    cases t.node? parent with
    | none => rfl
    -- the parent's names are in the text of a join, and no mask covers them
    | some p => cases condition <;> rfl

/-- Joins have the same text and bind as many values. -/
theorem joins_masked : t.masked.joins = t.joins.masked := by
  have hParts : t.masked.joinedNodes.filterMap t.masked.joinOf? =
      (t.joinedNodes.filterMap t.joinOf?).map Sql.masked := by
    rw [joinedNodes_masked, List.filterMap_map, List.map_filterMap]
    exact List.filterMap_congr fun n _ => t.joinOf?_masked n
  rw [joins, hParts, joins, Sql.masked, Value.maskAll, List.map_flatMap, List.flatMap_map,
    List.map_map]
  rfl

/-- The FROM clause has the same text and binds as many values. -/
theorem fromClause_masked : t.masked.fromClause = t.fromClause.masked := by
  rw [fromClause, joins_masked]
  rfl

theorem select_masked : t.masked.select = t.select.masked := by
  rw [select, selectList_masked, fromClause_masked]
  rfl

end Tree

end SqlPlan
