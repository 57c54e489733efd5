import SqlPlan.Entity.Definition
import SqlPlan.Error
import SqlPlan.Text.Blank

/-!
# SqlPlan — entity trees

An accepted definition is laid out as a list of nodes, each before the nodes
below it and numbered by its place in the list. A node is *joined* when it and
all nodes above it, the root apart, are fetched eagerly; only such nodes occur
in generated SQL:

* `Definition.fault?` — the first thing wrong with a definition;
* `Node`, `Link` — a laid-out entity and its tie to its parent;
* `Node.layout` — the nodes of a definition from a number on;
* `Tree` — the nodes of an accepted definition, the root first;
* `Tree.select`, `Tree.fromClause`, `Tree.joins` — the SQL of a tree.
-/

namespace SqlPlan

-- ---------------------------------------------------------------------------
-- Acceptance
-- ---------------------------------------------------------------------------

/-- The first fault of entities below the root: an alias that is empty or
already seen, or no join. -/
def Entity.faultBelow? (seen : List String) : List Entity → Option Error
  | [] => none
  | e :: rest =>
    if e.tableAlias = "" then some (.emptyAlias e.name)
    else if e.tableAlias ∈ seen then some (.repeatedAlias e.tableAlias e.name)
    else if e.join.isNone then some (.noJoin e.name)
    else faultBelow? (e.tableAlias :: seen) rest

/-- The first fault of a definition. Its root needs no join. -/
def Definition.fault? (d : Definition) : Option Error :=
  if d.entity.tableAlias = "" then some (.emptyAlias d.entity.name)
  else Entity.faultBelow? [d.entity.tableAlias] (Definition.preorders d.children)

-- ---------------------------------------------------------------------------
-- Nodes
-- ---------------------------------------------------------------------------

/-- The tie of a node to its parent. -/
structure Link where
  parent : Nat
  join : Join

/-- An entity in its place in a tree. -/
structure Node where
  id : Nat
  entity : Entity
  /-- What stands between alias and column in a label. -/
  separator : String
  link : Option Link
  children : List Nat
  /-- The node occurs in generated SQL. -/
  joined : Bool

namespace Node

def tableAlias (n : Node) : String := n.entity.tableAlias

/-- A column of the table under its alias. -/
def qualified (n : Node) (column : String) : String :=
  n.tableAlias ++ "." ++ column

/-- The name of a column in the result. -/
def label (n : Node) (column : String) : String :=
  n.tableAlias ++ n.separator ++ column

/-- The columns of the result, the primary key first. -/
def projected (n : Node) : List String :=
  n.entity.primaryKey :: n.entity.columns

/-- The numbers of definitions laid out one after another from `id` on. -/
def idsFrom (id : Nat) : List Definition → List Nat
  | [] => []
  | d :: rest => id :: idsFrom (id + d.size) rest

mutual

/-- The nodes of a definition, numbered from `id` on. -/
def layout (separator : String) (parent : Option (Nat × Bool)) (id : Nat) :
    Definition → List Node
  | ⟨entity, children⟩ =>
    let joined := match parent with
      | none => true
      | some (_, above) => entity.fetch = .eager && above
    let link := match parent, entity.join with
      | some (p, _), some join => some ⟨p, join⟩
      | _, _ => none
    { id, entity, separator := entity.separator.getD separator, link,
      children := idsFrom (id + 1) children, joined } ::
      layouts separator (id, joined) (id + 1) children

/-- The nodes of the children of a node, numbered from `id` on. -/
def layouts (separator : String) (parent : Nat × Bool) (id : Nat) :
    List Definition → List Node
  | [] => []
  | d :: rest =>
    layout separator (some parent) id d ++ layouts separator parent (id + d.size) rest

end

end Node

-- ---------------------------------------------------------------------------
-- Trees
-- ---------------------------------------------------------------------------

/-- The nodes of an accepted definition: the root, and those below it in the
order of their numbers. -/
structure Tree where
  root : Node
  below : List Node

namespace Tree

def nodes (t : Tree) : List Node := t.root :: t.below

/-- What stands between alias and column if nothing else is said. -/
def defaultSeparator : String := "_"

/-- The tree of a definition without faults. -/
def ofDefinition (d : Definition) (separator : String) : Except Error Tree :=
  match d.fault? with
  | some e => .error e
  | none =>
    match Node.layout separator none 0 d with
    | root :: below => .ok ⟨root, below⟩
    | [] => .error (.emptyAlias d.entity.name)

def node? (t : Tree) (id : Nat) : Option Node := t.nodes[id]?

/-- The node of an alias. -/
def find? (t : Tree) (tableAlias : String) : Option Node :=
  t.nodes.find? fun n => n.tableAlias = tableAlias

/-- The children of a node, in the order of their definition. -/
def childrenOf (t : Tree) (n : Node) : List Node :=
  n.children.filterMap t.node?

/-- The nodes that occur in generated SQL, each after its parent. -/
def joinedNodes (t : Tree) : List Node := t.nodes.filter Node.joined

-- ---------------------------------------------------------------------------
-- The SQL of a tree
-- ---------------------------------------------------------------------------

/-- The columns of the result with their labels. -/
def selectList (t : Tree) : String :=
  ", ".intercalate <| t.joinedNodes.flatMap fun n =>
    n.projected.map fun c => n.qualified c ++ " AS " ++ n.label c

/-- The join of a node to its parent. A join without a condition binds no
parameters. -/
def joinOf? (t : Tree) (n : Node) : Option Sql := do
  let link ← n.link
  let parent ← t.node? link.parent
  let on := link.join.kind.keyword ++ " " ++ n.entity.table ++ " " ++ n.tableAlias ++ " ON " ++
    n.qualified link.join.childColumn ++ " = " ++ parent.qualified link.join.parentColumn
  match link.join.condition with
  | some condition => some ⟨on ++ " AND (" ++ Text.trim condition ++ ")", link.join.params⟩
  | none => some (.ofText on)

/-- The joins of the nodes below the root. -/
def joins (t : Tree) : Sql :=
  let parts := t.joinedNodes.filterMap t.joinOf?
  ⟨" ".intercalate (parts.map Sql.text), parts.flatMap Sql.params⟩

/-- A text, and another after it if that is not empty. -/
def followedBy (text more : String) : String :=
  if more = "" then text else text ++ " " ++ more

/-- The table of the root and the joins. -/
def fromClause (t : Tree) : Sql :=
  ⟨followedBy ("FROM " ++ t.root.entity.table ++ " " ++ t.root.tableAlias) t.joins.text,
    t.joins.params⟩

/-- The query for all columns of the tree. -/
def select (t : Tree) : Sql :=
  ⟨"SELECT " ++ t.selectList ++ " " ++ t.fromClause.text, t.fromClause.params⟩

end Tree

end SqlPlan
