import SqlPlan.Entity.Tree

/-!
# SqlPlan — paths through a tree

A path is a list of matchers. From the root each matcher leads to the first
child that it selects; the node reached must be joined:

* `Matcher.selects` — which nodes a matcher selects;
* `Tree.step` — one matcher from a node on;
* `Tree.resolve` — a whole path. The empty path leads to the root, and so does
  every path that begins with the root matcher.
-/

namespace SqlPlan

/-- A child is selected by its type, a marker of it, or its alias. -/
def Matcher.selects (m : Matcher) (n : Node) : Bool :=
  match m with
  | .root => false
  | .entity name => n.entity.name = name
  | .marker name => n.entity.markers.contains name
  | .tableAlias name => n.tableAlias = name

namespace Tree

/-- The first child of a node that a matcher selects. -/
def step (t : Tree) (n : Node) (m : Matcher) : Except Error Node :=
  if m = .root then .error .misplacedRoot
  else
    match (t.childrenOf n).find? m.selects with
    | some child => .ok child
    | none => .error (.noChild m n.entity.name)

/-- The node that matchers lead to from a node on. -/
def walk (t : Tree) (n : Node) (matchers : List Matcher) : Except Error Node :=
  matchers.foldlM t.step n

/-- The joined node that a path leads to. -/
def resolve (t : Tree) (matchers : List Matcher) : Except Error Node :=
  match matchers with
  | [] | .root :: _ => .ok t.root
  | _ => do
    let n ← t.walk t.root matchers
    if n.joined then .ok n else .error (.unjoined n.entity.name)

end Tree

end SqlPlan
