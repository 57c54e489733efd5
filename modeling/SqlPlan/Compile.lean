import SqlPlan.Dialect
import SqlPlan.Entity.Path

/-!
# SqlPlan — compiling instructions

Instructions are compiled by a walk over them that writes SQL at the end of
one of four accumulators. A plain query writes into the main one only; a page
moves between all four, and its queries are assembled from them at the end:

* `Accumulator`, `Accumulators` — what is written, and where;
* `State` — where the walk stands;
* `State.step` — one instruction;
* `State.finish` — the result of the whole walk;
* `compile` — the walk, the result, and in strict mode the check that every
  query has as many placeholders as parameters.
-/

namespace SqlPlan

-- ---------------------------------------------------------------------------
-- Accumulators
-- ---------------------------------------------------------------------------

/-- A place to write SQL to. -/
inductive Accumulator where
  /-- The query itself; the main filter of a page. -/
  | main
  | order
  | having
  /-- The filter on the joined rows of a page. -/
  | secondary
  deriving DecidableEq, Inhabited

/-- What has been written to each accumulator. -/
structure Accumulators where
  main : Sql := {}
  order : Sql := {}
  having : Sql := {}
  secondary : Sql := {}
  deriving Inhabited

namespace Accumulators

def get (as : Accumulators) : Accumulator → Sql
  | .main => as.main
  | .order => as.order
  | .having => as.having
  | .secondary => as.secondary

/-- Changes what has been written to one accumulator. -/
def modify (as : Accumulators) (f : Sql → Sql) : Accumulator → Accumulators
  | .main => { as with main := f as.main }
  | .order => { as with order := f as.order }
  | .having => { as with having := f as.having }
  | .secondary => { as with secondary := f as.secondary }

@[simp] theorem get_modify_self (as : Accumulators) (f : Sql → Sql) (a : Accumulator) :
    (as.modify f a).get a = f (as.get a) := by
  cases a <;> rfl

theorem get_modify_of_ne (as : Accumulators) (f : Sql → Sql) {a b : Accumulator} (h : b ≠ a) :
    (as.modify f a).get b = as.get b := by
  cases a <;> cases b <;> first | rfl | exact absurd rfl h

end Accumulators

-- ---------------------------------------------------------------------------
-- States
-- ---------------------------------------------------------------------------

/-- Where a walk over instructions stands. -/
structure State where
  written : Accumulators := {}
  current : Accumulator := .main
  /-- The entity that columns are taken from. -/
  node : Node
  /-- What stands between alias and column in a reference. -/
  separator : String := "."
  /-- The instruction that began the query. -/
  initializer : Option Kind := none
  /-- The rows of the page, if the query is one. -/
  window : Option Window := none
  /-- What the inner query of a page also selects. -/
  columns : List String := []
  /-- What the inner query of a page groups by, if it groups. -/
  grouping : Option (List String) := none

namespace State

/-- Before the first instruction. -/
def start (t : Tree) : State := { node := t.root }

/-- Changes what has been written to the current accumulator. -/
def write (s : State) (f : Sql → Sql) : State :=
  { s with written := s.written.modify f s.current }

/-- Writes text as it is. -/
def writeText (s : State) (text : String) : State :=
  s.write (·.append (.ofText text))

/-- Notes the instruction that begins the query. -/
def begin (s : State) (kind : Kind) : Except Error State :=
  match s.initializer with
  | some previous => .error (.secondInitializer kind previous)
  | none => .ok { s with initializer := some kind }

/-- An instruction for pages has a page before it. -/
def inPage (s : State) (kind : Kind) : Except Error Unit :=
  if s.window.isSome then .ok () else .error (.outsidePage kind)

/-- Moves to an accumulator, and back to the root entity. -/
def switch (s : State) (t : Tree) (a : Accumulator) (kind : Kind) : Except Error State := do
  s.inPage kind
  .ok { s with current := a, node := t.root }

/-- A column of the current entity under its alias. -/
def reference (s : State) (d : Dialect) (column : String) (c : Comparison) : String :=
  d.refer s.node.tableAlias s.separator column c

/-- One instruction. -/
def step (t : Tree) (d : Dialect) (s : State) (i : Instruction) : Except Error State :=
  match i with
  | .initialQuery => do
    let s ← s.begin i.kind
    .ok (s.write (·.splice (d.baseQuery t)))
  | .fromQuery => do
    let s ← s.begin i.kind
    .ok (s.write (·.splice (d.fromQuery t)))
  | .pagedInitialQuery w => do
    let s ← s.begin i.kind
    if w.stop < w.start then .error (.invertedWindow w)
    else .ok { s with window := some w, node := t.root }
  | .pagedMainWhere columns => do
    let s ← s.switch t .main i.kind
    .ok { s with columns := s.columns ++ columns }
  | .pagedMainOrderBy => s.switch t .order i.kind
  | .pagedHaving => s.switch t .having i.kind
  | .pagedSecondaryWhere => s.switch t .secondary i.kind
  | .pagedUseGroupBy columns => do
    s.inPage i.kind
    .ok { s with grouping := some (s.grouping.getD [] ++ columns), node := t.root }
  | .path matchers => do
    let n ← t.resolve matchers
    .ok { s with node := n }
  | .pathRoot => .ok { s with node := t.root }
  | .separator text => .ok { s with separator := text }
  | .text text => .ok (s.writeText text)
  | .idColumn c => .ok (s.writeText (s.reference d s.node.entity.primaryKey c))
  | .column name c => .ok (s.writeText (s.reference d name c))
  | .idAlias => .ok (s.writeText (s.node.label s.node.entity.primaryKey))
  | .columnAlias name => .ok (s.writeText (s.node.label name))
  | .param v => .ok (s.write (·.append (.bound v)))
  | .stringParam text => .ok (s.write (·.append (.bound (.string text))))
  | .arrayParam items => .ok (s.write (·.splice ⟨d.inArray, [.list items]⟩))
  | .sql fragment =>
    if fragment.isAligned then .ok (s.write (·.splice fragment))
    else
      .error (.misboundFragment (Text.trim fragment.text) fragment.placeholders
        fragment.params.length)
  | .table => .ok (s.writeText s.node.entity.table)

/-- Instructions one after another, up to the first that fails. -/
def run (t : Tree) (d : Dialect) (s : State) (instructions : List Instruction) :
    Except Error State :=
  instructions.foldlM (step t d) s

end State

-- ---------------------------------------------------------------------------
-- Results
-- ---------------------------------------------------------------------------

/-- What instructions compile to. -/
inductive Compiled where
  | plain (query : Sql)
  | paged (page count : Sql) (window : Window)

namespace Compiled

/-- The query, or the page query. -/
def query : Compiled → Sql
  | plain q => q
  | paged page _ _ => page

/-- The result, which must be a plain query on an entity. -/
def asPlain (root : String) : Compiled → Except Error Sql
  | plain q => .ok q
  | paged _ _ _ => .error (.isPaged root)

/-- The result, which must be a page of an entity. -/
def asPaged (root : String) : Compiled → Except Error (Sql × Sql × Window)
  | paged page count w => .ok (page, count, w)
  | plain _ => .error (.isPlain root)

end Compiled

/-- The fragments of a page that a walk has written. -/
def State.criteria (t : Tree) (s : State) : Criteria :=
  Criteria.trimmed
    { tree := t
      columns := s.columns
      filter := s.written.main.text
      grouping := s.grouping
      having := s.written.having.text
      order := s.written.order.text
      pageFilter := s.written.secondary.text }

/-- The result of a walk that has come to its end. -/
def State.finish (t : Tree) (d : Dialect) (s : State) : Except Error Compiled :=
  let root := t.root.entity.name
  if s.initializer.isNone then .error (.noInitializer root)
  else
    match s.window with
    | none => .ok (.plain s.written.main.trimmed)
    | some w =>
      let bound := s.written.order.params.length
      if bound ≠ 0 then .error (.boundOrder root bound)
      else
        let (page, count) := (s.criteria t).assemble d w s.written.main.params
          s.written.having.params s.written.secondary.params
        .ok (.paged page count w)

/-- A query has as many placeholders as parameters. -/
def Sql.checkAligned (q : Sql) (statement : Statement) : Except Error Unit :=
  if q.isAligned then .ok ()
  else .error (.misaligned statement q.placeholders q.params.length)

/-- The queries of a result have as many placeholders as parameters. -/
def Compiled.checkAligned : Compiled → Except Error Unit
  | plain q => q.checkAligned .query
  | paged page count _ => do
    page.checkAligned .query
    count.checkAligned .countQuery

/-- Compiles instructions without the check of placeholders. -/
def compileLoose (t : Tree) (d : Dialect) (instructions : List Instruction) :
    Except Error Compiled := do
  let s ← (State.start t).run t d instructions
  s.finish t d

/-- Compiles instructions for a tree and a dialect. -/
def compile (t : Tree) (d : Dialect) (strict : Bool) (instructions : List Instruction) :
    Except Error Compiled := do
  let c ← compileLoose t d instructions
  if strict then c.checkAligned
  .ok c

end SqlPlan
