import SqlPlan.Proofs.Compile.Noting
import SqlPlan.Proofs.Dialect
import SqlPlan.Proofs.Entity.Pruning
import SqlPlan.Proofs.Paging

/-!
# SqlPlan — compiling for a pruned tree

What compiles for a tree compiles to the same queries once lazy entities have
been left out of it, if the dialect does not look for them in queries of its own.
The two walks take the same steps, each at the counterpart of the node where the
other stands:

* `Tree.PrunesTo` — a tree, and one with lazy entities left out;
* `Dialect.LeavesOutLazy` — what is asked of a dialect, and
  `Dialect.UsesDefaults.leavesOutLazy`: whoever builds queries as usual does it,
  for they take from the tree only what the SQL shows (`Criteria.pageQuery_congr`);
* `Instruction.turn_pruned`, `piece?_pruned` — where an instruction turns to, and
  what it writes there;
* `State.Counterpart` — states that agree but for the number of their node;
* `State.Counterpart.advance` — a step keeps them so, `reading_pruned` a walk;
* `Compilable.pruned` — no instruction breaks its rule in the pruned tree only.

The converse fails: a path may lead past a lazy entity that is left out, and
resolve in the pruned tree alone. A dialect is handed the whole tree, and one that
notes the number of its nodes in a comment shows that something has been left out.
-/

namespace SqlPlan

-- ---------------------------------------------------------------------------
-- Dialects
-- ---------------------------------------------------------------------------

/-- The second tree is laid out without lazy entities of the first one. -/
def Tree.PrunesTo (t t' : Tree) : Prop :=
  ∃ definition definition' separator, definition.Pruned definition' ∧
    ofDefinition definition separator = .ok t ∧ ofDefinition definition' separator = .ok t'

/-- The dialect shows nothing of lazy entities in the queries that it builds: they are
the same once such entities are left out. -/
structure Dialect.LeavesOutLazy (d : Dialect) : Prop where
  baseQuery  : ∀ t t', t.PrunesTo t' → d.baseQuery t' = d.baseQuery t
  fromQuery  : ∀ t t', t.PrunesTo t' → d.fromQuery t' = d.fromQuery t
  pageQuery  : ∀ (c : Criteria) t', c.tree.PrunesTo t' →
    d.pageQuery { c with tree := t' } = d.pageQuery c
  countQuery : ∀ (c : Criteria) t', c.tree.PrunesTo t' →
    d.countQuery { c with tree := t' } = d.countQuery c

theorem Tree.PrunesTo.sameSql {t t' : Tree} (h : t.PrunesTo t') : SameSql t t' := by
  obtain ⟨definition, definition', separator, hPruned, ht, ht'⟩ := h
  exact sameSql_of_pruned ht ht' hPruned

section Usual

variable {c : Criteria} {t' : Tree} (h : Tree.SameSql c.tree t')

include h

/-- The primary key of the root and its label are the same for trees that are written
alike. -/
theorem Criteria.root_congr :
    { c with tree := t' }.rootKey = c.rootKey ∧ { c with tree := t' }.rootLabel = c.rootLabel := by
  have hAlias : t'.root.tableAlias = c.tree.root.tableAlias := congrArg Entity.tableAlias h.entity
  constructor
  · simp only [rootKey, Node.qualified, hAlias, h.entity]
  · simp only [rootLabel, Node.label, hAlias, h.entity, h.separator]

/-- So is the query for the primary keys. -/
theorem Criteria.idQuery_congr : { c with tree := t' }.idQuery = c.idQuery := by
  obtain ⟨hKey, hLabel⟩ := root_congr h
  funext fromText withColumns
  simp only [idQuery, projection, groupClause, hKey, hLabel]

/-- So is the page query, whose rows are joined as before. -/
theorem Criteria.pageQuery_congr (range : String) :
    { c with tree := t' }.pageQuery range = c.pageQuery range := by
  obtain ⟨hKey, hLabel⟩ := root_congr h
  have hAlias : t'.root.tableAlias = c.tree.root.tableAlias := congrArg Entity.tableAlias h.entity
  have hHead : { c with tree := t' }.head range = c.head range := by
    have hOrder : { c with tree := t' }.orderClause = c.orderClause := rfl
    unfold head
    rw [idQuery_congr h, hKey, hLabel, hOrder, hAlias, h.entity, h.selectList, h.fromClause]
  rw [pageQuery_eq, pageQuery_eq, hHead, h.fromClause, h.joins]
  rfl

/-- So is the count query. -/
theorem Criteria.countQuery_congr_tree : { c with tree := t' }.countQuery = c.countQuery := by
  rw [countQuery_eq, countQuery_eq, idQuery_congr h, h.fromClause]

end Usual

/-- Queries show nothing of lazy entities if they are built as usual. -/
theorem Dialect.UsesDefaults.leavesOutLazy {d : Dialect} (hd : d.UsesDefaults) :
    d.LeavesOutLazy where
  baseQuery t t' h := by rw [hd.baseQuery, hd.baseQuery, h.sameSql.select]
  fromQuery t t' h := by rw [hd.fromQuery, hd.fromQuery, h.sameSql.fromClause]
  pageQuery c t' h := by rw [hd.pageQuery, hd.pageQuery, Criteria.pageQuery_congr h.sameSql]
  countQuery c t' h := by
    rw [hd.countQuery, hd.countQuery, Criteria.countQuery_congr_tree h.sameSql]

/-- So no database shows anything of them. -/
theorem DialectKind.leavesOutLazy (k : DialectKind) : k.dialect.LeavesOutLazy :=
  k.usesDefaults.leavesOutLazy

section Pruning

variable {definition definition' : Definition} {separator : String} {t t' : Tree} {d : Dialect}

-- ---------------------------------------------------------------------------
-- Instructions
-- ---------------------------------------------------------------------------

/-- An instruction writes the same at counterparts. -/
theorem Instruction.piece?_pruned (hd : d.LeavesOutLazy) (hTree : t.PrunesTo t') {n n' : Node}
    (hNode : Tree.Counterpart t t' separator n n') (between : String) (i : Instruction) :
    i.piece? t' d n' between = i.piece? t d n between := by
  have hAlias : n'.tableAlias = n.tableAlias := congrArg Entity.tableAlias hNode.entity
  have hLabel : n'.label = n.label := by
    funext column
    rw [Node.label, Node.label, hAlias, hNode.separator_eq]
  cases i <;>
    simp only [piece?, hd.baseQuery t t' hTree, hd.fromQuery t t' hTree, hNode.entity, hAlias,
      hLabel]

/-- An instruction turns to counterparts. -/
theorem Instruction.turn_pruned (ht : Tree.ofDefinition definition separator = .ok t)
    (ht' : Tree.ofDefinition definition' separator = .ok t')
    (hPruned : definition.Pruned definition') {n n' : Node}
    (hNode : Tree.Counterpart t t' separator n n') {i : Instruction}
    (hPath : ∀ matchers, i = .path matchers → ∃ m, t.resolve matchers = .ok m) :
    Tree.Counterpart t t' separator ((i.turn? t).getD n) ((i.turn? t').getD n') := by
  have hRoot := Tree.root_counterpart ht ht' hPruned
  cases i with
  | path matchers =>
    obtain ⟨m, hResolve⟩ := hPath matchers rfl
    obtain ⟨m', hResolve', hEnd⟩ := Tree.resolve_pruned ht ht' hPruned hResolve
    simp only [turn?, hResolve, hResolve', Except.toOption, Option.getD_some]
    exact hEnd
  | pagedInitialQuery | pagedMainWhere | pagedMainOrderBy | pagedHaving | pagedSecondaryWhere
  | pagedUseGroupBy | pathRoot => exact hRoot
  | _ => exact hNode

-- ---------------------------------------------------------------------------
-- Walks
-- ---------------------------------------------------------------------------

/-- States that agree but for the number of their node. -/
structure State.Counterpart (t t' : Tree) (separator : String) (s s' : State) : Prop where
  node : Tree.Counterpart t t' separator s.node s'.node
  rest : s' = { s with node := s'.node }

/-- One instruction keeps states so. -/
theorem State.Counterpart.advance (hd : d.LeavesOutLazy)
    (ht : Tree.ofDefinition definition separator = .ok t)
    (ht' : Tree.ofDefinition definition' separator = .ok t')
    (hPruned : definition.Pruned definition') {s s' : State}
    (hState : State.Counterpart t t' separator s s') {i : Instruction}
    (hPath : ∀ matchers, i = .path matchers → ∃ m, t.resolve matchers = .ok m) :
    State.Counterpart t t' separator (s.advance t d i) (s'.advance t' d i) := by
  have hTree : t.PrunesTo t' := ⟨definition, definition', separator, hPruned, ht, ht'⟩
  refine ⟨Instruction.turn_pruned ht ht' hPruned hState.node hPath, ?_⟩
  have hPiece := Instruction.piece?_pruned hd hTree hState.node s.separator i
  rw [hState.rest]
  simp only [State.advance, hPiece]

/-- Walks over instructions whose paths all lead somewhere come to counterparts. -/
theorem reading_pruned (hd : d.LeavesOutLazy)
    (ht : Tree.ofDefinition definition separator = .ok t)
    (ht' : Tree.ofDefinition definition' separator = .ok t')
    (hPruned : definition.Pruned definition') {is : List Instruction}
    (hPath : ∀ matchers, .path matchers ∈ is → ∃ m, t.resolve matchers = .ok m) :
    State.Counterpart t t' separator (reading t d is) (reading t' d is) := by
  induction is using List.reverseRecOn with
  | nil => exact ⟨Tree.root_counterpart ht ht' hPruned, rfl⟩
  | append_singleton is i ih =>
    have hBefore := ih fun matchers hm => hPath matchers (List.mem_append_left _ hm)
    rw [reading_concat, reading_concat]
    exact hBefore.advance hd ht ht' hPruned fun matchers hm => hPath matchers (by simp [hm])

/-- Counterparts make the same result. -/
theorem State.Counterpart.result (hd : d.LeavesOutLazy) (hTree : t.PrunesTo t') {s s' : State}
    (hState : State.Counterpart t t' separator s s') : s'.result t' d = s.result t d := by
  rw [hState.rest, State.result, State.result]
  cases s.window with
  | none => rfl
  -- the fragments are the same, so the two pages differ in their trees at most
  | some w =>
    have hPage : d.pageQuery (s.criteria t') = d.pageQuery (s.criteria t) :=
      hd.pageQuery (s.criteria t) t' hTree
    have hCount : d.countQuery (s.criteria t') = d.countQuery (s.criteria t) :=
      hd.countQuery (s.criteria t) t' hTree
    have hAssemble : ∀ filter having pageFilter,
        (s.criteria t').assemble d w filter having pageFilter =
          (s.criteria t).assemble d w filter having pageFilter := by
      intro filter having pageFilter
      rw [Criteria.assemble_def, Criteria.assemble_def, hPage, hCount]
    exact congrArg (fun queries : Sql × Sql => Compiled.paged queries.1 queries.2 w)
      (hAssemble ..)

-- ---------------------------------------------------------------------------
-- Results
-- ---------------------------------------------------------------------------

/-- What is asked of instructions is satisfied in the pruned tree as well. -/
theorem Compilable.pruned (ht : Tree.ofDefinition definition separator = .ok t)
    (ht' : Tree.ofDefinition definition' separator = .ok t')
    (hPruned : definition.Pruned definition') {is : List Instruction} (h : Compilable t is) :
    Compilable t' is where
  initializer := h.initializer
  window      := h.window
  inPage      := h.inPage
  path        := by
    intro matchers hm
    obtain ⟨n, hResolve, hJoined⟩ := h.path matchers hm
    obtain ⟨n', hResolve', hEnd⟩ := Tree.resolve_pruned ht ht' hPruned hResolve
    exact ⟨n', hResolve', hEnd.joined.trans hJoined⟩
  fragment    := h.fragment
  order       := h.order

/--
**What is fetched lazily has no part in a query.** With lazy entities left out
from below its root, a definition is accepted as before, and whatever compiles
for its whole tree compiles for the pruned one, in every dialect whose own queries
leave out such entities, checked or not, to the same queries with the same
parameters and the same window.
-/
theorem compile_pruned (hPruned : definition.Pruned definition')
    (ht : Tree.ofDefinition definition separator = .ok t) :
    ∃ t', Tree.ofDefinition definition' separator = .ok t' ∧
      ∀ d : Dialect, d.LeavesOutLazy → ∀ strict is c, compile t d strict is = .ok c →
        compile t' d strict is = .ok c := by
  have hSound := hPruned.isSound (Tree.isSound_of_ofDefinition ht)
  obtain ⟨t', ht'⟩ := Tree.exists_ofDefinition_iff.mpr hSound
  have hTree : t.PrunesTo t' := ⟨definition, definition', separator, hPruned, ht, ht'⟩
  refine ⟨t', ht', fun d hd strict is c hCompile => ?_⟩
  obtain ⟨-, hCompilable, hResult⟩ := result_of_compile ht hCompile
  have hAccepted := (refusal?_eq_none_iff ht').mpr (hCompilable.pruned ht ht' hPruned)
  -- every path of a list that compiles ends at a joined node, which pruning has kept
  have hStates := reading_pruned hd ht ht' hPruned fun matchers hm => by
    obtain ⟨n, hResolve, -⟩ := hCompilable.path matchers hm
    exact ⟨n, hResolve⟩
  have hSame := hStates.result hd hTree
  have hUnchecked : compile t' d false is = .ok c := by
    rw [compile_eq, hAccepted, hSame, hResult]
  -- placeholders are checked on the result, which is the same
  exact compile_eq_ok_iff.mpr
    ⟨(compile_eq_ok_iff.mp hUnchecked).1, (compile_eq_ok_iff.mp hCompile).2⟩

end Pruning

/-- Orders with their invoices, which are fetched lazily and come before the lines. -/
def Definition.invoicedOrders (kind : Value) : Definition :=
  let invoice := (Definition.of "Invoice" "invoices" "i").withJoin (.left "id" "order_id")
  { Definition.orders kind with
    children := invoice.fetchedLazily :: (Definition.orders kind).children }

/-- The sample laid out. -/
def Tree.invoicedOrders : Tree :=
  ⟨.ofDefinition "_" none 0 (.invoicedOrders .null),
    Node.layouts "_" (0, true) 1 (Definition.invoicedOrders .null).children⟩

theorem Tree.ofDefinition_invoicedOrders :
    Tree.ofDefinition (.invoicedOrders .null) "_" = .ok .invoicedOrders := rfl

theorem Definition.pruned_invoicedOrders :
    (Definition.invoicedOrders .null).Pruned (.orders .null) :=
  ⟨rfl, .leaveOut rfl (.keep .nil .nil)⟩

/-- Orders with an invoice that is fetched lazily, and without it. -/
theorem compile_pruned_orders :
    (Definition.invoicedOrders .null).Pruned (.orders .null) ∧
      Tree.ofDefinition (.invoicedOrders .null) "_" = .ok .invoicedOrders ∧
      DialectKind.sqlite.dialect.LeavesOutLazy ∧
      ∃ t' c, Tree.ofDefinition (.orders .null) "_" = .ok t' ∧
        compile .invoicedOrders DialectKind.sqlite.dialect false
          [.initialQuery, .path [.entity "Line"], .table] = .ok c ∧
        compile t' DialectKind.sqlite.dialect false
          [.initialQuery, .path [.entity "Line"], .table] = .ok c := by
  have hPruned := Definition.pruned_invoicedOrders
  have ht := Tree.ofDefinition_invoicedOrders
  have hDialect := DialectKind.sqlite.leavesOutLazy
  obtain ⟨t', ht', hSame⟩ := compile_pruned hPruned ht
  exact ⟨hPruned, ht, hDialect, t', _, ht', rfl, hSame _ hDialect _ _ _ rfl⟩

/-- The number of the nodes of a tree, as a text. -/
def Tree.noteOfNumber (t : Tree) : String := toString t.nodes.length

/-- Where a dialect notes how many nodes there are, every text shows that a lazy entity
has been left out. -/
theorem not_pruned_noting :
    (Definition.invoicedOrders .null).Pruned (.orders .null) ∧
    Tree.ofDefinition (.invoicedOrders .null) "_" = .ok .invoicedOrders ∧
    Tree.ofDefinition (.orders .null) "_" = .ok (.orders .null) ∧
    (∀ i ∈ [Instruction.initialQuery, .fromQuery], ∃ q q',
      compile .invoicedOrders (.noting Tree.noteOfNumber) false [i] = .ok (.plain q) ∧
      compile (.orders .null) (.noting Tree.noteOfNumber) false [i] = .ok (.plain q') ∧
      q.text ≠ q'.text) ∧
    ∃ page page' count count' w,
      compile .invoicedOrders (.noting Tree.noteOfNumber) false [.pagedInitialQuery w] =
        .ok (.paged page count w) ∧
      compile (.orders .null) (.noting Tree.noteOfNumber) false [.pagedInitialQuery w] =
        .ok (.paged page' count' w) ∧
      page.text ≠ page'.text ∧ count.text ≠ count'.text := by
  have hPruned := Definition.pruned_invoicedOrders
  have ht := Tree.ofDefinition_invoicedOrders
  have ht' := Tree.ofDefinition_orders .null
  have hSql := Tree.sameSql_of_pruned ht ht' hPruned
  have hNote : Tree.noteOfNumber .invoicedOrders ≠ Tree.noteOfNumber (.orders .null) := by
    decide
  have hPage := Criteria.pageQuery_congr (c := { tree := .invoicedOrders }) hSql
    Dialect.sqlite.range
  have hCount := Criteria.countQuery_congr_tree (c := { tree := .invoicedOrders }) hSql
  exact ⟨hPruned, ht, ht', compile_noting_ne hNote (congrArg Sql.text hSql.select.symm)
    (congrArg Sql.text hSql.fromClause.symm) (congrArg PageQuery.text hPage.symm)
    (congrArg Sql.text hCount.symm)⟩

end SqlPlan
