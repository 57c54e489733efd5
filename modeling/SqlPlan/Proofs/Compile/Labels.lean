import SqlPlan.Proofs.Compile.Step
import SqlPlan.Proofs.Entity.Address

/-!
# SqlPlan — labels identify columns

A row of a result is read by the labels of its columns. A label is an alias, a
separator and a column, one after another and without a mark where each of them
ends, and every node may have a separator of its own:

* `Projection`, `Tree.projections` — the columns of a result, each with the node
  that it is taken from;
* `Tree.selectList_eq` — they are what a query selects, each under its label;
* `Tree.LabelsApart` — no alias can be taken for the beginning of another one
  with its separator, and no node selects a column twice;
* `Node.tableAlias_eq_of_label_eq` — the alias is then seen from the label, for
  it ends where a character of a separator stands;
* `Tree.LabelsApart.projection_eq` — so a label belongs to one column.
-/

namespace SqlPlan

-- ---------------------------------------------------------------------------
-- Projections
-- ---------------------------------------------------------------------------

/-- A column of a result and the node that it is taken from. -/
@[ext]
structure Projection where
  node : Node
  column : String

namespace Projection

/-- The name of the column in the result. -/
def label (p : Projection) : String := p.node.label p.column

/-- The column as a query selects it. -/
def text (p : Projection) : String := p.node.qualified p.column ++ " AS " ++ p.label

end Projection

/-- The columns of a result, in their order. -/
def Tree.projections (t : Tree) : List Projection :=
  t.joinedNodes.flatMap fun n => n.projected.map (Projection.mk n)

namespace Tree

/-- What is projected: each column that a joined node projects. -/
theorem mem_projections {t : Tree} {p : Projection} :
    p ∈ t.projections ↔ p.node ∈ t.joinedNodes ∧ p.column ∈ p.node.projected := by
  rw [projections, List.mem_flatMap]
  constructor
  · rintro ⟨n, hn, hp⟩
    obtain ⟨column, hColumn, rfl⟩ := List.mem_map.mp hp
    exact ⟨hn, hColumn⟩
  · rintro ⟨hn, hColumn⟩
    exact ⟨p.node, hn, List.mem_map.mpr ⟨p.column, hColumn, rfl⟩⟩

/-- A query selects the projections of its tree. -/
theorem selectList_eq (t : Tree) :
    t.selectList = ", ".intercalate (t.projections.map Projection.text) := by
  rw [selectList, projections, List.map_flatMap]
  simp only [List.map_map]
  rfl

end Tree

-- ---------------------------------------------------------------------------
-- Labels
-- ---------------------------------------------------------------------------

/-- No joined node has an empty separator, an alias with a character of any
separator, or a column that it selects twice. -/
@[mk_iff]
structure Tree.LabelsApart (t : Tree) : Prop where
  separator : ∀ n ∈ t.joinedNodes, n.separator ≠ ""
  aliases   : ∀ n ∈ t.joinedNodes, ∀ m ∈ t.joinedNodes, ∀ c ∈ n.tableAlias.toList,
    c ∉ m.separator.toList
  columns   : ∀ n ∈ t.joinedNodes, n.entity.columns.Nodup
  key       : ∀ n ∈ t.joinedNodes, n.entity.primaryKey ∉ n.entity.columns

instance (t : Tree) : Decidable t.LabelsApart :=
  -- only the characters of the alias are tried, not all that there are
  letI (n m : Node) : Decidable (∀ c ∈ n.tableAlias.toList, c ∉ m.separator.toList) :=
    List.decidableBAll _ _
  decidable_of_iff' _ (Tree.labelsApart_iff t)

/-- Of two names with a separator after each, one cannot go on where the other
has ended, for there it would have a character of the other's separator. -/
theorem eq_nil_of_separators {name more between rest between' rest' : List Char}
    (hBetween : between ≠ []) (hApart : ∀ c ∈ name ++ more, c ∉ between)
    (h : between ++ rest = more ++ (between' ++ rest')) : more = [] := by
  cases more with
  | nil => rfl
  | cons c more =>
    cases between with
    | nil => exact absurd rfl hBetween
    | cons b between =>
      rw [List.cons_append, List.cons_append, List.cons.injEq] at h
      exact absurd (h.1 ▸ List.mem_cons_self ..) (hApart c (by simp))

namespace Node

/-- The alias of a node is seen from its labels. -/
theorem tableAlias_eq_of_label_eq {n m : Node} {column column' : String}
    (hn : n.separator ≠ "") (hm : m.separator ≠ "")
    (hApart : ∀ c ∈ n.tableAlias.toList, c ∉ m.separator.toList)
    (hApart' : ∀ c ∈ m.tableAlias.toList, c ∉ n.separator.toList)
    (h : n.label column = m.label column') : n.tableAlias = m.tableAlias := by
  have hSeparator : ∀ k : Node, k.separator ≠ "" → k.separator.toList ≠ [] := by
    intro k hk hNil
    exact hk (String.toList_eq_nil_iff.mp hNil)
  have hChars := congrArg String.toList h
  simp only [label, String.toList_append, List.append_assoc] at hChars
  refine String.toList_injective ?_
  -- one of the aliases is the beginning of the other
  rcases List.append_eq_append_iff.mp hChars with ⟨more, hMore, hRest⟩ | ⟨more, hMore, hRest⟩
  · rw [hMore] at hApart'
    rw [hMore, eq_nil_of_separators (hSeparator n hn) hApart' hRest, List.append_nil]
  · rw [hMore] at hApart
    rw [hMore, eq_nil_of_separators (hSeparator m hm) hApart hRest, List.append_nil]

end Node

namespace Tree.LabelsApart

variable {d : Definition} {separator : String} {t : Tree}

/-- One node projects no column twice. -/
theorem nodup_projected (h : t.LabelsApart) {n : Node} (hn : n ∈ t.joinedNodes) :
    n.projected.Nodup :=
  List.nodup_cons.mpr ⟨h.key n hn, h.columns n hn⟩

/-- A label belongs to one column of one joined node. -/
theorem projection_eq (ht : ofDefinition d separator = .ok t) (h : t.LabelsApart)
    {p q : Projection} (hp : p.node ∈ t.joinedNodes) (hq : q.node ∈ t.joinedNodes)
    (hLabel : p.label = q.label) : p = q := by
  have hAlias := Node.tableAlias_eq_of_label_eq (h.separator _ hp) (h.separator _ hq)
    (h.aliases _ hp _ hq) (h.aliases _ hq _ hp) hLabel
  have hNode : p.node = q.node :=
    List.inj_on_of_nodup_map (nodup_tableAlias_joinedNodes ht) hp hq hAlias
  have hChars := congrArg String.toList hLabel
  simp only [Projection.label, Node.label, hNode, String.toList_append,
    List.append_cancel_left_eq] at hChars
  exact Projection.ext hNode (String.toList_injective hChars)

theorem nodup_projections (ht : ofDefinition d separator = .ok t) (h : t.LabelsApart) :
    t.projections.Nodup := by
  have hNodes : t.joinedNodes.Nodup := List.Nodup.of_map _ (nodup_tableAlias_joinedNodes ht)
  rw [projections, List.nodup_flatMap]
  refine ⟨fun n hn => ?_, hNodes.imp fun hNe p hp hp' => ?_⟩
  · exact (h.nodup_projected hn).map fun _ _ hSame => congrArg Projection.column hSame
  · obtain ⟨column, -, rfl⟩ := List.mem_map.mp hp
    obtain ⟨column', -, hSame⟩ := List.mem_map.mp hp'
    exact hNe (congrArg Projection.node hSame).symm

end Tree.LabelsApart

/--
**Labels identify columns.** Where no alias has a character of a separator and no
column is selected twice, the columns of a query are selected under labels that
are all different, and no other column of a joined node has one of them, selected
or not. Every node whose column is selected can be turned to, and whoever has
turned to it writes by the label of the column, or by that of the primary key,
the name under which the column is selected, after what is there and binding nothing.
-/
theorem Tree.labels_identify {d : Definition} {separator : String} {t : Tree}
    (ht : ofDefinition d separator = .ok t) (h : t.LabelsApart) :
    t.selectList = ", ".intercalate (t.projections.map Projection.text) ∧
    (t.projections.map Projection.label).Nodup ∧
    (∀ p ∈ t.projections, ∀ q : Projection, q.node ∈ t.joinedNodes →
      (q.label = p.label ↔ q = p)) ∧
    ∀ p ∈ t.projections, (∃ matchers, t.resolve matchers = .ok p.node) ∧
      ∀ dialect (s : State), s.node = p.node → ∃ s',
        s.Writes s'
          ⟨(s.written.get s.current).text ++ p.label, (s.written.get s.current).params⟩ ∧
        s.step t dialect (.columnAlias p.column) = .ok s' ∧
        (p.column = p.node.entity.primaryKey → s.step t dialect .idAlias = .ok s') := by
  refine ⟨t.selectList_eq, ?_, fun p hp q hq => ?_, fun p hp => ?_⟩
  · refine (h.nodup_projections ht).map_on fun p hp q hq hLabel => ?_
    exact h.projection_eq ht (mem_projections.mp hp).1 (mem_projections.mp hq).1 hLabel
  · exact ⟨h.projection_eq ht hq (mem_projections.mp hp).1, fun hSame => hSame ▸ rfl⟩
  · refine ⟨(exists_resolve_iff ht).mpr (mem_projections.mp hp).1, fun dialect s hNode => ?_⟩
    -- at the node of the projection, both instructions name its own alias and separator
    have hLabel : p.label = s.node.label p.column := by rw [hNode]; rfl
    refine ⟨s.writeText p.label, s.writes_writeText p.label, by rw [hLabel]; rfl, fun hKey => ?_⟩
    rw [hLabel, hKey, ← hNode]
    rfl

-- ---------------------------------------------------------------------------
-- A sample
-- ---------------------------------------------------------------------------

/-- Entries of accounts. A column of the entries is called like a label of the
accounts, which have a longer separator. -/
def Definition.ledger : Definition :=
  ((Definition.of "Entry" "entries" "e").withColumns ["a__id", "_id"]).withChild
    (((Definition.of "Account" "accounts" "a").withJoin (.left "account_id" "id")).withSeparator
      "__")

def Tree.ledger : Tree :=
  ⟨.ofDefinition "_" none 0 .ledger, Node.layouts "_" (0, true) 1 Definition.ledger.children⟩

/-- Entries and accounts with underscores at the edges of their columns: still
four labels. -/
theorem Tree.labels_identify_ledger :
    ofDefinition .ledger "_" = .ok .ledger ∧ Tree.ledger.LabelsApart ∧
      Tree.ledger.projections.map Projection.label = ["e_id", "e_a__id", "e__id", "a__id"] ∧
      (Tree.ledger.projections.map Projection.label).Nodup := by
  have ht : ofDefinition .ledger "_" = .ok .ledger := rfl
  have hApart : Tree.ledger.LabelsApart := by decide +kernel
  exact ⟨ht, hApart, by decide, (labels_identify ht hApart).2.1⟩

end SqlPlan
