import SqlPlan.Dialect

/-!
# SqlPlan — the queries of a dialect

A dialect may build the query for a tree, its FROM clause, a page and a count in
ways of its own, and is handed the whole tree and all fragments for it. What is
proved of its queries is proved of every dialect where that can be, and else of
those that build them as usual:

* `Dialect.UsesDefaults` — the dialect builds no query in a way of its own;
* `DialectKind.usesDefaults`, `rangeParams_dialect` — no database has such a way;
* `Criteria.assemble_def`, `params_assemble` — what the queries of a page bind, in
  every dialect and in one that builds them as usual.
-/

namespace SqlPlan

/-- The dialect builds none of its queries in a way of its own. -/
structure Dialect.UsesDefaults (d : Dialect) : Prop where
  baseQuery  : ∀ t, d.baseQuery t = t.select
  fromQuery  : ∀ t, d.fromQuery t = t.fromClause
  pageQuery  : ∀ c, d.pageQuery c = c.pageQuery d.range
  countQuery : ∀ c, d.countQuery c = c.countQuery

namespace DialectKind

/-- Databases differ in their spellings, and not in how queries are built. -/
theorem usesDefaults : (k : DialectKind) → k.dialect.UsesDefaults
  | sqlite | postgresql | mysql => ⟨fun _ => rfl, fun _ => rfl, fun _ => rfl, fun _ => rfl⟩

/-- Every database binds the same two values for a range. -/
theorem rangeParams_dialect (k : DialectKind) :
    k.dialect.rangeParams = Window.offsetAndCount := by
  cases k <;> rfl

end DialectKind

/-- What a dialect builds, and the order in which a page and its count bind what has
been collected. -/
theorem Criteria.assemble_def (c : Criteria) (d : Dialect) (w : Window)
    (filter having pageFilter : List Value) :
    c.assemble d w filter having pageFilter =
      (⟨(d.pageQuery c).text, (d.pageQuery c).leading ++ filter ++ having ++
          [(d.rangeParams w).1, (d.rangeParams w).2] ++ (d.pageQuery c).trailing ++ pageFilter⟩,
        ⟨(d.countQuery c).text, (d.countQuery c).params ++ filter ++ having⟩) := rfl

/-- Queries that are built as usual bind the joins first, and a page binds them again. -/
theorem Criteria.params_assemble (c : Criteria) {d : Dialect} (hd : d.UsesDefaults) (w : Window)
    (filter having pageFilter : List Value) :
    (c.assemble d w filter having pageFilter).1.params =
        c.tree.joins.params ++ filter ++ having ++
          [(d.rangeParams w).1, (d.rangeParams w).2] ++ c.tree.joins.params ++ pageFilter ∧
      (c.assemble d w filter having pageFilter).2.params =
        c.tree.joins.params ++ filter ++ having := by
  rw [assemble_def, hd.pageQuery, hd.countQuery]
  exact ⟨rfl, rfl⟩

end SqlPlan
