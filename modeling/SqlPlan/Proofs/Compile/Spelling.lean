import SqlPlan.Proofs.Compile.Relation

/-!
# SqlPlan — what a dialect has a word on

A dialect that builds its queries as usual is asked how a column is compared with
regard to the case of letters, how it is looked for in an array, and how rows are
limited to a range. It is never asked whether instructions compile or which values
they bind:

* `bindingsOf` — what the result of instructions binds, said without a walk, and
  `bindingsOf_eq`: of the dialect only the parameters of the range are needed;
* `Instruction.isSpelledAlike` — the instructions that no such dialect is asked
  about, and `reading_eq_of_isSpelledAlike`, a walk over them;
* `Criteria.pageText` — a page query around any range clause;
* `Compiled.EqUpToRange` — results that differ in the range clause alone.

The range clause is asked for at the very end, when a page is assembled. That is
why it is seen in one place only, at the end of the derived table.
-/

namespace SqlPlan

-- ---------------------------------------------------------------------------
-- Bindings
-- ---------------------------------------------------------------------------

/-- What a result binds: the parameters of its query, and those of the count with
the rows of the page if it is one. -/
def Compiled.bindings : Compiled → List Value × Option (List Value × Window)
  | plain q => (q.params, none)
  | paged page count w => (page.params, some (count.params, w))

/-- What the result of instructions binds, if its queries are built as usual. -/
def bindingsOf (t : Tree) (d : Dialect) (is : List Instruction) :
    List Value × Option (List Value × Window) :=
  match latest? Instruction.window? is with
  | none => (gather (Instruction.values t d) .main is, none)
  | some w =>
    let count := t.joins.params ++ gather (Instruction.values t d) .main is ++
      gather (Instruction.values t d) .having is
    (count ++ [(d.rangeParams w).1, (d.rangeParams w).2] ++ t.joins.params ++
      gather (Instruction.values t d) .secondary is, some (count, w))

section Dialects

variable {t : Tree} {d d' : Dialect}

/-- A walk binds what its instructions bind, whatever the dialect writes. -/
theorem bindings_result (t : Tree) (hd : d.UsesDefaults) (is : List Instruction) :
    ((reading t d is).result t d).bindings = bindingsOf t d is := by
  have hMain := params_reading t d is .main
  have hHaving := params_reading t d is .having
  have hSecondary := params_reading t d is .secondary
  rw [State.result, reading_window, bindingsOf, ← hMain, ← hHaving, ← hSecondary]
  cases latest? Instruction.window? is with
  | none => rfl
  | some w =>
    obtain ⟨hPage, hCount⟩ := ((reading t d is).criteria t).params_assemble hd w
      (reading t d is).written.main.params (reading t d is).written.having.params
      (reading t d is).written.secondary.params
    simp only [Compiled.bindings, hPage, hCount]
    rfl

/-- Where queries are built as usual, an instruction binds the same in every dialect. -/
theorem Instruction.values_eq (hd : d.UsesDefaults) (hd' : d'.UsesDefaults) :
    Instruction.values t d = Instruction.values t d' := by
  funext i
  cases i with
  | initialQuery => rw [values, values, hd.baseQuery, hd'.baseQuery]
  | fromQuery => rw [values, values, hd.fromQuery, hd'.fromQuery]
  | _ => rfl

/-- So do instructions, if a range does. -/
theorem bindingsOf_eq (hd : d.UsesDefaults) (hd' : d'.UsesDefaults)
    (hRange : d.rangeParams = d'.rangeParams) (is : List Instruction) :
    bindingsOf t d is = bindingsOf t d' is := by
  rw [bindingsOf, bindingsOf, Instruction.values_eq hd hd', hRange]

end Dialects

-- ---------------------------------------------------------------------------
-- Texts
-- ---------------------------------------------------------------------------

/-- Nothing in the instruction is for a dialect to spell: no column with a word on
the case of letters and no array. -/
def Instruction.isSpelledAlike : Instruction → Bool
  | idColumn c | column _ c => decide (c = .asIs)
  | arrayParam _ => false
  | _ => true

section Texts

variable {t : Tree} {d d' : Dialect} {is : List Instruction}

/-- Such an instruction writes the same in dialects that build queries as usual. -/
theorem Instruction.piece?_eq_of_isSpelledAlike (hd : d.UsesDefaults) (hd' : d'.UsesDefaults)
    {i : Instruction} (h : i.isSpelledAlike = true) (n : Node) (separator : String) :
    i.piece? t d n separator = i.piece? t d' n separator := by
  cases i with
  | initialQuery => rw [piece?, piece?, hd.baseQuery, hd'.baseQuery]
  | fromQuery => rw [piece?, piece?, hd.fromQuery, hd'.fromQuery]
  | idColumn c | column name c =>
    obtain rfl := of_decide_eq_true h
    rfl
  | arrayParam items => simp [isSpelledAlike] at h
  | _ => rfl

/-- Of all that a step does only the piece that is written is asked of a dialect. -/
theorem State.advance_eq_of_isSpelledAlike (hd : d.UsesDefaults) (hd' : d'.UsesDefaults)
    {i : Instruction} (h : i.isSpelledAlike = true) (s : State) :
    s.advance t d i = s.advance t d' i := by
  rw [advance, advance, Instruction.piece?_eq_of_isSpelledAlike hd hd' h]

/-- So a walk over such instructions comes to the same state. -/
theorem reading_eq_of_isSpelledAlike (hd : d.UsesDefaults) (hd' : d'.UsesDefaults)
    (h : ∀ i ∈ is, i.isSpelledAlike = true) : reading t d is = reading t d' is := by
  induction is using List.reverseRecOn with
  | nil => rfl
  | append_singleton is i ih =>
    rw [List.forall_mem_append, List.forall_mem_singleton] at h
    rw [reading_concat, reading_concat, ih h.1, State.advance_eq_of_isSpelledAlike hd hd' h.2]

/-- A page query with a range clause at the end of its derived table. -/
def Criteria.pageText (c : Criteria) (range : String) : String :=
  "SELECT " ++ c.tree.selectList ++ " FROM (" ++
    (", ".intercalate (c.keys :: c.columns) ++ c.relation ++ c.orderClause ++ " " ++ range) ++
    ") page_ids " ++ c.rows ++ c.orderClause

/-- The queries of a page, with the range clause of a dialect in its place. -/
theorem Criteria.assemble_eq (c : Criteria) (hd : d.UsesDefaults) (w : Window)
    (filter having pageFilter : List Value) :
    c.assemble d w filter having pageFilter =
      (⟨c.pageText d.range, c.tree.joins.params ++ filter ++ having ++
          [(d.rangeParams w).1, (d.rangeParams w).2] ++ c.tree.joins.params ++ pageFilter⟩,
        ⟨c.countQuery.text, c.tree.joins.params ++ filter ++ having⟩) := by
  rw [pageText, ← c.pageQuery_eq_keys d.range]
  rw [assemble_def, hd.pageQuery, hd.countQuery]
  rfl

/-- Two results are one but for the range clause at the end of the derived table of
a page. -/
inductive Compiled.EqUpToRange (t : Tree) (range range' : String) : Compiled → Compiled → Prop
  | plain (q : Sql) : EqUpToRange t range range' (.plain q) (.plain q)
  | paged (c : Criteria) (hTree : c.tree = t) (params : List Value) (count : Sql) (w : Window) :
    EqUpToRange t range range' (.paged ⟨c.pageText range, params⟩ count w)
      (.paged ⟨c.pageText range', params⟩ count w)

/-- Dialects that bind the same for a range make the same of a walk but for the
range clause. -/
theorem State.eqUpToRange_result (hd : d.UsesDefaults) (hd' : d'.UsesDefaults)
    (h : d.rangeParams = d'.rangeParams) (s : State) :
    (s.result t d).EqUpToRange t d.range d'.range (s.result t d') := by
  unfold result
  cases s.window with
  | none => exact .plain _
  | some w =>
    have hTree : (s.criteria t).tree = t := rfl
    simp only [Criteria.assemble_eq _ hd, Criteria.assemble_eq _ hd', h]
    exact .paged _ hTree _ _ w

end Texts

-- ---------------------------------------------------------------------------
-- Two dialects
-- ---------------------------------------------------------------------------

/--
**A dialect changes nothing but spelling.** Whether instructions compile, with
which error they do not, which parameters their queries bind and which rows a page
has are the same for every database. Where no column is compared with a word on
the case of letters or looked for in an array, so are the texts of a plain query
and of a count, and that of a page but for the range clause at the end of its
derived table.
-/
theorem compile_dialects (t : Tree) (k k' : DialectKind) (is : List Instruction) :
    (∃ e, compile t k.dialect false is = .error e ∧ compile t k'.dialect false is = .error e) ∨
    ∃ c c', compile t k.dialect false is = .ok c ∧ compile t k'.dialect false is = .ok c' ∧
      c.bindings = c'.bindings ∧
      ((∀ i ∈ is, i.isSpelledAlike = true) →
        c.EqUpToRange t k.dialect.range k'.dialect.range c') := by
  have hRange : k.dialect.rangeParams = k'.dialect.rangeParams := by
    rw [k.rangeParams_dialect, k'.rangeParams_dialect]
  rw [compile_eq, compile_eq]
  cases refusal? t is with
  | some e => exact Or.inl ⟨e, rfl, rfl⟩
  | none =>
    refine Or.inr ⟨_, _, rfl, rfl, ?_, fun hAlike => ?_⟩
    · rw [bindings_result t k.usesDefaults, bindings_result t k'.usesDefaults,
        bindingsOf_eq k.usesDefaults k'.usesDefaults hRange]
    -- nothing in the walk is spelled differently, so only the range clause is left
    · rw [reading_eq_of_isSpelledAlike k'.usesDefaults k.usesDefaults hAlike]
      exact State.eqUpToRange_result k.usesDefaults k'.usesDefaults hRange _

/-- A page of orders in two dialects, up to their range clauses. -/
theorem compile_dialects_orders :
    (∀ i ∈ ordersByTotal, i.isSpelledAlike = true) ∧
    ∃ (c : Criteria) (params : List Value) (count : Sql),
      compile (.orders (.int 3)) DialectKind.mysql.dialect false ordersByTotal =
        .ok (.paged ⟨c.pageText "LIMIT ?, ?", params⟩ count ⟨0, 5⟩) ∧
      compile (.orders (.int 3)) DialectKind.postgresql.dialect false ordersByTotal =
        .ok (.paged ⟨c.pageText "OFFSET ? ROWS FETCH NEXT ? ROWS ONLY", params⟩ count ⟨0, 5⟩) := by
  have hAlike : ∀ i ∈ ordersByTotal, i.isSpelledAlike = true := by decide
  obtain ⟨page, count, hc⟩ : ∃ page count, compile (.orders (.int 3))
      DialectKind.mysql.dialect false ordersByTotal = .ok (.paged page count ⟨0, 5⟩) := by
    rw [compile_eq]
    exact ⟨_, _, rfl⟩
  rcases compile_dialects (.orders (.int 3)) .mysql .postgresql ordersByTotal with
    ⟨e, he, -⟩ | ⟨c, c', hMysql, hPostgresql, -, hTexts⟩
  · rw [hc] at he
    exact absurd he (by simp)
  · obtain rfl := Except.ok.inj (hc.symm.trans hMysql)
    cases hTexts hAlike with
    | paged criteria hTree params => exact ⟨hAlike, criteria, params, count, hMysql, hPostgresql⟩

end SqlPlan
