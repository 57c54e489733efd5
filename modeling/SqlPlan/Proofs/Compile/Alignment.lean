import SqlPlan.Proofs.Compile.Outcome
import SqlPlan.Proofs.Dialect
import SqlPlan.Proofs.Paging

/-!
# SqlPlan — placeholders and parameters stay aligned

Instructions write pieces of SQL that were read apart from each other, and a
quote, a comment or a `-` at the end of one could change what the next one
means. Where every piece is closed none does:

* `Instruction.IsClosed` — what is asked of the texts of an instruction;
* `Piece.IsClosed` — a piece may be written after any closed text;
* `State.IsClosed` — every accumulator is closed and has a placeholder for each
  of its parameters; a step keeps it so (`State.isClosed_advance`), and so does
  a run (`isClosed_reading`);
* `State.IsClosed.isAligned_result` — so a result has as many placeholders as
  parameters.

A plain query begins with the whole query for the tree, which is written
without the blanks at its ends. A name that is closed in the tree, because a
blank follows its last `-`, may then come to stand before a `-` without that
blank. So the FROM clause is asked not to end in such a name.
-/

namespace SqlPlan

-- ---------------------------------------------------------------------------
-- Pieces
-- ---------------------------------------------------------------------------

/-- Whatever an instruction says about SQL is closed. Only a fragment, which
is written trimmed, may have placeholders. -/
def Instruction.IsClosed : Instruction → Prop
  | separator x | text x | column x _ | columnAlias x => Closed x 0
  | pagedMainWhere columns | pagedUseGroupBy columns => ∀ x ∈ columns, Closed x 0
  | sql q => Closed (Text.trim q.text) q.placeholders
  | _ => True

namespace Piece

/-- The piece is closed in the form in which it is written, and has a
placeholder for each of its parameters. -/
def IsClosed : Piece → Prop
  | verbatim q => Closed q.text q.params.length
  | fragment q => Closed (Text.trim q.text) q.params.length

/-- A closed piece keeps what it is added to closed. -/
theorem closed_onto {p : Piece} (hPiece : p.IsClosed) {q : Sql}
    (hBefore : Closed q.text q.params.length) :
    Closed (p.onto q).text (p.onto q).params.length := by
  cases p with
  | verbatim more =>
    rw [onto, Sql.text_append, Sql.params_append, List.length_append]
    exact hBefore.append hPiece
  | fragment more =>
    rw [onto, Sql.text_splice, Sql.params_splice, List.length_append]
    exact hBefore.joinText hPiece

end Piece

section Dialects

variable (k : DialectKind)

/-- A reference to a column is closed if its three parts are. -/
theorem DialectKind.closed_refer {tableAlias separator column : String}
    (hAlias : Closed tableAlias 0) (hSeparator : Closed separator 0) (hColumn : Closed column 0)
    (c : Comparison) : Closed (k.dialect.refer tableAlias separator column c) 0 := by
  have h : Closed (tableAlias ++ separator ++ column) 0 :=
    (hAlias.append hSeparator).append hColumn
  have hBinary : Closed " COLLATE BINARY" 0 := by decide
  have hNocase : Closed " COLLATE NOCASE" 0 := by decide
  have hLower : Closed "LOWER(" 0 := by decide
  have hClose : Closed ")" 0 := by decide
  have hPrefix : Closed "BINARY " 0 := by decide
  cases c with
  | asIs => exact h
  | caseSensitive =>
    cases k with
    | sqlite => exact h.append hBinary
    | postgresql => exact h
    | mysql => exact hPrefix.append h
  | caseInsensitive =>
    cases k with
    | sqlite => exact h.append hNocase
    | postgresql => exact (hLower.append h).append hClose
    | mysql => exact h

/-- What a shipped dialect writes for a list of values has the one placeholder
for it. -/
theorem DialectKind.closed_inArray : Closed (Text.trim k.dialect.inArray) 1 := by
  cases k <;> decide

/-- The range clause of a shipped dialect has the two placeholders of a window. -/
theorem DialectKind.endsInCode_range : EndsInCode k.dialect.range 2 := by
  cases k <;> decide

end Dialects

/-- What instructions write is closed. What begins a plain query is written
trimmed, and must not end in a mark for it. -/
theorem Instruction.isClosed_of_piece? {t : Tree} (k : DialectKind)
    (hNodes : ∀ n ∈ t.nodes, n.IsClosed) {n : Node} (hn : n ∈ t.nodes) {separator : String}
    (hSeparator : Closed separator 0) {i : Instruction} (hi : i.IsClosed)
    (hFragment : ∀ q, i = .sql q → q.placeholders = q.params.length)
    (hFrom : i = .initialQuery ∨ i = .fromQuery → ¬ EndsInMark (Text.trim t.fromClause.text))
    {p : Piece} (hPiece : i.piece? t k.dialect n separator = some p) : p.IsClosed := by
  have hNode := hNodes n hn
  have hMark : Closed "?" 1 := by decide
  cases i with
  | initialQuery =>
    rw [← Option.some.inj hPiece, k.usesDefaults.baseQuery]
    exact (Tree.closed_select hNodes).trim_closed
      ((Tree.endsInMark_trim_select hNodes).not.mpr (hFrom (Or.inl rfl)))
  | fromQuery =>
    rw [← Option.some.inj hPiece, k.usesDefaults.fromQuery]
    exact (Tree.closed_fromClause hNodes).trim_closed (hFrom (Or.inr rfl))
  | text x =>
    rw [← Option.some.inj hPiece]
    exact hi
  | idColumn c =>
    rw [← Option.some.inj hPiece]
    exact k.closed_refer hNode.tableAlias hSeparator hNode.primaryKey c
  | column x c =>
    rw [← Option.some.inj hPiece]
    exact k.closed_refer hNode.tableAlias hSeparator hi c
  | idAlias =>
    rw [← Option.some.inj hPiece]
    exact hNode.label hNode.primaryKey
  | columnAlias x =>
    rw [← Option.some.inj hPiece]
    exact hNode.label hi
  | param | stringParam =>
    rw [← Option.some.inj hPiece]
    exact hMark
  | arrayParam =>
    rw [← Option.some.inj hPiece]
    exact k.closed_inArray
  | sql q =>
    rw [← Option.some.inj hPiece]
    exact Closed.of_eq hi (hFragment q rfl)
  | table =>
    rw [← Option.some.inj hPiece]
    exact hNode.table
  -- the others write nothing
  | _ => simp [piece?] at hPiece

-- ---------------------------------------------------------------------------
-- Steps
-- ---------------------------------------------------------------------------

/-- Everything a state may write next, or has written, is closed. -/
structure State.IsClosed (t : Tree) (s : State) : Prop where
  node      : s.node ∈ t.nodes
  separator : Closed s.separator 0
  columns   : ∀ x ∈ s.columns, Closed x 0
  grouping  : ∀ columns x, s.grouping = some columns → x ∈ columns → Closed x 0
  written   : ∀ a, Closed (s.written.get a).text (s.written.get a).params.length

section Steps

variable {t : Tree}

theorem State.isClosed_start (t : Tree) : (State.start t).IsClosed t where
  node := List.mem_cons_self ..
  separator := show Closed "." 0 by decide
  columns := by simp [start]
  grouping := by simp [start]
  written a := by cases a <;> exact Closed.empty

theorem Instruction.mem_nodes_of_turn? {i : Instruction} {n : Node} (h : i.turn? t = some n) :
    n ∈ t.nodes := by
  rcases turn?_eq_some h with rfl | ⟨matchers, hResolve⟩
  · exact List.mem_cons_self ..
  · exact Tree.mem_nodes_of_resolve hResolve

/-- Adding a closed piece to one accumulator keeps all of them closed. -/
theorem Accumulators.closed_add {as : Accumulators}
    (h : ∀ a, Closed (as.get a).text (as.get a).params.length) (a : Accumulator)
    {p? : Option Piece} (hPiece : ∀ p, p? = some p → p.IsClosed) (b : Accumulator) :
    Closed ((as.add a p?).get b).text ((as.add a p?).get b).params.length := by
  cases p? with
  | none => exact h b
  | some p =>
    by_cases hEq : b = a
    · rw [hEq, add, get_modify_self]
      exact Piece.closed_onto (hPiece p rfl) (h a)
    · rw [add, get_modify_of_ne _ _ hEq]
      exact h b

/-- A step that breaks no rule keeps everything closed. -/
theorem State.isClosed_advance (k : DialectKind) (hNodes : ∀ n ∈ t.nodes, n.IsClosed) {s : State}
    (hs : s.IsClosed t) {i : Instruction} (hi : i.IsClosed)
    (hFragment : ∀ q, i = .sql q → q.placeholders = q.params.length)
    (hFrom : i = .initialQuery ∨ i = .fromQuery → ¬ EndsInMark (Text.trim t.fromClause.text)) :
    (s.advance t k.dialect i).IsClosed t where
  node := by
    show (i.turn? t).getD s.node ∈ t.nodes
    cases hTurn : i.turn? t with
    | none => exact hs.node
    | some n => exact Instruction.mem_nodes_of_turn? hTurn
  separator := by
    cases i with
    | separator between => exact hi
    | _ => exact hs.separator
  columns := by
    intro x hx
    rcases List.mem_append.mp hx with hBefore | hNew
    · exact hs.columns x hBefore
    · cases i with
      | pagedMainWhere columns => exact hi x hNew
      | _ => simp [Instruction.columns] at hNew
  grouping := by
    intro columns x hGrouping hx
    cases i with
    | pagedUseGroupBy more =>
      have hColumns : s.grouping.getD [] ++ more = columns := Option.some.inj hGrouping
      rw [← hColumns] at hx
      rcases List.mem_append.mp hx with hBefore | hNew
      · cases hOld : s.grouping with
        | none => simp [hOld] at hBefore
        | some old =>
          rw [hOld] at hBefore
          exact hs.grouping old x hOld hBefore
      · exact hi x hNew
    | _ => exact hs.grouping columns x hGrouping hx
  -- the one field that needs the rules: a fragment has a parameter for each placeholder
  written := Accumulators.closed_add hs.written s.current fun _ hPiece =>
    Instruction.isClosed_of_piece? k hNodes hs.node hs.separator hi hFragment hFrom hPiece

/-- So does a run. -/
theorem isClosed_reading (k : DialectKind) (hNodes : ∀ n ∈ t.nodes, n.IsClosed)
    {is : List Instruction} (hInstructions : ∀ i ∈ is, i.IsClosed)
    (hFault : firstFault? t is = none)
    (hFrom : .initialQuery ∈ is ∨ .fromQuery ∈ is →
      ¬ EndsInMark (Text.trim t.fromClause.text)) :
    (reading t k.dialect is).IsClosed t := by
  induction is using List.reverseRecOn with
  | nil => exact State.isClosed_start t
  | append_singleton is i ih =>
    rw [firstFault?_concat, Option.or_eq_none_iff] at hFault
    -- what was asked of the whole list holds of all but its last instruction
    have hBefore := ih (fun j hj => hInstructions j (List.mem_append_left _ hj)) hFault.1
      fun h => hFrom (h.imp (List.mem_append_left _) (List.mem_append_left _))
    have hLast : i ∈ is ++ [i] := List.mem_append_right _ (List.mem_singleton_self i)
    rw [reading_concat]
    refine State.isClosed_advance k hNodes hBefore (hInstructions i hLast)
      (Instruction.fault?_eq_none_iff.mp hFault.2).fragment ?_
    rintro (rfl | rfl)
    · exact hFrom (Or.inl hLast)
    · exact hFrom (Or.inr hLast)

end Steps

-- ---------------------------------------------------------------------------
-- Results
-- ---------------------------------------------------------------------------

/-- The fragments of a closed state end outside quotes and comments once they
are trimmed. -/
theorem State.IsClosed.criteria {t : Tree} {s : State} (hs : s.IsClosed t)
    (hNodes : ∀ n ∈ t.nodes, n.IsClosed) :
    (s.criteria t).EndOutside s.written.main.params.length s.written.having.params.length
      s.written.order.params.length s.written.secondary.params.length where
  nodes := hNodes
  columns := hs.columns
  grouping := hs.grouping
  filter := (hs.written .main).trim
  having := (hs.written .having).trim
  order := (hs.written .order).trim
  pageFilter := (hs.written .secondary).trim

/-- A closed state that binds nothing in its order makes aligned queries. -/
theorem State.IsClosed.isAligned_result {t : Tree} {s : State} (hs : s.IsClosed t)
    (k : DialectKind) (hNodes : ∀ n ∈ t.nodes, n.IsClosed)
    (hOrder : s.written.order.params = []) :
    (∀ q, s.result t k.dialect = .plain q → q.isAligned = true) ∧
    ∀ page count w, s.result t k.dialect = .paged page count w →
      page.isAligned = true ∧ count.isAligned = true := by
  have hCriteria := hs.criteria hNodes
  unfold State.result
  cases s.window with
  | none =>
    refine ⟨fun q hq => ?_, by simp⟩
    rw [← Compiled.plain.inj hq, Sql.isAligned_iff]
    exact (hs.written .main).trim.count
  | some w =>
    refine ⟨by simp, fun page count w' hPaged => ?_⟩
    obtain ⟨rfl, rfl, -⟩ := Compiled.paged.inj hPaged
    obtain ⟨hPage, hCount⟩ := (s.criteria t).params_assemble k.usesDefaults w
      s.written.main.params s.written.having.params s.written.secondary.params
    rw [Sql.isAligned_iff, Sql.isAligned_iff, hPage, hCount]
    constructor
    · -- the order is written twice, but has no placeholder
      have hText := (hCriteria.pageQuery k.endsInCode_range).count
      rw [hOrder] at hText
      rw [← k.usesDefaults.pageQuery] at hText
      refine hText.trans ?_
      simp only [List.length_append, List.length_cons, List.length_nil]
      omega
    · have hText := hCriteria.countQuery.count
      rw [← k.usesDefaults.countQuery] at hText
      refine hText.trans ?_
      simp only [List.length_append]

/--
**Placeholders and parameters stay aligned.** Where names and texts are closed
and bind nothing, fragments are closed and conditions bind what they ask for,
every accumulator has a placeholder for each of its parameters at any time, and
so has every query of the result.
-/
theorem compile_aligned {definition : Definition} {separator : String} {t : Tree}
    (ht : Tree.ofDefinition definition separator = .ok t) (k : DialectKind)
    {is : List Instruction} (hNodes : ∀ n ∈ t.nodes, n.IsClosed)
    (hInstructions : ∀ i ∈ is, i.IsClosed)
    (hFrom : .initialQuery ∈ is ∨ .fromQuery ∈ is →
      ¬ EndsInMark (Text.trim t.fromClause.text))
    {c : Compiled} (hc : compile t k.dialect false is = .ok c) :
    (∀ before after, is = before ++ after →
      ∃ s, (State.start t).run t k.dialect before = .ok s ∧
        ∀ a, (s.written.get a).isAligned = true) ∧
    (∀ q, c = .plain q → q.isAligned = true) ∧
    ∀ page count w, c = .paged page count w →
      page.isAligned = true ∧ count.isAligned = true := by
  obtain ⟨hFault, hCompilable, rfl⟩ := result_of_compile ht hc
  constructor
  · rintro before after rfl
    have hBefore := firstFault?_of_append hFault
    have hClosed := isClosed_reading k hNodes
      (fun i hi => hInstructions i (List.mem_append_left _ hi)) hBefore
      fun h => hFrom (h.imp (List.mem_append_left _) (List.mem_append_left _))
    refine ⟨reading t k.dialect before, by rw [State.run_start, hBefore], fun a => ?_⟩
    exact Sql.isAligned_iff.mpr (hClosed.written a).count
  -- nothing is bound in the order, which a page writes twice
  · have hOrder := params_reading t k.dialect is .order
    rw [gather_values_of_page hFault (Or.inl (by decide)),
      boundIn_order_eq_nil_iff.mpr hCompilable.order] at hOrder
    exact (isClosed_reading k hNodes hInstructions hFault hFrom).isAligned_result k hNodes hOrder

theorem Tree.isClosed_orders : ∀ n ∈ (Tree.orders .null).nodes, n.IsClosed := by
  intro n hn
  rcases List.mem_cons.mp hn with rfl | hBelow
  · exact ⟨by decide, by decide, by decide, by decide, by decide, nofun, nofun⟩
  · obtain rfl := List.mem_singleton.mp hBelow
    refine ⟨by decide, by decide, by decide, by decide, by decide, ?_, ?_⟩
    · intro l hLink
      rw [← Option.some.inj hLink]
      decide
    · intro l x _ hLink hCondition
      rw [← Option.some.inj hLink] at hCondition ⊢
      rw [← Option.some.inj hCondition]
      decide

/-- The whole query with a condition on the primary key. -/
def queryById : List Instruction := [.initialQuery, .text " WHERE o.id = ", .param (.int 1)]

/-- A query for orders by their id, with one parameter. -/
theorem compile_aligned_orders :
    (∀ n ∈ (Tree.orders .null).nodes, n.IsClosed) ∧ (∀ i ∈ queryById, i.IsClosed) ∧
      ¬ EndsInMark (Text.trim (Tree.orders .null).fromClause.text) ∧
      ∃ q, compile (.orders .null) DialectKind.mysql.dialect false queryById = .ok (.plain q) ∧
        q.isAligned = true := by
  have hInstructions : ∀ i ∈ queryById, i.IsClosed := by
    have hText : Closed " WHERE o.id = " 0 := by decide
    simp [queryById, Instruction.IsClosed, hText]
  have hFrom : ¬ EndsInMark (Text.trim (Tree.orders .null).fromClause.text) := by
    decide +kernel
  obtain ⟨q, hc⟩ : ∃ q, compile (.orders .null) DialectKind.mysql.dialect false queryById =
      .ok (.plain q) := by
    rw [compile_eq]
    exact ⟨_, rfl⟩
  have hAligned := compile_aligned (Tree.ofDefinition_orders .null) .mysql
    Tree.isClosed_orders hInstructions (fun _ => hFrom) hc
  exact ⟨Tree.isClosed_orders, hInstructions, hFrom, q, hc, hAligned.2.1 q rfl⟩

/-- Orders under an alias that ends in a `-` and a blank. -/
def Tree.dashed : Tree := ⟨.ofDefinition "_" none 0 (.of "Order" "orders" "o-\n"), []⟩

/-- The blank behind the dash is what closes the alias. -/
theorem Tree.isClosed_dashed : ∀ n ∈ Tree.dashed.nodes, n.IsClosed := by
  intro n hn
  obtain rfl : n = _ := List.mem_singleton.mp hn
  exact ⟨by decide, by decide, by decide, by decide, by decide, nofun, nofun⟩

/-- The whole query and then a text that begins with a `-`. -/
def dashedQuery : List Instruction := [.initialQuery, .text "- 1 ", .param .null]

/-- Without its blank, the `-` of the alias makes a comment of the text. -/
theorem compile_dashed :
    ∃ q, Tree.ofDefinition (.of "Order" "orders" "o-\n") "_" = .ok .dashed ∧
      (∀ n ∈ Tree.dashed.nodes, n.IsClosed) ∧ (∀ i ∈ dashedQuery, i.IsClosed) ∧
      compile .dashed DialectKind.sqlite.dialect false dashedQuery = .ok (.plain q) ∧
      q.placeholders = 0 ∧ q.params.length = 1 := by
  refine ⟨(reading Tree.dashed DialectKind.sqlite.dialect dashedQuery).written.main.trimmed, rfl,
    Tree.isClosed_dashed, ?_, ?_, by decide +kernel, rfl⟩
  · have hText : Closed "- 1 " 0 := by decide
    simp [dashedQuery, Instruction.IsClosed, hText]
  · rw [compile_eq]
    rfl

end SqlPlan
