import SqlPlan.Proofs.Compile.Noting
import SqlPlan.Proofs.Dialect
import SqlPlan.Proofs.Entity.Masking
import SqlPlan.Proofs.Paging
import SqlPlan.Value.Printer

/-!
# SqlPlan — values never reach a text

Masking takes away what instructions bind: values become nulls, bound texts and
arrays become empty, and so do the rows of a page that does not end before it
begins. Instructions with the same mask are compiled in the same way, however
their values differ, if the dialect does not show them in queries of its own:

* `Instruction.masked` — what is left of an instruction;
* `Sql.Alike` — the same text, binding as many values, which is what a mask keeps;
* `Dialect.HidesValues` — what is asked of a dialect, and
  `Dialect.UsesDefaults.hidesValues`: whoever builds queries as usual does it;
* `firstFault?_masked` — no rule asks for a value;
* `State.masked_advance`, `masked_reading` — every step keeps the masks of two
  states equal, and so does every run;
* `State.finish_masked` — the results of such states are masked alike.

A dialect is handed the whole tree, with what its joins bind. One that notes these
values in a comment (`Dialect.noting`) is all that it takes for them to reach a text.
-/

namespace SqlPlan

-- ---------------------------------------------------------------------------
-- Masks
-- ---------------------------------------------------------------------------

/-- The rows of a page, unless it ends before it begins. -/
def Window.masked (w : Window) : Window := if w.start ≤ w.stop then ⟨0, 0⟩ else w

/-- An instruction without the values it binds. -/
def Instruction.masked : Instruction → Instruction
  | pagedInitialQuery w => pagedInitialQuery w.masked
  | param _ => param .null
  | stringParam _ => stringParam ""
  | arrayParam _ => arrayParam []
  | sql q => sql q.masked
  | i => i

def Accumulators.masked (as : Accumulators) : Accumulators :=
  ⟨as.main.masked, as.order.masked, as.having.masked, as.secondary.masked⟩

def State.masked (s : State) : State :=
  { s with
    written := s.written.masked
    node := s.node.masked
    window := s.window.map Window.masked }

def Compiled.masked : Compiled → Compiled
  | .plain q => .plain q.masked
  | .paged page count w => .paged page.masked count.masked w.masked

def Piece.masked : Piece → Piece
  | verbatim q => verbatim q.masked
  | fragment q => fragment q.masked

def Criteria.masked (c : Criteria) : Criteria := { c with tree := c.tree.masked }

-- ---------------------------------------------------------------------------
-- Dialects
-- ---------------------------------------------------------------------------

/-- The same text, binding as many values. -/
structure Sql.Alike (q q' : Sql) : Prop where
  text   : q.text = q'.text
  params : q.params.length = q'.params.length

/-- The same text, and as many values before the range and after it. -/
structure PageQuery.Alike (q q' : PageQuery) : Prop where
  text   : q.text = q'.text
  params : q.leading.length + q.trailing.length = q'.leading.length + q'.trailing.length

/-- SQL is alike if it differs in what a mask hides. -/
theorem Sql.alike_iff_masked {q q' : Sql} : q.Alike q' ↔ q.masked = q'.masked := by
  rw [masked, masked, Sql.mk.injEq, Value.maskAll_eq_iff]
  exact ⟨fun h => ⟨h.text, h.params⟩, fun h => ⟨h.1, h.2⟩⟩

/-- A mask keeps what is alike. -/
theorem Sql.masked_alike (q : Sql) : q.masked.Alike q := ⟨rfl, List.length_map ..⟩

/-- The dialect shows no value in the queries that it builds: with nulls in the place
of what the joins bind, they have the same texts and bind as much. -/
structure Dialect.HidesValues (d : Dialect) : Prop where
  baseQuery  : ∀ t, (d.baseQuery t.masked).Alike (d.baseQuery t)
  fromQuery  : ∀ t, (d.fromQuery t.masked).Alike (d.fromQuery t)
  pageQuery  : ∀ c, (d.pageQuery c.masked).Alike (d.pageQuery c)
  countQuery : ∀ c, (d.countQuery c.masked).Alike (d.countQuery c)

namespace Criteria

variable (c : Criteria) (range : String)

theorem rootKey_masked : c.masked.rootKey = c.rootKey := rfl

theorem rootLabel_masked : c.masked.rootLabel = c.rootLabel := rfl

theorem orderClause_masked : c.masked.orderClause = c.orderClause := rfl

/-- An inner query asks for names and texts, which a mask leaves alone. -/
theorem idQuery_masked (fromText : String) (withColumns : Bool) :
    c.masked.idQuery fromText withColumns = c.idQuery fromText withColumns := rfl

/-- So does a page query before the joins of its rows. -/
theorem head_masked : c.masked.head range = c.head range := by
  have hTree : c.masked.tree = c.tree.masked := rfl
  have hFrom : c.tree.fromClause.masked.text = c.tree.fromClause.text := rfl
  have hTable : c.tree.masked.root.entity.table = c.tree.root.entity.table := rfl
  have hAlias : c.tree.masked.root.tableAlias = c.tree.root.tableAlias := rfl
  unfold head
  rw [rootKey_masked, rootLabel_masked, orderClause_masked, idQuery_masked, hTree, hTable, hAlias,
    Tree.selectList_masked, Tree.fromClause_masked, hFrom]

/-- A page query has the same text and binds as many values. -/
theorem pageQuery_masked :
    c.masked.pageQuery range =
      ⟨(c.pageQuery range).text, Value.maskAll (c.pageQuery range).leading,
        Value.maskAll (c.pageQuery range).trailing⟩ := by
  have hTree : c.masked.tree = c.tree.masked := rfl
  have hFilter : c.masked.pageFilter = c.pageFilter := rfl
  have hEq := pageQuery_eq c.masked range
  rw [head_masked, orderClause_masked, hTree, hFilter, Tree.fromClause_masked,
    Tree.joins_masked] at hEq
  exact hEq

/-- A count query has the same text and binds as many values, too. -/
theorem countQuery_masked : c.masked.countQuery = c.countQuery.masked := by
  have hTree : c.masked.tree = c.tree.masked := rfl
  have hEq := countQuery_eq c.masked
  rw [idQuery_masked, hTree, Tree.fromClause_masked] at hEq
  exact hEq

end Criteria

/-- Queries show no value if they are built as usual. -/
theorem Dialect.UsesDefaults.hidesValues {d : Dialect} (hd : d.UsesDefaults) : d.HidesValues where
  baseQuery t := by
    rw [hd.baseQuery, hd.baseQuery, Tree.select_masked]
    exact Sql.masked_alike _
  fromQuery t := by
    rw [hd.fromQuery, hd.fromQuery, Tree.fromClause_masked]
    exact Sql.masked_alike _
  pageQuery c := by
    rw [hd.pageQuery, hd.pageQuery, Criteria.pageQuery_masked]
    exact ⟨rfl, congrArg₂ (· + ·) (List.length_map ..) (List.length_map ..)⟩
  countQuery c := by
    rw [hd.countQuery, hd.countQuery, Criteria.countQuery_masked]
    exact Sql.masked_alike _

theorem DialectKind.hidesValues (k : DialectKind) : k.dialect.HidesValues :=
  k.usesDefaults.hidesValues

-- ---------------------------------------------------------------------------
-- Rules
-- ---------------------------------------------------------------------------

namespace Window

theorem stop_lt_start_masked (w : Window) : w.masked.stop < w.masked.start ↔ w.stop < w.start := by
  unfold masked
  split
  · rename_i h
    exact ⟨fun hLt => absurd hLt (by decide), fun hLt => absurd h (UInt64.not_le.mpr hLt)⟩
  · rfl

/-- A window that is refused is not masked: its bounds are in the error. -/
theorem masked_of_stop_lt_start {w : Window} (h : w.stop < w.start) : w.masked = w :=
  if_neg (UInt64.not_le.mpr h)

theorem masked_masked (w : Window) : w.masked.masked = w.masked := by
  by_cases hStop : w.stop < w.start
  · rw [masked_of_stop_lt_start hStop, masked_of_stop_lt_start hStop]
  · have hMasked : w.masked = ⟨0, 0⟩ := if_pos (UInt64.not_lt.mp hStop)
    rw [hMasked]
    rfl

end Window

namespace Instruction

theorem initializer?_masked (i : Instruction) : i.masked.initializer? = i.initializer? := by
  cases i <;> rfl

theorem window?_masked (i : Instruction) : i.masked.window? = i.window?.map Window.masked := by
  cases i <;> rfl

/-- No rule asks for a value. -/
theorem fault?_masked (t : Tree) (begun : Option Kind) (paged : Bool) (i : Instruction) :
    i.masked.fault? t.masked begun paged = i.fault? t begun paged := by
  cases i with
  | pagedInitialQuery w =>
    -- the error of an inverted page names its rows, so its mask keeps them
    by_cases hStop : w.stop < w.start
    · rw [masked, Window.masked_of_stop_lt_start hStop]
      rfl
    · have hMasked : ¬ w.masked.stop < w.masked.start := by rwa [w.stop_lt_start_masked]
      simp only [masked, fault?, if_neg hStop, if_neg hMasked]
      rfl
  | path matchers =>
    rw [masked, fault?, fault?, Tree.resolve_masked]
    · cases t.resolve matchers <;> rfl
    all_goals simp
  | sql q =>
    have hLength : q.masked.params.length = q.params.length := List.length_map ..
    simp only [masked, fault?, Sql.isAligned, hLength]
    rfl
  | _ => rfl

end Instruction

/-- A view that masking goes through is masked where it is nearest. -/
theorem latest?_masked {α : Type} (view : Instruction → Option α) (mask : α → α)
    (h : ∀ i, view i.masked = (view i).map mask) (is : List Instruction) :
    latest? view (is.map Instruction.masked) = (latest? view is).map mask := by
  induction is using List.reverseRecOn with
  | nil => rfl
  | append_singleton is i ih =>
    rw [List.map_append, List.map_singleton, latest?_concat, latest?_concat, ih, h, Option.map_or]

/-- A mask changes nothing about which instruction breaks its rule first, and
how. -/
theorem firstFault?_masked (t : Tree) (is : List Instruction) :
    firstFault? t.masked (is.map Instruction.masked) = firstFault? t is := by
  induction is using List.reverseRecOn with
  | nil => rfl
  | append_singleton is i ih =>
    have hInitializer := latest?_masked Instruction.initializer? id
      (fun i => by rw [Instruction.initializer?_masked, Option.map_id, id]) is
    have hWindow := latest?_masked Instruction.window? Window.masked
      Instruction.window?_masked is
    rw [List.map_append, List.map_singleton, firstFault?_concat, firstFault?_concat, ih,
      Site.fault?, Site.fault?, hInitializer, hWindow, Option.map_id, Option.isSome_map,
      Instruction.fault?_masked]
    rfl

-- ---------------------------------------------------------------------------
-- Steps
-- ---------------------------------------------------------------------------

namespace Piece

/-- Masks and pieces are put together in any order. -/
theorem masked_onto (p : Piece) (q : Sql) : (p.onto q).masked = p.masked.onto q.masked := by
  have hText : (p.onto q).text = (p.masked.onto q.masked).text := by cases p <;> rfl
  have hSql : p.masked.sql = p.sql.masked := by cases p <;> rfl
  have hParams : Value.maskAll (p.onto q).params = (p.masked.onto q.masked).params := by
    rw [params_onto, params_onto, Value.maskAll_append, hSql]
    rfl
  exact congrArg₂ Sql.mk hText hParams

end Piece

/-- Masks are put on before or after a piece is added. -/
theorem Accumulators.masked_add (as : Accumulators) (a : Accumulator) (p? : Option Piece) :
    (as.add a p?).masked = as.masked.add a (p?.map Piece.masked) := by
  cases p? with
  | none => rfl
  | some p => cases a <;> simp only [add, modify, masked, Option.map_some, Piece.masked_onto]

namespace Instruction

/-- A view that a mask does not hide is the same where the masks are. -/
theorem view_eq_of_masked {α : Type} {view : Instruction → α}
    (h : ∀ i, view i.masked = view i) {i i' : Instruction} (hMasked : i.masked = i'.masked) :
    view i = view i' := by
  rw [← h i, hMasked, h i']

/-- An instruction turns to the masked node. -/
theorem turn?_masked (t : Tree) (i : Instruction) :
    i.masked.turn? t.masked = (i.turn? t).map Node.masked := by
  cases i with
  | path matchers =>
    rw [masked, turn?, turn?, Tree.resolve_masked]
    · cases t.resolve matchers <;> rfl
    all_goals simp
  | _ => rfl

/-- What is written for a masked instruction differs in its values only. -/
theorem piece?_masked {d : Dialect} (hd : d.HidesValues) (t : Tree) (n : Node)
    (separator : String) (i : Instruction) :
    (i.masked.piece? t.masked d n.masked separator).map Piece.masked =
      (i.piece? t d n separator).map Piece.masked := by
  cases i with
  | initialQuery =>
    have hBase := Sql.alike_iff_masked.mp (hd.baseQuery t)
    simp only [masked, piece?, Option.map_some, Piece.masked, hBase]
  | fromQuery =>
    have hFrom := Sql.alike_iff_masked.mp (hd.fromQuery t)
    simp only [masked, piece?, Option.map_some, Piece.masked, hFrom]
  | sql q =>
    have hMasked := Sql.alike_iff_masked.mp q.masked_alike
    simp only [masked, piece?, Option.map_some, Piece.masked, hMasked]
  | _ => rfl

end Instruction

namespace State

variable {t t' : Tree} {d : Dialect}

/-- A step cannot tell states apart that have the same mask. -/
theorem masked_advance (hd : d.HidesValues) {s s' : State} {i i' : Instruction}
    (hTree : t.masked = t'.masked) (hState : s.masked = s'.masked)
    (hInstruction : i.masked = i'.masked) :
    (s.advance t d i).masked = (s'.advance t' d i').masked := by
  simp only [State.masked, State.mk.injEq] at hState
  obtain ⟨hWritten, hCurrent, hNode, hSeparator, hInitializer, hWindow, hColumns, hGrouping⟩ :=
    hState
  have hPiece : (i.piece? t d s.node s.separator).map Piece.masked =
      (i'.piece? t' d s'.node s'.separator).map Piece.masked := by
    rw [← i.piece?_masked hd, ← i'.piece?_masked hd, hInstruction, hTree, hNode, hSeparator]
  have hTurn : (i.turn? t).map Node.masked = (i'.turn? t').map Node.masked := by
    rw [← i.turn?_masked, ← i'.turn?_masked, hInstruction, hTree]
  have hView {α : Type} {view : Instruction → α} (h : ∀ i, view i.masked = view i) :
      view i = view i' := Instruction.view_eq_of_masked h hInstruction
  -- one goal for each part of a state, in the order of its fields
  simp only [State.masked, State.mk.injEq, advance]
  refine ⟨?_, ?_, ?_, ?_, ?_, ?_, ?_, ?_⟩
  · rw [Accumulators.masked_add, Accumulators.masked_add, hWritten, hCurrent, hPiece]
  · rw [hCurrent, hView fun i => show i.masked.switch? = i.switch? by cases i <;> rfl]
  · rw [← Option.getD_map Node.masked, ← Option.getD_map Node.masked, hTurn, hNode]
  · rw [hSeparator, hView fun i => show i.masked.separator? = i.separator? by cases i <;> rfl]
  · rw [hInitializer, hView Instruction.initializer?_masked]
  · rw [Option.map_or, Option.map_or, hWindow, ← i.window?_masked, ← i'.window?_masked,
      hInstruction]
  · rw [hColumns, hView fun i => show i.masked.columns = i.columns by cases i <;> rfl]
  · rw [hGrouping, hView fun i => show i.masked.grouping? = i.grouping? by cases i <;> rfl]

/-- Neither can a run. -/
theorem masked_reading (hd : d.HidesValues) {is is' : List Instruction}
    (hTree : t.masked = t'.masked)
    (hInstructions : is.map Instruction.masked = is'.map Instruction.masked) :
    (reading t d is).masked = (reading t' d is').masked := by
  induction is using List.reverseRecOn generalizing is' with
  | nil =>
    rw [List.map_nil, eq_comm, List.map_eq_nil_iff] at hInstructions
    subst hInstructions
    have hRoot : t.root.masked = t'.root.masked := congrArg Tree.root hTree
    simp only [reading_nil, start, State.masked, hRoot]
  -- lists with the same masks are as long, so both end in an instruction
  | append_singleton is i ih =>
    rcases List.eq_nil_or_concat is' with rfl | ⟨js, j, rfl⟩
    · simp at hInstructions
    · rw [List.concat_eq_append, List.map_append, List.map_append] at hInstructions
      obtain ⟨hBefore, hLast⟩ := List.append_inj' hInstructions rfl
      rw [List.map_singleton, List.map_singleton, List.singleton_inj] at hLast
      rw [List.concat_eq_append, reading_concat, reading_concat]
      exact masked_advance hd hTree (ih hBefore) hLast

end State

-- ---------------------------------------------------------------------------
-- Results
-- ---------------------------------------------------------------------------

/-- The queries of a page have the same texts whatever they bind. -/
theorem Criteria.assemble_masked {d : Dialect} (hd : d.HidesValues) (c : Criteria) (w : Window)
    (filter having pageFilter : List Value) :
    let masks := c.masked.assemble d w.masked (Value.maskAll filter) (Value.maskAll having)
      (Value.maskAll pageFilter)
    let queries := c.assemble d w filter having pageFilter
    masks.1.Alike queries.1 ∧ masks.2.Alike queries.2 := by
  have hPage := hd.pageQuery c
  have hCount := hd.countQuery c
  have hLength : ∀ vs, (Value.maskAll vs).length = vs.length := fun vs => List.length_map ..
  rw [assemble_def, assemble_def]
  refine ⟨⟨hPage.text, ?_⟩, ⟨hCount.text, ?_⟩⟩
  · have hParams := hPage.params
    simp only [List.length_append, List.length_cons, List.length_nil, hLength]
    omega
  · have hParams := hCount.params
    simp only [List.length_append, hLength]
    omega

theorem State.criteria_masked (t : Tree) (s : State) :
    s.masked.criteria t.masked = (s.criteria t).masked := rfl

/-- A result depends on values in its values only. -/
theorem State.result_masked {d : Dialect} (hd : d.HidesValues) (t : Tree) (s : State) :
    (s.masked.result t.masked d).masked = (s.result t d).masked := by
  cases hWindow : s.window with
  | none =>
    have hMasked : s.masked.window = none := by rw [masked, hWindow]; rfl
    have hMain : s.masked.written.main.trimmed.masked = s.written.main.trimmed.masked :=
      Sql.alike_iff_masked.mp s.written.main.trimmed.masked_alike
    rw [result, result, hMasked, hWindow, Compiled.masked, Compiled.masked, hMain]
  -- the fragments bind nothing themselves: their values are handed over beside them
  | some w =>
    have hMasked : s.masked.window = some w.masked := by rw [masked, hWindow]; rfl
    obtain ⟨hPage, hCount⟩ := (s.criteria t).assemble_masked hd w s.written.main.params
      s.written.having.params s.written.secondary.params
    rw [Sql.alike_iff_masked] at hPage hCount
    rw [result, result, hMasked, hWindow, Compiled.masked, Compiled.masked, criteria_masked,
      w.masked_masked]
    exact congrArg₂ (Compiled.paged · · w.masked) hPage hCount

/-- The end of a walk is refused alike, or reached with such results. -/
theorem State.finish_masked {d : Dialect} (hd : d.HidesValues) (t : Tree) (s : State) :
    (s.masked.finish t.masked d).map Compiled.masked = (s.finish t d).map Compiled.masked := by
  have hName : t.masked.root.entity.name = t.root.entity.name := rfl
  have hInitializer : s.masked.initializer = s.initializer := rfl
  have hWindow : s.masked.window.isSome = s.window.isSome := Option.isSome_map
  have hLength : s.masked.written.order.params.length = s.written.order.params.length :=
    List.length_map ..
  rw [finish_eq, finish_eq, hInitializer, hName, hWindow, hLength]
  split
  · rfl
  · split
    · rfl
    · exact congrArg Except.ok (s.result_masked hd t)

/-- Whether a query is aligned does not hang on what it binds. -/
theorem Compiled.checkAligned_masked (c : Compiled) : c.masked.checkAligned = c.checkAligned := by
  have hCheck : ∀ (q : Sql) (s : Statement), q.masked.checkAligned s = q.checkAligned s := by
    intro q s
    have hLength : q.masked.params.length = q.params.length := List.length_map ..
    rw [Sql.checkAligned, Sql.checkAligned, Sql.isAligned, Sql.isAligned, hLength]
    rfl
  cases c with
  | plain q => exact hCheck q .query
  | paged page count w =>
    rw [masked, checkAligned, checkAligned, hCheck, hCheck]

-- ---------------------------------------------------------------------------
-- Two runs
-- ---------------------------------------------------------------------------

/-- Results of the same form, whose queries have the same texts and bind as
many values. -/
inductive Compiled.Alike : Compiled → Compiled → Prop where
  | plain {q q' : Sql} (hQuery : q.Alike q') : Alike (.plain q) (.plain q')
  | paged {page page' count count' : Sql} (w w' : Window) (hPage : page.Alike page')
      (hCount : count.Alike count') : Alike (.paged page count w) (.paged page' count' w')

/-- Results with the same mask are alike. -/
theorem Compiled.alike_of_masked {c c' : Compiled} (h : c.masked = c'.masked) : c.Alike c' := by
  cases c with
  | plain q =>
    cases c' with
    | plain q' =>
      rw [masked, masked, Compiled.plain.injEq] at h
      exact .plain (Sql.alike_iff_masked.mpr h)
    | paged page' count' w' => simp [masked] at h
  | paged page count w =>
    cases c' with
    | plain q' => simp [masked] at h
    | paged page' count' w' =>
      rw [masked, masked, Compiled.paged.injEq] at h
      exact .paged w w' (Sql.alike_iff_masked.mpr h.1) (Sql.alike_iff_masked.mpr h.2.1)

section TwoRuns

variable {t t' : Tree} {d : Dialect} {is is' : List Instruction}

/-- Before placeholders are checked, two runs end alike. -/
theorem compileLoose_masked (hd : d.HidesValues) (hTree : t.masked = t'.masked)
    (hInstructions : is.map Instruction.masked = is'.map Instruction.masked) :
    (compileLoose t d is).map Compiled.masked = (compileLoose t' d is').map Compiled.masked := by
  have hFault : firstFault? t is = firstFault? t' is' := by
    rw [← firstFault?_masked, ← firstFault?_masked t', hTree, hInstructions]
  have hState : (reading t d is).masked = (reading t' d is').masked :=
    State.masked_reading hd hTree hInstructions
  rw [compileLoose_eq, compileLoose_eq, hFault]
  cases firstFault? t' is' with
  | some e => rfl
  | none => rw [← State.finish_masked hd, ← State.finish_masked hd t', hTree, hState]

/-- Results with the same mask pass the check together, or fail it alike. -/
theorem Compiled.checked_alike {c c' : Compiled} (h : c.masked = c'.masked) (strict : Bool) :
    (∃ e, c.checked strict = .error e ∧ c'.checked strict = .error e) ∨
      c.checked strict = .ok c ∧ c'.checked strict = .ok c' := by
  have hCheck : c.checkAligned = c'.checkAligned := by
    rw [← c.checkAligned_masked, h, c'.checkAligned_masked]
  cases strict with
  | false => exact Or.inr ⟨rfl, rfl⟩
  | true =>
    rw [checked, checked, if_pos rfl, if_pos rfl, hCheck]
    cases c'.checkAligned with
    | error e => exact Or.inl ⟨e, rfl, rfl⟩
    | ok u => exact Or.inr ⟨rfl, rfl⟩

/--
**Values never reach a text.** Instructions and trees that differ in what they
bind, and not in how much, are refused with the same error or compiled to the
same texts with as many parameters, in every dialect whose own queries hide values
and whether placeholders are checked or not.
-/
theorem compile_alike (hd : d.HidesValues) (hTree : t.masked = t'.masked)
    (hInstructions : is.map Instruction.masked = is'.map Instruction.masked) (strict : Bool) :
    (∃ e, compile t d strict is = .error e ∧ compile t' d strict is' = .error e) ∨
      ∃ c c', compile t d strict is = .ok c ∧ compile t' d strict is' = .ok c' ∧ c.Alike c' := by
  have hLoose := compileLoose_masked hd hTree hInstructions
  rw [compile_eq_checked, compile_eq_checked]
  -- one run cannot fail where the other succeeds: their outcomes are the same but for masks
  cases hLeft : compileLoose t d is with
  | error e =>
    cases hRight : compileLoose t' d is' with
    | error e' =>
      simp only [hLeft, hRight, Except.map, Except.error.injEq] at hLoose
      exact Or.inl ⟨e, rfl, congrArg Except.error hLoose.symm⟩
    | ok c' => simp [hLeft, hRight, Except.map] at hLoose
  | ok c =>
    cases hRight : compileLoose t' d is' with
    | error e' => simp [hLeft, hRight, Except.map] at hLoose
    | ok c' =>
      simp only [hLeft, hRight, Except.map, Except.ok.injEq] at hLoose
      rcases Compiled.checked_alike hLoose strict with hError | ⟨hOk, hOk'⟩
      · exact Or.inl hError
      · exact Or.inr ⟨c, c', hOk, hOk', Compiled.alike_of_masked hLoose⟩

/-- A page of the rows with a name. -/
def pageNamed (w : Window) (name : String) : List Instruction :=
  [.pagedInitialQuery w, .pagedMainWhere [], .text "o.name = ", .stringParam name]

/-- Two pages of orders, one of them asked for by a name that is SQL. -/
theorem compile_alike_orders :
    DialectKind.postgresql.dialect.HidesValues ∧
    (Tree.orders (.string "std")).masked = (Tree.orders (.int 7)).masked ∧
    (pageNamed ⟨10, 25⟩ "x").map Instruction.masked =
      (pageNamed ⟨0, 9⟩ "' OR 1 = 1").map Instruction.masked ∧
    ∃ c c',
      compile (.orders (.string "std")) DialectKind.postgresql.dialect false
        (pageNamed ⟨10, 25⟩ "x") = .ok c ∧
      compile (.orders (.int 7)) DialectKind.postgresql.dialect false
        (pageNamed ⟨0, 9⟩ "' OR 1 = 1") = .ok c' ∧
      c.Alike c' := by
  have hDialect := DialectKind.postgresql.hidesValues
  have hTree : (Tree.orders (.string "std")).masked = (Tree.orders (.int 7)).masked := rfl
  have hInstructions : (pageNamed ⟨10, 25⟩ "x").map Instruction.masked =
      (pageNamed ⟨0, 9⟩ "' OR 1 = 1").map Instruction.masked := rfl
  refine ⟨hDialect, hTree, hInstructions,
    (compile_alike hDialect hTree hInstructions false).resolve_left ?_⟩
  rintro ⟨e, h, -⟩
  rw [compile_eq] at h
  change Except.ok _ = _ at h
  simp at h

end TwoRuns

/-- What the joins of a tree bind, as a text. -/
def Tree.noteOfValues (t : Tree) : String := ", ".intercalate (t.joins.params.map Value.text)

/-- Where a dialect notes what the joins bind, the value of a join reaches every text. -/
theorem not_alike_noting :
    Tree.ofDefinition (.orders (.int 7)) "_" = .ok (.orders (.int 7)) ∧
    Tree.ofDefinition (.orders (.int 8)) "_" = .ok (.orders (.int 8)) ∧
    (Tree.orders (.int 7)).masked = (Tree.orders (.int 8)).masked ∧
    (∀ i ∈ [Instruction.initialQuery, .fromQuery], ∃ q q',
      compile (.orders (.int 7)) (.noting Tree.noteOfValues) false [i] = .ok (.plain q) ∧
      compile (.orders (.int 8)) (.noting Tree.noteOfValues) false [i] = .ok (.plain q') ∧
      q.text ≠ q'.text) ∧
    ∃ page page' count count' w,
      compile (.orders (.int 7)) (.noting Tree.noteOfValues) false [.pagedInitialQuery w] =
        .ok (.paged page count w) ∧
      compile (.orders (.int 8)) (.noting Tree.noteOfValues) false [.pagedInitialQuery w] =
        .ok (.paged page' count' w) ∧
      page.text ≠ page'.text ∧ count.text ≠ count'.text := by
  have hNote : Tree.noteOfValues (.orders (.int 7)) ≠ Tree.noteOfValues (.orders (.int 8)) := by
    decide +kernel
  exact ⟨Tree.ofDefinition_orders _, Tree.ofDefinition_orders _, rfl,
    compile_noting_ne hNote rfl rfl rfl rfl⟩

end SqlPlan
