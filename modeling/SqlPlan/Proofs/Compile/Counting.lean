import SqlPlan.Proofs.Compile.Agreement
import SqlPlan.Proofs.Compile.Outcome
import SqlPlan.Proofs.Dialect

/-!
# SqlPlan — what the count of a page depends on

A page is counted by its main filter, its condition on groups and its grouping.
The rows asked for, what the inner query also selects, the order and the filter
on the joined rows have no part in it, and neither has anything that is done
while one of the latter two is written:

* `Accumulator.counted` — the accumulators that make the count;
* `forCount` — what is left of instructions once the rest is erased: outside the
  counted accumulators only switches, separators and grouping;
* `countAlike_forCount` — a walk over what is left agrees with the whole walk on
  the counted accumulators;
* `State.countQuery` — the count, made of nothing else where a dialect counts as
  usual. A dialect with a count query of its own may ask for more.
-/

namespace SqlPlan

-- ---------------------------------------------------------------------------
-- What is left for the count
-- ---------------------------------------------------------------------------

/-- What is written here is part of the count. -/
def Accumulator.counted : Accumulator → Bool
  | main | having => true
  | order | secondary => false

namespace Instruction

/-- The instruction without the rows of its page and without further columns. -/
def bare : Instruction → Instruction
  | pagedInitialQuery _ => pagedInitialQuery ⟨0, 0⟩
  | pagedMainWhere _ => pagedMainWhere []
  | i => i

/-- The instruction has a say beyond the accumulator it stands in: it switches,
sets the separator or groups. -/
def outlasts (i : Instruction) : Bool :=
  i.switch?.isSome || i.separator?.isSome || i.grouping?.isSome

end Instruction

/-- What is left for the count of instructions that begin in an accumulator. -/
def forCount (a : Accumulator) : List Instruction → List Instruction
  | [] => []
  | i :: rest =>
    if a.counted || i.outlasts then i.bare :: forCount (i.switch?.getD a) rest
    else forCount a rest

section Bare

variable (t : Tree) (d : Dialect) (i : Instruction)

@[simp] theorem Instruction.switch?_bare : i.bare.switch? = i.switch? := by
  cases i <;> rfl

@[simp] theorem Instruction.turn?_bare : i.bare.turn? t = i.turn? t := by
  cases i <;> rfl

@[simp] theorem Instruction.separator?_bare : i.bare.separator? = i.separator? := by
  cases i <;> rfl

@[simp] theorem Instruction.grouping?_bare : i.bare.grouping? = i.grouping? := by
  cases i <;> rfl

@[simp] theorem Instruction.piece?_bare (n : Node) (separator : String) :
    i.bare.piece? t d n separator = i.piece? t d n separator := by
  cases i <;> rfl

end Bare

-- ---------------------------------------------------------------------------
-- Walks over what is left
-- ---------------------------------------------------------------------------

/-- States that have done the same for the count. -/
structure State.CountAlike (s s' : State) : Prop where
  agree    : AgreeOn (fun a => a.counted = true) s s'
  grouping : s'.grouping = s.grouping

section Walks

variable {t : Tree} {d : Dialect} {s s' : State}

/-- One instruction, bare on one side, does the same for the count. -/
theorem State.CountAlike.advance_bare (h : CountAlike s s') (i : Instruction) :
    CountAlike (s.advance t d i) (s'.advance t d i.bare) where
  agree := h.agree.advance i.switch?_bare (i.turn?_bare t) i.separator?_bare (i.piece?_bare t d)
  grouping := by
    show (i.bare.grouping?.map (s'.grouping.getD [] ++ ·)).or s'.grouping =
      (i.grouping?.map (s.grouping.getD [] ++ ·)).or s.grouping
    rw [i.grouping?_bare, h.grouping]

/-- An instruction that is erased does nothing for the count. -/
theorem State.CountAlike.erase (h : CountAlike s s') {i : Instruction}
    (hErased : (s.current.counted || i.outlasts) = false) :
    (s.advance t d i).current = s.current ∧ CountAlike (s.advance t d i) s' := by
  rw [Bool.or_eq_false_iff, Instruction.outlasts, Bool.or_eq_false_iff, Bool.or_eq_false_iff]
    at hErased
  obtain ⟨hCounted, ⟨hSwitch, hSeparator⟩, hGrouping⟩ := hErased
  rw [Option.isSome_eq_false_iff, Option.isNone_iff_eq_none] at hSwitch hSeparator hGrouping
  have hUnseen : ¬ s.current.counted = true := by
    rw [hCounted]
    decide
  refine ⟨?_, h.agree.skip hUnseen hSwitch hSeparator, ?_⟩
  · show i.switch?.getD s.current = s.current
    rw [hSwitch, Option.getD_none]
  · show s'.grouping = (i.grouping?.map (s.grouping.getD [] ++ ·)).or s.grouping
    rw [hGrouping, Option.map_none, Option.none_or, h.grouping]

/-- A walk over what is left does the same for the count as the whole walk. -/
theorem State.CountAlike.after_forCount (h : CountAlike s s') (is : List Instruction) :
    CountAlike (s.after t d is) (s'.after t d (forCount s.current is)) := by
  induction is generalizing s s' with
  | nil => exact h
  | cons i rest ih =>
    rw [forCount, State.after_cons]
    cases hKept : s.current.counted || i.outlasts with
    -- the instruction is kept, without what a count does not see
    | true =>
      rw [if_pos rfl, State.after_cons]
      exact ih (h.advance_bare i)
    | false =>
      -- it is left out: it has written to the order or to the page filter, and stays there
      obtain ⟨hCurrent, hAlike⟩ := h.erase (t := t) (d := d) hKept
      have hRest := ih hAlike
      rw [hCurrent] at hRest
      rw [if_neg (by decide)]
      exact hRest

theorem countAlike_forCount (t : Tree) (d : Dialect) (is : List Instruction) :
    State.CountAlike (reading t d is) (reading t d (forCount .main is)) :=
  State.CountAlike.after_forCount ⟨.refl _ _, rfl⟩ is

end Walks

-- ---------------------------------------------------------------------------
-- Counts
-- ---------------------------------------------------------------------------

/-- The count query of a walk. -/
def State.countQuery (t : Tree) (d : Dialect) (s : State) : Sql :=
  let query := d.countQuery (s.criteria t)
  ⟨query.text, query.params ++ s.written.main.params ++ s.written.having.params⟩

section Counts

variable {t : Tree} {d : Dialect}

/-- The count of a page is the count query of its walk. -/
theorem State.count_of_result {s : State} {page count : Sql} {w : Window}
    (h : s.result t d = .paged page count w) : count = s.countQuery t d := by
  rw [State.result] at h
  cases hWindow : s.window with
  | none => simp [hWindow] at h
  | some w' =>
    simp only [hWindow, Compiled.paged.injEq] at h
    exact h.2.1.symm

/-- A count query is made of the main filter, the grouping and the condition on
groups. -/
theorem Criteria.countQuery_congr {c c' : Criteria} (hTree : c'.tree = c.tree)
    (hFilter : c'.filter = c.filter) (hGrouping : c'.grouping = c.grouping)
    (hHaving : c'.having = c.having) : c'.countQuery = c.countQuery := by
  cases c
  cases c'
  simp only at hTree hFilter hGrouping hHaving
  subst hTree hFilter hGrouping hHaving
  rfl

/-- States that have done the same for the count are counted by the same query. -/
theorem State.CountAlike.countQuery (hd : ∀ c, d.countQuery c = c.countQuery) {s s' : State}
    (h : CountAlike s s') : s'.countQuery t d = s.countQuery t d := by
  have hMain : s'.written.main = s.written.main := h.agree.written .main rfl
  have hHaving : s'.written.having = s.written.having := h.agree.written .having rfl
  have hQuery : (s'.criteria t).countQuery = (s.criteria t).countQuery := by
    refine Criteria.countQuery_congr rfl ?_ h.grouping ?_
    · show Text.trim s'.written.main.text = Text.trim s.written.main.text
      rw [hMain]
    · show Text.trim s'.written.having.text = Text.trim s.written.having.text
      rw [hHaving]
  rw [State.countQuery, State.countQuery, hd, hd, hQuery, hMain, hHaving]

/-- The count of what compiles is that of what is left for it. -/
theorem count_eq_countQuery (hd : ∀ c, d.countQuery c = c.countQuery) {strict : Bool}
    {is : List Instruction} {page count : Sql} {w : Window}
    (hc : compile t d strict is = .ok (.paged page count w)) :
    count = (reading t d (forCount .main is)).countQuery t d := by
  have hFinish := (compileLoose_eq_ok_iff.mp (compile_eq_ok_iff.mp hc).1).2
  have hResult := State.eq_result_of_finish hFinish
  rw [(countAlike_forCount t d is).countQuery hd]
  exact State.count_of_result hResult.symm

/--
**The count depends on the main filter, the condition on groups and the grouping
only.** Two lists of instructions that compile to pages, and of which the same is
left for the count, have the same count query with the same parameters, wherever
pages are counted as usual.
-/
theorem compile_count_congr (hd : ∀ c, d.countQuery c = c.countQuery) {strict strict' : Bool}
    {is is' : List Instruction} {page page' count count' : Sql} {w w' : Window}
    (hc : compile t d strict is = .ok (.paged page count w))
    (hc' : compile t d strict' is' = .ok (.paged page' count' w'))
    (hLeft : forCount .main is = forCount .main is') :
    count.text = count'.text ∧ count.params = count'.params := by
  rw [count_eq_countQuery hd hc, count_eq_countQuery hd hc', hLeft]
  exact ⟨rfl, rfl⟩

end Counts

/-- Orders of a total, the dearest lines first. -/
def dearestFirst : List Instruction :=
  [.pagedInitialQuery ⟨0, 5⟩, .pagedMainWhere ["o.total"], .column "total" .asIs, .text " > ",
    .param (.int 7), .pagedMainOrderBy, .path [.entity "Line"], .column "price" .asIs,
    .separator "$", .pagedSecondaryWhere, .sql ⟨"l.qty > ?", [.int 1]⟩, .pagedHaving,
    .idColumn .asIs]

/-- The same orders in no particular order, some rows on. -/
def inNoOrder : List Instruction :=
  [.pagedInitialQuery ⟨10, 20⟩, .pagedMainWhere [], .column "total" .asIs, .text " > ",
    .param (.int 7), .pagedMainOrderBy, .separator "$", .pagedSecondaryWhere, .table, .pagedHaving,
    .idColumn .asIs]

/-- The dearest orders first, and the same page in no order at all: one count. -/
theorem compile_count_congr_orders :
    (∀ c, Dialect.sqlite.countQuery c = c.countQuery) ∧ ∃ page page' count count' w w',
      compile (.orders .null) .sqlite false dearestFirst = .ok (.paged page count w) ∧
      compile (.orders .null) .sqlite false inNoOrder = .ok (.paged page' count' w') ∧
      forCount .main dearestFirst = forCount .main inNoOrder ∧
      count.text = count'.text ∧ count.params = count'.params := by
  obtain ⟨page, count, w, hc⟩ : ∃ page count w,
      compile (.orders .null) .sqlite false dearestFirst = .ok (.paged page count w) := by
    rw [compile_eq]
    exact ⟨_, _, _, rfl⟩
  obtain ⟨page', count', w', hc'⟩ : ∃ page count w,
      compile (.orders .null) .sqlite false inNoOrder = .ok (.paged page count w) := by
    rw [compile_eq]
    exact ⟨_, _, _, rfl⟩
  have hLeft : forCount .main dearestFirst = forCount .main inNoOrder := rfl
  have hd : ∀ c, Dialect.sqlite.countQuery c = c.countQuery :=
    DialectKind.sqlite.usesDefaults.countQuery
  exact ⟨hd, page, page', count, count', w, w', hc, hc', hLeft,
    compile_count_congr hd hc hc' hLeft⟩

end SqlPlan
