import Mathlib.Tactic.MkIffOfInductiveProp
import SqlPlan.Compile

/-!
# SqlPlan — one instruction at a time

An instruction touches every part of a state by a view of its own, and whether
it may be carried out hangs on two facts about the instructions before it:
whether one of them began the query, and whether there is a page.

* `Instruction.initializer?`, `window?`, `switch?`, `turn?`, `separator?`,
  `columns`, `grouping?`, `piece?` — what an instruction says about each part
  of a state;
* `Instruction.fault?` — the rule that an instruction breaks, and
  `Instruction.Obeys`, the rule itself;
* `State.advance` — all parts of a state after an instruction;
* `State.Writes` — a state and the same with something else in its current
  accumulator.

`State.step_eq` is the only place where a step is taken apart: a step is the
check of the rule and then the advance. What a run keeps is proved from the
views alone.
-/

namespace SqlPlan

-- ---------------------------------------------------------------------------
-- Views of an instruction
-- ---------------------------------------------------------------------------

/-- What an instruction writes. -/
inductive Piece where
  /-- Right after what is there. -/
  | verbatim (q : Sql)
  /-- Trimmed, one space after what is there. -/
  | fragment (q : Sql)

namespace Piece

def sql : Piece → Sql
  | verbatim q | fragment q => q

/-- What is there once the piece is written after it. -/
def onto : Piece → Sql → Sql
  | verbatim q, before => before.append q
  | fragment q, before => before.splice q

@[simp] theorem params_onto (p : Piece) (before : Sql) :
    (p.onto before).params = before.params ++ p.sql.params := by
  cases p <;> rfl

end Piece

namespace Instruction

/-- The instruction begins a query. -/
def begins (i : Instruction) : Bool := i.kind.isInitializer

/-- The kind of an instruction that begins a query. -/
def initializer? (i : Instruction) : Option Kind :=
  if i.begins then some i.kind else none

/-- The rows of the page that an instruction begins. -/
def window? : Instruction → Option Window
  | pagedInitialQuery w => some w
  | _ => none

/-- The accumulator that an instruction moves to. -/
def switch? : Instruction → Option Accumulator
  | pagedMainWhere _ => some .main
  | pagedMainOrderBy => some .order
  | pagedHaving => some .having
  | pagedSecondaryWhere => some .secondary
  | _ => none

/-- The entity that an instruction turns to. -/
def turn? (t : Tree) : Instruction → Option Node
  | pagedInitialQuery _ | pagedMainWhere _ | pagedMainOrderBy | pagedHaving
  | pagedSecondaryWhere | pagedUseGroupBy _ | pathRoot => some t.root
  | path matchers => (t.resolve matchers).toOption
  | _ => none

def separator? : Instruction → Option String
  | separator between => some between
  | _ => none

/-- What the inner query of a page also selects. -/
def columns : Instruction → List String
  | pagedMainWhere columns => columns
  | _ => []

/-- What the inner query of a page also groups by. -/
def grouping? : Instruction → Option (List String)
  | pagedUseGroupBy columns => some columns
  | _ => none

/-- The instruction makes sense in a page only. -/
def needsPage (i : Instruction) : Bool := i.switch?.isSome || i.grouping?.isSome

/-- What an instruction writes for an entity. -/
def piece? (t : Tree) (d : Dialect) (n : Node) (separator : String) : Instruction → Option Piece
  | initialQuery => some (.fragment (d.baseQuery t))
  | fromQuery => some (.fragment (d.fromQuery t))
  | text x => some (.verbatim (.ofText x))
  | idColumn c =>
    some (.verbatim (.ofText (d.refer n.tableAlias separator n.entity.primaryKey c)))
  | column name c => some (.verbatim (.ofText (d.refer n.tableAlias separator name c)))
  | idAlias => some (.verbatim (.ofText (n.label n.entity.primaryKey)))
  | columnAlias name => some (.verbatim (.ofText (n.label name)))
  | param v => some (.verbatim (.bound v))
  | stringParam x => some (.verbatim (.bound (.string x)))
  | arrayParam items => some (.fragment ⟨d.inArray, [.list items]⟩)
  | sql q => some (.fragment q)
  | table => some (.verbatim (.ofText n.entity.table))
  | _ => none

/-- An instruction turns to the root or to what its path leads to. -/
theorem turn?_eq_some {t : Tree} {i : Instruction} {n : Node} (h : i.turn? t = some n) :
    n = t.root ∨ ∃ matchers, t.resolve matchers = .ok n := by
  cases i with
  | path matchers =>
    cases hResolve : t.resolve matchers with
    | error e => simp [turn?, hResolve, Except.toOption] at h
    | ok m =>
      simp only [turn?, hResolve, Except.toOption, Option.some.injEq] at h
      exact Or.inr ⟨matchers, h ▸ hResolve⟩
  | pagedInitialQuery | pagedMainWhere | pagedMainOrderBy | pagedHaving | pagedSecondaryWhere
  | pagedUseGroupBy | pathRoot => exact Or.inl (Option.some.inj h).symm
  | _ => simp [turn?] at h

/-- The rule that an instruction breaks, given the instruction that began the
query and whether there is a page. -/
def fault? (t : Tree) (begun : Option Kind) (paged : Bool) (i : Instruction) : Option Error :=
  match i with
  | initialQuery | fromQuery => begun.map (.secondInitializer i.kind)
  | pagedInitialQuery w =>
    (begun.map (.secondInitializer i.kind)).or
      (if w.stop < w.start then some (.invertedWindow w) else none)
  | pagedMainWhere _ | pagedMainOrderBy | pagedHaving | pagedSecondaryWhere
  | pagedUseGroupBy _ => if paged then none else some (.outsidePage i.kind)
  | path matchers =>
    match t.resolve matchers with
    | .error e => some e
    | .ok _ => none
  | sql q =>
    if q.isAligned then none
    else some (.misboundFragment (Text.trim q.text) q.placeholders q.params.length)
  | _ => none

/-- The rule of an instruction, part by part. -/
@[mk_iff]
structure Obeys (t : Tree) (begun : Option Kind) (paged : Bool) (i : Instruction) : Prop where
  initializer : i.begins = true → begun = none
  window      : ∀ w, i = pagedInitialQuery w → w.start ≤ w.stop
  inPage      : i.needsPage = true → paged = true
  path        : ∀ matchers, i = path matchers → ∃ n, t.resolve matchers = .ok n
  fragment    : ∀ q, i = sql q → q.placeholders = q.params.length

/-- An instruction without a fault is one that obeys its rule. -/
theorem fault?_eq_none_iff {t : Tree} {begun : Option Kind} {paged : Bool} {i : Instruction} :
    i.fault? t begun paged = none ↔ i.Obeys t begun paged := by
  rw [obeys_iff]
  cases i with
  | pagedInitialQuery w =>
    simp [fault?, begins, kind, Kind.isInitializer, needsPage, switch?, grouping?]
  | path matchers =>
    cases h : t.resolve matchers <;>
      simp [fault?, begins, kind, Kind.isInitializer, needsPage, switch?, grouping?, h]
  | _ =>
    simp [fault?, begins, kind, Kind.isInitializer, needsPage, switch?, grouping?,
      Sql.isAligned_iff]

end Instruction

-- ---------------------------------------------------------------------------
-- Steps
-- ---------------------------------------------------------------------------

/-- What has been written once an instruction has written its piece. -/
def Accumulators.add (as : Accumulators) (a : Accumulator) : Option Piece → Accumulators
  | some p => as.modify p.onto a
  | none => as

namespace State

/-- The state after an instruction that breaks no rule. -/
def advance (t : Tree) (d : Dialect) (s : State) (i : Instruction) : State where
  written := s.written.add s.current (i.piece? t d s.node s.separator)
  current := i.switch?.getD s.current
  node := (i.turn? t).getD s.node
  separator := i.separator?.getD s.separator
  initializer := i.initializer?.or s.initializer
  window := i.window?.or s.window
  columns := s.columns ++ i.columns
  grouping := (i.grouping?.map (s.grouping.getD [] ++ ·)).or s.grouping

/-- From the first state to the second nothing changes but the current accumulator,
which then holds `q`. -/
structure Writes (s s' : State) (q : Sql) : Prop where
  current : s'.written.get s.current = q
  others  : ∀ a, a ≠ s.current → s'.written.get a = s.written.get a
  rest    : s' = { s with written := s'.written }

/-- Writing changes what is written, and that in one place. -/
theorem writes_write (s : State) (f : Sql → Sql) :
    s.Writes (s.write f) (f (s.written.get s.current)) where
  current := s.written.get_modify_self f s.current
  others _ h := s.written.get_modify_of_ne f h
  rest := rfl

/-- A text goes after what is there, and binds nothing. -/
theorem writes_writeText (s : State) (text : String) :
    s.Writes (s.writeText text)
      ⟨(s.written.get s.current).text ++ text, (s.written.get s.current).params⟩ := by
  have hWrites : s.Writes (s.writeText text)
      ⟨(s.written.get s.current).text ++ text, (s.written.get s.current).params ++ []⟩ :=
    s.writes_write _
  rwa [List.append_nil] at hWrites

variable {t : Tree} {d : Dialect}

/-- A step checks the rule of its instruction and then advances. -/
theorem step_eq (s : State) (i : Instruction) :
    s.step t d i =
      match i.fault? t s.initializer s.window.isSome with
      | some e => .error e
      | none => .ok (s.advance t d i) := by
  -- most instructions add no columns, which leaves an empty list behind
  have hColumns : s.columns ++ [] = s.columns := List.append_nil _
  cases i with
  | initialQuery | fromQuery =>
    cases h : s.initializer with
    | some previous =>
      simp only [step, begin, h]
      rfl
    | none =>
      simp only [step, begin, h, advance, Instruction.columns, hColumns]
      rfl
  | pagedInitialQuery w =>
    cases h : s.initializer with
    | some previous =>
      simp only [step, begin, h]
      rfl
    | none =>
      by_cases hStop : w.stop < w.start
      · simp only [step, begin, h, Instruction.fault?, hStop]
        rfl
      · simp only [step, begin, h, Instruction.fault?, hStop, advance, Instruction.columns,
          hColumns]
        rfl
  | pagedMainWhere columns =>
    cases h : s.window with
    | none =>
      simp only [step, switch, inPage, h]
      rfl
    | some w =>
      simp only [step, switch, inPage, h, advance]
      rfl
  | pagedMainOrderBy | pagedHaving | pagedSecondaryWhere | pagedUseGroupBy =>
    cases h : s.window with
    | none =>
      simp only [step, switch, inPage, h]
      rfl
    | some w =>
      simp only [step, switch, inPage, h, advance, Instruction.columns, hColumns]
      rfl
  | path matchers =>
    cases h : t.resolve matchers with
    | error e =>
      simp only [step, Instruction.fault?, h]
      rfl
    | ok n =>
      simp only [step, Instruction.fault?, advance, Instruction.turn?, Instruction.columns,
        hColumns, h]
      rfl
  | sql q =>
    cases h : q.isAligned with
    | false => simp [step, Instruction.fault?, h]
    | true =>
      simp only [step, Instruction.fault?, h, advance, Instruction.columns, hColumns]
      rfl
  | pathRoot | separator | text | idColumn | column | idAlias | columnAlias | param | stringParam
  | arrayParam | table =>
    simp only [step, Instruction.fault?, advance, Instruction.columns, hColumns]
    rfl

end State

end SqlPlan
