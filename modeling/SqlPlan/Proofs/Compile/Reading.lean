import Mathlib.Data.List.Induction
import SqlPlan.Proofs.Compile.Step

/-!
# SqlPlan — reading a list of instructions without a state

Where a walk stands after some instructions can be read off the instructions
themselves. Most parts of the state are what the nearest instruction with a
word on them said; what has been written is the sum of what each instruction
wrote at its own place:

* `latest?` — the nearest word of a list of instructions on something;
* `Site`, `sites` — each instruction of a list with those before it;
* `Site.fault?`, `firstFault?` — the first instruction that breaks its rule;
* `reading` — the state after instructions that break no rule, and for each of
  its parts what it is without a walk;
* `boundIn` — the values that have been bound in an accumulator.

`State.run_start` says that a run is exactly this reading: it fails with the
first fault, and otherwise ends in the state that is read.
-/

namespace SqlPlan

-- ---------------------------------------------------------------------------
-- The nearest word on something
-- ---------------------------------------------------------------------------

/-- What the last instruction with a word on something said. -/
def latest? {α : Type} (view : Instruction → Option α) (is : List Instruction) : Option α :=
  is.reverse.findSome? view

section Latest

variable {α : Type} (view : Instruction → Option α)

@[simp] theorem latest?_nil : latest? view [] = none := rfl

/-- An instruction added at the end has the nearest word, if it has one. -/
@[simp] theorem latest?_concat (is : List Instruction) (i : Instruction) :
    latest? view (is ++ [i]) = (view i).or (latest? view is) := by
  rw [latest?, List.reverse_append, List.reverse_singleton, List.singleton_append,
    List.findSome?_cons]
  cases view i <;> rfl

/-- There is a nearest word exactly if an instruction has one. -/
theorem latest?_isSome_iff {is : List Instruction} :
    (latest? view is).isSome = true ↔ ∃ i ∈ is, (view i).isSome = true := by
  rw [latest?, List.isSome_findSome?, List.any_reverse, List.any_eq_true]

theorem latest?_eq_none_iff {is : List Instruction} :
    latest? view is = none ↔ ∀ i ∈ is, view i = none := by
  rw [latest?, List.findSome?_eq_none_iff]
  simp only [List.mem_reverse]

/-- The nearest word is that of one of the instructions. -/
theorem exists_of_latest?_eq_some {is : List Instruction} {a : α} (h : latest? view is = some a) :
    ∃ i ∈ is, view i = some a := by
  obtain ⟨i, hi, hView⟩ := List.exists_of_findSome?_eq_some h
  exact ⟨i, List.mem_reverse.mp hi, hView⟩

end Latest

/-- The accumulator that instructions lead to. -/
def accumulatorAfter (is : List Instruction) : Accumulator :=
  (latest? Instruction.switch? is).getD .main

-- ---------------------------------------------------------------------------
-- Sites
-- ---------------------------------------------------------------------------

/-- An instruction and those that stand before it. -/
structure Site where
  before : List Instruction
  instruction : Instruction

/-- The sites of instructions that follow others. -/
def sitesFrom (before : List Instruction) : List Instruction → List Site
  | [] => []
  | i :: rest => ⟨before, i⟩ :: sitesFrom (before ++ [i]) rest

/-- The sites of instructions, in order. -/
def sites (is : List Instruction) : List Site := sitesFrom [] is

/-- Sites of a list that goes on: those of its front, then those of its rest
behind the front. -/
theorem sitesFrom_append (before xs ys : List Instruction) :
    sitesFrom before (xs ++ ys) = sitesFrom before xs ++ sitesFrom (before ++ xs) ys := by
  induction xs generalizing before with
  | nil => rw [List.nil_append, List.append_nil]; rfl
  | cons i xs ih =>
    rw [List.cons_append, sitesFrom, ih, sitesFrom, List.append_assoc]
    rfl

@[simp] theorem sites_nil : sites [] = [] := rfl

/-- An instruction added at the end has all others before it. -/
@[simp] theorem sites_concat (is : List Instruction) (i : Instruction) :
    sites (is ++ [i]) = sites is ++ [⟨is, i⟩] := by
  rw [sites, sitesFrom_append]
  rfl

/-- The sites of a list are the ways of cutting it before an instruction. -/
theorem mem_sites {is : List Instruction} {s : Site} :
    s ∈ sites is ↔ ∃ after, is = s.before ++ s.instruction :: after := by
  induction is using List.reverseRecOn with
  | nil => simp
  | append_singleton is i ih =>
    rw [sites_concat, List.mem_append, ih, List.mem_singleton]
    constructor
    · rintro (⟨after, rfl⟩ | rfl)
      · exact ⟨after ++ [i], by simp⟩
      · exact ⟨[], rfl⟩
    -- a site is the last one exactly if nothing stands after it
    · rintro ⟨after, hEq⟩
      rcases List.eq_nil_or_concat after with rfl | ⟨rest, j, rfl⟩
      · right
        obtain ⟨hBefore, hInstruction⟩ := List.append_inj' hEq rfl
        cases s
        simp_all
      · left
        rw [List.concat_eq_append, ← List.cons_append, ← List.append_assoc] at hEq
        exact ⟨rest, (List.append_inj' hEq rfl).1⟩

/-- What stands before a site has its own sites among those of the whole. -/
theorem exists_site_of_mem_before {is : List Instruction} {s : Site} (hs : s ∈ sites is)
    {i : Instruction} (hi : i ∈ s.before) :
    ∃ earlier ∈ sites is, earlier.instruction = i ∧ earlier.before ⊆ s.before := by
  obtain ⟨after, hEq⟩ := mem_sites.mp hs
  obtain ⟨before, between, hBefore⟩ := List.append_of_mem hi
  refine ⟨⟨before, i⟩, mem_sites.mpr ⟨between ++ s.instruction :: after, ?_⟩, rfl, ?_⟩
  · rw [hEq, hBefore, List.append_assoc, List.cons_append]
  · rw [hBefore]
    exact List.subset_append_left ..

namespace Site

/-- The accumulator that is written to at a site. -/
def accumulator (s : Site) : Accumulator := accumulatorAfter s.before

/-- The rule that the instruction of a site breaks. -/
def fault? (t : Tree) (s : Site) : Option Error :=
  s.instruction.fault? t (latest? Instruction.initializer? s.before)
    (latest? Instruction.window? s.before).isSome

/-- The instruction of a site obeys its rule. -/
def Obeys (t : Tree) (s : Site) : Prop :=
  s.instruction.Obeys t (latest? Instruction.initializer? s.before)
    (latest? Instruction.window? s.before).isSome

end Site

/-- The fault of the first instruction that breaks its rule. -/
def firstFault? (t : Tree) (is : List Instruction) : Option Error :=
  (sites is).findSome? (Site.fault? t)

/-- No fault is found exactly if every instruction obeys its rule where it
stands. -/
theorem firstFault?_eq_none_iff {t : Tree} {is : List Instruction} :
    firstFault? t is = none ↔ ∀ s ∈ sites is, s.Obeys t := by
  rw [firstFault?, List.findSome?_eq_none_iff]
  exact forall₂_congr fun s _ => Instruction.fault?_eq_none_iff

/-- An earlier fault hides that of an instruction added at the end. -/
theorem firstFault?_concat (t : Tree) (is : List Instruction) (i : Instruction) :
    firstFault? t (is ++ [i]) = (firstFault? t is).or (Site.fault? t ⟨is, i⟩) := by
  rw [firstFault?, sites_concat, List.findSome?_append, List.findSome?_singleton]
  rfl

/-- What begins before a fault breaks no rule either. -/
theorem firstFault?_of_append {t : Tree} {before after : List Instruction}
    (h : firstFault? t (before ++ after) = none) : firstFault? t before = none := by
  rw [firstFault?_eq_none_iff] at h ⊢
  intro s hs
  refine h s ?_
  rw [sites, sitesFrom_append]
  exact List.mem_append_left _ hs

-- ---------------------------------------------------------------------------
-- Grouping
-- ---------------------------------------------------------------------------

/-- What the inner query of a page groups by, if an instruction makes it group. -/
def groupingOf (is : List Instruction) : Option (List String) :=
  if is.filterMap Instruction.grouping? = [] then none
  else some (is.filterMap Instruction.grouping?).flatten

/-- Columns are grouped by in the order in which the instructions name them. -/
theorem getD_groupingOf (is : List Instruction) :
    (groupingOf is).getD [] = (is.filterMap Instruction.grouping?).flatten := by
  unfold groupingOf
  split
  · rename_i hNone
    rw [hNone]
    rfl
  · rfl

/-- One more instruction adds its columns, if it groups. -/
theorem groupingOf_concat (is : List Instruction) (i : Instruction) :
    groupingOf (is ++ [i]) =
      (i.grouping?.map ((groupingOf is).getD [] ++ ·)).or (groupingOf is) := by
  rw [getD_groupingOf, groupingOf, List.filterMap_append]
  cases hGrouping : i.grouping? with
  | none =>
    rw [List.filterMap_cons_none hGrouping, List.filterMap_nil, List.append_nil]
    rfl
  | some columns =>
    rw [List.filterMap_cons_some hGrouping, List.filterMap_nil]
    simp

/-- A page groups exactly if an instruction makes it, were it by no column. -/
theorem groupingOf_isSome_iff {is : List Instruction} :
    (groupingOf is).isSome = true ↔ ∃ columns, .pagedUseGroupBy columns ∈ is := by
  have hGroups : ∀ (i : Instruction) columns,
      i.grouping? = some columns ↔ i = .pagedUseGroupBy columns := by
    intro i columns
    cases i <;> simp [Instruction.grouping?]
  have hSome : (groupingOf is).isSome = true ↔ is.filterMap Instruction.grouping? ≠ [] := by
    unfold groupingOf
    split <;> simp_all
  rw [hSome, ne_eq, List.eq_nil_iff_forall_not_mem]
  simp only [List.mem_filterMap, hGroups, exists_eq_right, not_forall, not_not]

-- ---------------------------------------------------------------------------
-- The state that is read
-- ---------------------------------------------------------------------------

/-- The state after instructions that break no rule. -/
def reading (t : Tree) (d : Dialect) (is : List Instruction) : State :=
  is.foldl (State.advance t d) (State.start t)

section Reading

variable (t : Tree) (d : Dialect)

@[simp] theorem reading_nil : reading t d [] = State.start t := rfl

/-- The reading of a list advances with each instruction added at its end. -/
@[simp] theorem reading_concat (is : List Instruction) (i : Instruction) :
    reading t d (is ++ [i]) = (reading t d is).advance t d i := by
  rw [reading, List.foldl_append]
  rfl

/-- A part of a state that an instruction sets or leaves alone is what the
nearest instruction that sets it says. -/
theorem reading_part {α : Type} (part : State → α) (view : Instruction → Option α)
    (h : ∀ s i, part (s.advance t d i) = (view i).getD (part s)) (is : List Instruction) :
    part (reading t d is) = (latest? view is).getD (part (State.start t)) := by
  induction is using List.reverseRecOn with
  | nil => rfl
  | append_singleton is i ih =>
    rw [reading_concat, h, ih, latest?_concat]
    cases view i <;> rfl

/-- What is written next goes where the nearest switch leads. -/
theorem reading_current (is : List Instruction) :
    (reading t d is).current = accumulatorAfter is :=
  reading_part t d State.current Instruction.switch? (fun _ _ => rfl) is

/-- A name that is asked for next is one of the node that was turned to last. -/
theorem reading_node (is : List Instruction) :
    (reading t d is).node = (latest? (Instruction.turn? t) is).getD t.root :=
  reading_part t d State.node (Instruction.turn? t) (fun _ _ => rfl) is

/-- The separator of columns is that of the nearest `SEPARATOR`. -/
theorem reading_separator (is : List Instruction) :
    (reading t d is).separator = (latest? Instruction.separator? is).getD "." :=
  reading_part t d State.separator Instruction.separator? (fun _ _ => rfl) is

theorem reading_initializer (is : List Instruction) :
    (reading t d is).initializer = latest? Instruction.initializer? is := by
  induction is using List.reverseRecOn with
  | nil => rfl
  | append_singleton is i ih => rw [reading_concat, State.advance, latest?_concat, ih]

theorem reading_window (is : List Instruction) :
    (reading t d is).window = latest? Instruction.window? is := by
  induction is using List.reverseRecOn with
  | nil => rfl
  | append_singleton is i ih => rw [reading_concat, State.advance, latest?_concat, ih]

/-- The columns that a page adds, in the order in which they are named. -/
theorem reading_columns (is : List Instruction) :
    (reading t d is).columns = is.flatMap Instruction.columns := by
  induction is using List.reverseRecOn with
  | nil => rfl
  | append_singleton is i ih =>
    rw [reading_concat, State.advance, ih, List.flatMap_append, List.flatMap_singleton]

theorem reading_grouping (is : List Instruction) :
    (reading t d is).grouping = groupingOf is := by
  induction is using List.reverseRecOn with
  | nil => rfl
  | append_singleton is i ih => rw [reading_concat, State.advance, ih, groupingOf_concat]

end Reading

-- ---------------------------------------------------------------------------
-- Values
-- ---------------------------------------------------------------------------

namespace Instruction

/-- The values that an instruction binds. -/
def bound : Instruction → List Value
  | param v => [v]
  | stringParam x => [.string x]
  | arrayParam items => [.list items]
  | sql q => q.params
  | _ => []

/-- The values that an instruction writes. What begins a plain query writes
those that the dialect's query for the tree binds. -/
def values (t : Tree) (d : Dialect) : Instruction → List Value
  | initialQuery => (d.baseQuery t).params
  | fromQuery => (d.fromQuery t).params
  | i => i.bound

/-- The parameters of what an instruction writes do not hang on where it stands. -/
theorem params_piece? (t : Tree) (d : Dialect) (n : Node) (separator : String) (i : Instruction) :
    ((i.piece? t d n separator).elim [] fun p => p.sql.params) = i.values t d := by
  cases i <;> rfl

end Instruction

/-- What instructions contribute to an accumulator, in their order. -/
def gather (f : Instruction → List Value) (a : Accumulator) (is : List Instruction) :
    List Value :=
  (sites is).flatMap fun s => if s.accumulator = a then f s.instruction else []

/-- An instruction added at the end contributes where the others lead. -/
theorem gather_concat (f : Instruction → List Value) (a : Accumulator) (is : List Instruction)
    (i : Instruction) :
    gather f a (is ++ [i]) = gather f a is ++ if accumulatorAfter is = a then f i else [] := by
  rw [gather, sites_concat, List.flatMap_append, List.flatMap_singleton]
  rfl

/-- The values that instructions bind in an accumulator. -/
def boundIn (a : Accumulator) (is : List Instruction) : List Value :=
  gather Instruction.bound a is

/-- A piece binds its values in the accumulator that it is added to, and
nowhere else. -/
theorem Accumulators.params_add (as : Accumulators) (a b : Accumulator) (p? : Option Piece) :
    ((as.add a p?).get b).params =
      (as.get b).params ++ if a = b then p?.elim [] fun p => p.sql.params else [] := by
  cases p? with
  | none => simp [add]
  | some p =>
    by_cases h : a = b
    · subst h
      simp [add]
    · rw [add, get_modify_of_ne as p.onto (Ne.symm h), if_neg h, List.append_nil]

/-- The parameters of an accumulator are the values written at its sites. -/
theorem params_reading (t : Tree) (d : Dialect) (is : List Instruction) (a : Accumulator) :
    ((reading t d is).written.get a).params = gather (Instruction.values t d) a is := by
  induction is using List.reverseRecOn with
  | nil => cases a <;> rfl
  | append_singleton is i ih =>
    rw [reading_concat, State.advance, Accumulators.params_add, ih, gather_concat,
      reading_current, Instruction.params_piece?]

-- ---------------------------------------------------------------------------
-- Runs
-- ---------------------------------------------------------------------------

/-- A run of a list that goes on is a run of its front, then one of its rest. -/
theorem State.run_append {t : Tree} {d : Dialect} (s : State) (is rest : List Instruction) :
    s.run t d (is ++ rest) = (s.run t d is).bind fun s => s.run t d rest := by
  rw [State.run, List.foldlM_append]
  rfl

/-- An instruction added at the end is the last step of a run. -/
theorem State.run_concat {t : Tree} {d : Dialect} (s : State) (is : List Instruction)
    (i : Instruction) :
    s.run t d (is ++ [i]) = (s.run t d is).bind fun s => s.step t d i := by
  rw [State.run_append]
  simp only [State.run, List.foldlM_cons, List.foldlM_nil, bind_pure]

/-- A run fails with the first fault and ends in the reading otherwise. -/
theorem State.run_start (t : Tree) (d : Dialect) (is : List Instruction) :
    (State.start t).run t d is =
      match firstFault? t is with
      | some e => .error e
      | none => .ok (reading t d is) := by
  induction is using List.reverseRecOn with
  | nil => rfl
  | append_singleton is i ih =>
    have hStep := State.step_eq (t := t) (d := d) (reading t d is) i
    rw [reading_initializer, reading_window] at hStep
    rw [State.run_concat, ih, firstFault?_concat, reading_concat]
    cases h : firstFault? t is with
    | some e => rfl
    | none => exact hStep

end SqlPlan
