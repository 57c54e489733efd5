import SqlPlan.Proofs.Compile.Outcome
import SqlPlan.Proofs.Entity.Scope

/-!
# SqlPlan — what a walk refers to

Wherever a walk stands, the entity it takes columns from is a joined node of
the tree. An instruction turns to the root or to what a path leads to, and
either is joined:

* `State.of_run` — what holds at the start and is kept by every step holds after
  every run;
* `Instruction.mem_joinedNodes_of_turn?` — where an instruction may turn to;
* `State.mem_joinedNodes_of_step` — so a step stays among the joined nodes;
* `State.Passes` — the states that a walk passes, whether it comes to its end
  or not.
-/

namespace SqlPlan

-- ---------------------------------------------------------------------------
-- Steps
-- ---------------------------------------------------------------------------

section Steps

variable {definition : Definition} {separator : String} {t : Tree} {d : Dialect}

/-- What every step keeps is kept by every run. -/
theorem State.of_run {P : State → Prop} (hStart : P (State.start t))
    (hStep : ∀ s i s', P s → s.step t d i = .ok s' → P s') {is : List Instruction} {s : State}
    (hRun : (State.start t).run t d is = .ok s) : P s := by
  induction is using List.reverseRecOn generalizing s with
  | nil => exact Except.ok.inj hRun ▸ hStart
  | append_singleton is i ih =>
    rw [State.run_concat] at hRun
    cases hBefore : (State.start t).run t d is with
    | error e => simp [hBefore, Except.bind] at hRun
    | ok s' =>
      rw [hBefore] at hRun
      exact hStep s' i s (ih hBefore) hRun

/-- The root is joined, and so is what a path leads to. -/
theorem Instruction.mem_joinedNodes_of_turn? (ht : Tree.ofDefinition definition separator = .ok t)
    {i : Instruction} {n : Node} (h : i.turn? t = some n) : n ∈ t.joinedNodes := by
  rcases Instruction.turn?_eq_some h with rfl | ⟨matchers, hResolve⟩
  · exact List.mem_filter.mpr ⟨List.mem_cons_self .., Tree.joined_root ht⟩
  · exact List.mem_filter.mpr
      ⟨Tree.mem_nodes_of_resolve hResolve, Tree.joined_of_resolve ht hResolve⟩

theorem State.mem_joinedNodes_of_step (ht : Tree.ofDefinition definition separator = .ok t)
    {s s' : State} {i : Instruction} (hs : s.node ∈ t.joinedNodes)
    (hStep : s.step t d i = .ok s') : s'.node ∈ t.joinedNodes := by
  rw [State.step_eq] at hStep
  split at hStep
  · simp at hStep
  · rw [← Except.ok.inj hStep]
    show (i.turn? t).getD s.node ∈ t.joinedNodes
    cases hTurn : i.turn? t with
    | none => exact hs
    | some n => exact Instruction.mem_joinedNodes_of_turn? ht hTurn

end Steps

-- ---------------------------------------------------------------------------
-- Runs
-- ---------------------------------------------------------------------------

/-- A walk over instructions comes to a state, whatever becomes of the
instructions after it. -/
def State.Passes (t : Tree) (d : Dialect) (is : List Instruction) (s : State) : Prop :=
  ∃ before after, is = before ++ after ∧ (State.start t).run t d before = .ok s

/-- The name of an entity that an instruction writes, or of one of its columns. -/
def Instruction.name? (d : Dialect) (n : Node) (separator : String) : Instruction → Option String
  | idColumn c => some (d.refer n.tableAlias separator n.entity.primaryKey c)
  | column name c => some (d.refer n.tableAlias separator name c)
  | idAlias => some (n.label n.entity.primaryKey)
  | columnAlias name => some (n.label name)
  | table => some n.entity.table
  | _ => none

/--
**A walk refers to joined tables only.** At any time the entity it takes columns
from is found under its number and joined, the names it may write next, after what
the current accumulator holds, are those of this entity, and the FROM clause
introduces them once; and no number of a node is looked up in vain.
-/
theorem passes_joined {definition : Definition} {separator : String} {t : Tree}
    (ht : Tree.ofDefinition definition separator = .ok t) {d : Dialect}
    {is : List Instruction} {s : State} (hs : State.Passes t d is s) :
    t.node? s.node.id = some s.node ∧ s.node ∈ t.joinedNodes ∧
    (∀ i name, i.name? d s.node s.separator = some name →
      ∃ s', s.step t d i = .ok s' ∧
        s.Writes s' ⟨(s.written.get s.current).text ++ name, (s.written.get s.current).params⟩) ∧
    t.fromClause.text = " ".intercalate (t.fromItems.map FromItem.text) ∧
    t.IntroducesOnce s.node ∧ t.Numbered := by
  obtain ⟨before, -, -, hRun⟩ := hs
  -- the invariant of the walk: its node is joined, first the root
  have hRoot : (State.start t).node ∈ t.joinedNodes :=
    List.mem_filter.mpr ⟨List.mem_cons_self .., Tree.joined_root ht⟩
  have hNode : s.node ∈ t.joinedNodes := State.of_run hRoot
    (fun s i s' hMem hStep => State.mem_joinedNodes_of_step ht hMem hStep) hRun
  have hNumbered := Tree.numbered_of_ofDefinition ht
  refine ⟨hNumbered.own _ (List.mem_filter.mp hNode).1, hNode, fun i name hName => ?_,
    t.fromClause_text, Tree.introducesOnce ht hNode, hNumbered⟩
  refine ⟨s.writeText name, ?_, s.writes_writeText name⟩
  cases i with
  | idColumn | column | idAlias | columnAlias | table =>
    rw [← Option.some.inj hName]
    rfl
  -- the others ask for no name
  | _ => simp [Instruction.name?] at hName

/-- A query that turns to the lines and then fails, for it has no page. -/
def linesWithoutPage : List Instruction :=
  [.initialQuery, .path [.entity "Line"], .pagedHaving]

/-- The line of an order is turned to before an instruction that fails: it was
joined all the same. -/
theorem passes_joined_orders :
    ∃ s, Tree.ofDefinition (.orders .null) "_" = .ok (.orders .null) ∧
      State.Passes (.orders .null) .sqlite linesWithoutPage s ∧
      s.step (.orders .null) .sqlite .pagedHaving = .error (.outsidePage .pagedHaving) ∧
      s.node.tableAlias = "l" ∧ (Tree.orders .null).IntroducesOnce s.node := by
  have ht := Tree.ofDefinition_orders .null
  have hs : State.Passes (.orders .null) .sqlite linesWithoutPage
      (reading (.orders .null) .sqlite (linesWithoutPage.take 2)) :=
    ⟨_, _, (List.take_append_drop 2 _).symm, by rw [State.run_start]; rfl⟩
  obtain ⟨-, -, -, -, hOnce, -⟩ := passes_joined ht hs
  exact ⟨_, ht, hs, rfl, rfl, hOnce⟩

end SqlPlan
