import SqlPlan.Proofs.Compile.Reading

/-!
# SqlPlan — walks that agree on some accumulators

What is written to an accumulator hangs on little of a state: on what is there
already, on the separator, and, while the accumulator is the current one, on the
entity. Every switch goes back to the root, so nothing of what happens in one
accumulator reaches another:

* `State.after` — the state after more instructions, from a given one on;
* `State.AgreeOn` — two states that do the same to some accumulators;
* `State.AgreeOn.advance` — they still do after an instruction that says the
  same of everything but the page;
* `State.AgreeOn.skip` — and after one that only one of them carries out, as
  long as another accumulator is current.
-/

namespace SqlPlan

-- ---------------------------------------------------------------------------
-- Walks from a state on
-- ---------------------------------------------------------------------------

/-- The state after instructions that break no rule, from a given state on. -/
def State.after (t : Tree) (d : Dialect) (s : State) (is : List Instruction) : State :=
  is.foldl (State.advance t d) s

namespace State

variable (t : Tree) (d : Dialect) (s : State)

@[simp] theorem after_nil : s.after t d [] = s := rfl

@[simp] theorem after_cons (i : Instruction) (is : List Instruction) :
    s.after t d (i :: is) = (s.advance t d i).after t d is := rfl

/-- Instructions are read in two parts, the second from where the first has
led. -/
theorem after_append (xs ys : List Instruction) :
    s.after t d (xs ++ ys) = (s.after t d xs).after t d ys :=
  List.foldl_append

/-- The reading of a list that goes on is that of its front, read on from
there. -/
theorem reading_append (xs ys : List Instruction) :
    reading t d (xs ++ ys) = (reading t d xs).after t d ys :=
  after_append t d (start t) xs ys

/-- A part of a state that none of the instructions changes stays as it is. -/
theorem part_after {α : Type} (part : State → α) {is : List Instruction}
    (h : ∀ i ∈ is, ∀ s, part (s.advance t d i) = part s) : part (s.after t d is) = part s := by
  induction is generalizing s with
  | nil => rfl
  | cons i rest ih =>
    have hRest := ih (s.advance t d i) fun j hj => h j (List.mem_cons_of_mem _ hj)
    rw [after_cons, hRest, h i (List.mem_cons_self ..)]

end State

-- ---------------------------------------------------------------------------
-- Switches
-- ---------------------------------------------------------------------------

namespace Instruction

/-- Whoever switches to an accumulator starts there at the root. -/
theorem turn?_of_switch? {t : Tree} {i : Instruction} {a : Accumulator}
    (h : i.switch? = some a) : i.turn? t = some t.root := by
  cases i with
  | pagedMainWhere | pagedMainOrderBy | pagedHaving | pagedSecondaryWhere => rfl
  | _ => simp [switch?] at h

/-- A switch writes nothing. -/
theorem piece?_of_switch? {t : Tree} {d : Dialect} {n : Node} {separator : String}
    {i : Instruction} {a : Accumulator} (h : i.switch? = some a) :
    i.piece? t d n separator = none := by
  cases i with
  | pagedMainWhere | pagedMainOrderBy | pagedHaving | pagedSecondaryWhere => rfl
  | _ => simp [switch?] at h

end Instruction

-- ---------------------------------------------------------------------------
-- Agreement
-- ---------------------------------------------------------------------------

/-- Two states that have written the same to the accumulators looked at, and
will as long as they are given the same instructions. -/
structure State.AgreeOn (seen : Accumulator → Prop) (s s' : State) : Prop where
  current   : s'.current = s.current
  separator : s'.separator = s.separator
  node      : seen s.current → s'.node = s.node
  written   : ∀ a, seen a → s'.written.get a = s.written.get a

namespace State.AgreeOn

variable {t : Tree} {d : Dialect} {seen : Accumulator → Prop} {s s' : State}

theorem refl (seen : Accumulator → Prop) (s : State) : AgreeOn seen s s :=
  ⟨rfl, rfl, fun _ => rfl, fun _ _ => rfl⟩

/-- An accumulator that is not the current one is not written to. -/
theorem get_advance_of_ne (s : State) (i : Instruction) {a : Accumulator} (h : a ≠ s.current) :
    (s.advance t d i).written.get a = s.written.get a := by
  show (s.written.add s.current (i.piece? t d s.node s.separator)).get a = s.written.get a
  cases i.piece? t d s.node s.separator with
  | none => rfl
  | some p => exact Accumulators.get_modify_of_ne _ _ h

/-- Instructions that move, name and write alike keep states in agreement. -/
theorem advance (h : AgreeOn seen s s') {i i' : Instruction} (hSwitch : i'.switch? = i.switch?)
    (hTurn : i'.turn? t = i.turn? t) (hSeparator : i'.separator? = i.separator?)
    (hPiece : ∀ n separator, i'.piece? t d n separator = i.piece? t d n separator) :
    AgreeOn seen (s.advance t d i) (s'.advance t d i') where
  current := by
    show i'.switch?.getD s'.current = i.switch?.getD s.current
    rw [hSwitch, h.current]
  separator := by
    show i'.separator?.getD s'.separator = i.separator?.getD s.separator
    rw [hSeparator, h.separator]
  node := by
    intro hSeen
    show (i'.turn? t).getD s'.node = (i.turn? t).getD s.node
    rw [hTurn]
    -- what is looked at now was looked at before, or the switch went to the root
    cases hTo : i.switch? with
    | some a => rw [Instruction.turn?_of_switch? hTo, Option.getD_some, Option.getD_some]
    | none =>
      have hCurrent : (s.advance t d i).current = s.current := by
        show i.switch?.getD s.current = s.current
        rw [hTo, Option.getD_none]
      rw [hCurrent] at hSeen
      rw [h.node hSeen]
  written := by
    intro a hSeen
    by_cases hAt : a = s.current
    · subst hAt
      show (s'.written.add s'.current (i'.piece? t d s'.node s'.separator)).get s.current =
        (s.written.add s.current (i.piece? t d s.node s.separator)).get s.current
      rw [h.current, h.node hSeen, h.separator, hPiece]
      cases i.piece? t d s.node s.separator with
      | none => exact h.written _ hSeen
      | some p =>
        rw [Accumulators.add, Accumulators.add, Accumulators.get_modify_self,
          Accumulators.get_modify_self, h.written _ hSeen]
    · have hAt' : a ≠ s'.current := by
        rw [h.current]
        exact hAt
      rw [get_advance_of_ne s i hAt, get_advance_of_ne s' i' hAt', h.written a hSeen]

/-- Where nobody looks, an instruction may be left out if it neither switches
nor sets the separator. -/
theorem skip (h : AgreeOn seen s s') (hUnseen : ¬ seen s.current) {i : Instruction}
    (hSwitch : i.switch? = none) (hSeparator : i.separator? = none) :
    AgreeOn seen (s.advance t d i) s' := by
  have hCurrent : (s.advance t d i).current = s.current := by
    show i.switch?.getD s.current = s.current
    rw [hSwitch, Option.getD_none]
  refine ⟨h.current.trans hCurrent.symm, ?_, fun hSeen => ?_, fun a hSeen => ?_⟩
  · show s'.separator = i.separator?.getD s.separator
    rw [hSeparator, Option.getD_none, h.separator]
  · rw [hCurrent] at hSeen
    exact absurd hSeen hUnseen
  · have hAt : a ≠ s.current := fun hEq => hUnseen (hEq ▸ hSeen)
    rw [get_advance_of_ne s i hAt, h.written a hSeen]

/-- A switch brings states to agreement that have written the same. -/
theorem of_switch {i : Instruction} {a : Accumulator} (hSwitch : i.switch? = some a)
    (hSeparator : s'.separator = s.separator)
    (hWritten : ∀ a, seen a → s'.written.get a = s.written.get a) :
    AgreeOn seen (s.advance t d i) (s'.advance t d i) where
  current := by
    show i.switch?.getD s'.current = i.switch?.getD s.current
    rw [hSwitch, Option.getD_some, Option.getD_some]
  separator := by
    show i.separator?.getD s'.separator = i.separator?.getD s.separator
    rw [hSeparator]
  node := by
    intro _
    show (i.turn? t).getD s'.node = (i.turn? t).getD s.node
    rw [Instruction.turn?_of_switch? hSwitch, Option.getD_some, Option.getD_some]
  written := by
    intro b hSeen
    show (s'.written.add s'.current (i.piece? t d s'.node s'.separator)).get b =
      (s.written.add s.current (i.piece? t d s.node s.separator)).get b
    rw [Instruction.piece?_of_switch? hSwitch, Instruction.piece?_of_switch? hSwitch]
    exact hWritten b hSeen

/-- The same instructions keep states in agreement. -/
theorem after (h : AgreeOn seen s s') (is : List Instruction) :
    AgreeOn seen (s.after t d is) (s'.after t d is) := by
  induction is generalizing s s' with
  | nil => exact h
  | cons i rest ih => exact ih (h.advance rfl rfl rfl fun _ _ => rfl)

end State.AgreeOn

end SqlPlan
