import SqlPlan.Proofs.Compile.Agreement
import SqlPlan.Proofs.Compile.Outcome
import SqlPlan.Proofs.Sql.Closed

/-!
# SqlPlan — what is written stays written

Instructions write at the end of one accumulator and touch nothing that stands
before it or in another one. So the query of some instructions begins the query of
the same instructions and more after them, which is what lets a query be looked at
while it is still being built. The blanks at both ends of a query are in the way:
they are trimmed from the shorter one, and the longer one may still need them.

* `Sql.GrowsTo` — an SQL text with more text and more parameters at its end;
* `State.growsTo_advance`, `State.growsTo_after` — every accumulator grows, at one
  instruction and over any number of them;
* `State.growth_of_step` — only the current one does;
* `Sql.GrowsTo.trimmed` — the shorter query still begins the longer one after both
  have been trimmed.
-/

namespace SqlPlan

-- ---------------------------------------------------------------------------
-- Growing texts
-- ---------------------------------------------------------------------------

namespace Text

/-- Trimming a text takes nothing from what it would leave of a beginning of it. -/
theorem exists_trimBlanks_append (a b : List Char) :
    ∃ more, trimBlanks (a ++ b) = trimBlanks a ++ more := by
  unfold trimBlanks
  rw [List.dropWhile_append]
  split
  -- a blank beginning leaves nothing
  · rename_i hBlank
    refine ⟨trimEnd (b.dropWhile isBlank), ?_⟩
    rw [List.isEmpty_iff.mp hBlank]
    rfl
  · obtain ⟨blanks, hRest, hBlanks⟩ := exists_blanks_trimEnd (a.dropWhile isBlank)
    by_cases h : ∃ c ∈ b, isBlank c = false
    -- the blanks that end the beginning stand in the middle of the whole
    · obtain ⟨c, hc, hBlank⟩ := h
      refine ⟨blanks ++ trimEnd b, ?_⟩
      rw [trimEnd_append_of_not_blank _ hc hBlank, ← List.append_assoc, ← hRest]
    · have hAll : ∀ c ∈ b, isBlank c = true := by
        intro c hc
        by_contra hBlank
        exact h ⟨c, hc, by simpa using hBlank⟩
      exact ⟨[], by rw [trimEnd_append_blanks _ hAll, List.append_nil]⟩

/-- Trimming a longer text leaves all that trimming its front left. -/
theorem exists_trim_append (a b : String) : ∃ more, trim (a ++ b) = trim a ++ more := by
  obtain ⟨more, h⟩ := exists_trimBlanks_append a.toList b.toList
  refine ⟨String.ofList more, ?_⟩
  rw [trim, trim, String.toList_append, h, String.ofList_append]

end Text

namespace Sql

/-- The second SQL text is the first one with more at its end, in its text and in
its parameters. -/
def GrowsTo (q longer : Sql) : Prop := ∃ more, longer = q.append more

namespace GrowsTo

theorem refl (q : Sql) : q.GrowsTo q :=
  ⟨{}, by simp [append]⟩

theorem trans {q r s : Sql} (h : q.GrowsTo r) (h' : r.GrowsTo s) : q.GrowsTo s := by
  obtain ⟨more, rfl⟩ := h
  obtain ⟨rest, rfl⟩ := h'
  exact ⟨more.append rest, by simp [append, String.append_assoc]⟩

/-- A fragment goes to the end, with a space or without. -/
theorem splice (q more : Sql) : q.GrowsTo (q.splice more) := by
  obtain ⟨tail, hText⟩ : ∃ tail, joinText q.text (Text.trim more.text) = q.text ++ tail := by
    unfold joinText
    split
    · exact ⟨"", String.append_empty.symm⟩
    · split
      · exact ⟨_, rfl⟩
      · exact ⟨_, String.append_assoc ..⟩
  exact ⟨⟨tail, more.params⟩, by rw [Sql.splice, hText, append]⟩

/-- Both may be trimmed. -/
theorem trimmed {q longer : Sql} (h : q.GrowsTo longer) : q.trimmed.GrowsTo longer.trimmed := by
  obtain ⟨more, rfl⟩ := h
  obtain ⟨tail, hText⟩ := Text.exists_trim_append q.text more.text
  exact ⟨⟨tail, more.params⟩, by rw [Sql.trimmed, text_append, hText]; rfl⟩

end GrowsTo

end Sql

/-- A piece is added at the end of what has been written. -/
theorem Piece.growsTo_onto (p : Piece) (q : Sql) : q.GrowsTo (p.onto q) := by
  cases p with
  | verbatim more => exact ⟨more, rfl⟩
  | fragment more => exact .splice q more

-- ---------------------------------------------------------------------------
-- Growing accumulators
-- ---------------------------------------------------------------------------

namespace State

variable {t : Tree} {d : Dialect}

/-- What an instruction writes goes to the end of an accumulator. -/
theorem growsTo_advance (s : State) (i : Instruction) (a : Accumulator) :
    (s.written.get a).GrowsTo ((s.advance t d i).written.get a) := by
  by_cases h : a = s.current
  · subst h
    show (s.written.get s.current).GrowsTo
      ((s.written.add s.current (i.piece? t d s.node s.separator)).get s.current)
    cases i.piece? t d s.node s.separator with
    | none => exact .refl _
    | some p =>
      rw [Accumulators.add, Accumulators.get_modify_self]
      exact p.growsTo_onto _
  · rw [AgreeOn.get_advance_of_ne s i h]
    exact .refl _

/-- So does what instructions write one after the other. -/
theorem growsTo_after (s : State) (is : List Instruction) (a : Accumulator) :
    (s.written.get a).GrowsTo ((s.after t d is).written.get a) := by
  induction is generalizing s with
  | nil => exact .refl _
  | cons i rest ih => exact (s.growsTo_advance i a).trans (ih _)

/-- A step adds to the accumulator it leaves current, and to no other. -/
theorem growth_of_step {s s' : State} {i : Instruction} (h : s.step t d i = .ok s') :
    (s.written.get s'.current).GrowsTo (s'.written.get s'.current) ∧
      ∀ a, a ≠ s'.current → s'.written.get a = s.written.get a := by
  rw [step_eq] at h
  split at h
  · simp at h
  · rw [← Except.ok.inj h]
    refine ⟨s.growsTo_advance i _, fun a ha => ?_⟩
    cases hSwitch : i.switch? with
    -- a switch writes nothing, not even where it comes from
    | some b =>
      show (s.written.add s.current (i.piece? t d s.node s.separator)).get a = _
      rw [Instruction.piece?_of_switch? hSwitch]
      rfl
    | none =>
      have hCurrent : (s.advance t d i).current = s.current := by
        show i.switch?.getD s.current = s.current
        rw [hSwitch, Option.getD_none]
      exact AgreeOn.get_advance_of_ne s i (hCurrent ▸ ha)

end State

-- ---------------------------------------------------------------------------
-- Growing queries
-- ---------------------------------------------------------------------------

section Queries

variable {t : Tree} {d : Dialect}

/-- A plain query is what has been written to the main accumulator. -/
theorem eq_main_of_compile {strict : Bool} {is : List Instruction} {q : Sql}
    (h : compile t d strict is = .ok (.plain q)) :
    q = (reading t d is).written.main.trimmed := by
  have hFinish := (compileLoose_eq_ok_iff.mp (compile_eq_ok_iff.mp h).1).2
  have hResult := State.eq_result_of_finish hFinish
  unfold State.result at hResult
  split at hResult
  · exact Compiled.plain.inj hResult
  · simp at hResult

/--
**Compiling only appends.** A step writes at the end of the accumulator that is
current after it and leaves the others as they are. So where instructions compile to
a plain query, and still do with more of them at the end, the first query begins the
second, and so do its parameters.
-/
theorem compile_appends (t : Tree) (d : Dialect) :
    (∀ s s' i, State.step t d s i = .ok s' →
      (s.written.get s'.current).GrowsTo (s'.written.get s'.current) ∧
        ∀ a, a ≠ s'.current → s'.written.get a = s.written.get a) ∧
    ∀ strict strict' xs ys q longer, compile t d strict xs = .ok (.plain q) →
      compile t d strict' (xs ++ ys) = .ok (.plain longer) → q.GrowsTo longer := by
  refine ⟨fun _ _ _ => State.growth_of_step, fun strict strict' xs ys q longer hq hLonger => ?_⟩
  rw [eq_main_of_compile hq, eq_main_of_compile hLonger, State.reading_append]
  exact (State.growsTo_after (reading t d xs) ys .main).trimmed

/-- A query that blanks begin and end for now. -/
def queryInBlanks : List Instruction := [.text "\n ", .initialQuery, .sql ⟨"WHERE", []⟩, .text " "]

/-- A query whose text ends in blanks, and the same query with a comparison
after it. -/
theorem compile_appends_orders :
    (∃ s', State.step (.orders .null) .sqlite (.start (.orders .null)) .initialQuery = .ok s' ∧
      s'.written.get .order = {}) ∧
    ∃ q longer,
      compile (.orders .null) .sqlite false queryInBlanks = .ok (.plain q) ∧
      compile (.orders .null) .sqlite false
        (queryInBlanks ++ [.column "total" .asIs, .text " > ", .param (.int 7), .text "\n"]) =
          .ok (.plain longer) ∧
      q.GrowsTo longer := by
  obtain ⟨s', hStep, hCurrent⟩ : ∃ s', State.step (.orders .null) .sqlite (.start (.orders .null))
      .initialQuery = .ok s' ∧ s'.current = .main := ⟨_, rfl, rfl⟩
  have hOrder : s'.written.get .order = {} :=
    ((compile_appends _ _).1 _ _ _ hStep).2 .order (by rw [hCurrent]; decide)
  obtain ⟨q, hq⟩ : ∃ q, compile (.orders .null) .sqlite false queryInBlanks = .ok (.plain q) := by
    rw [compile_eq]
    exact ⟨_, rfl⟩
  obtain ⟨longer, hLonger⟩ : ∃ longer, compile (.orders .null) .sqlite false
      (queryInBlanks ++ [.column "total" .asIs, .text " > ", .param (.int 7), .text "\n"]) =
        .ok (.plain longer) := by
    rw [compile_eq]
    exact ⟨_, rfl⟩
  exact ⟨⟨s', hStep, hOrder⟩, q, longer, hq, hLonger,
    (compile_appends _ _).2 _ _ _ _ _ _ hq hLonger⟩

end Queries

end SqlPlan
