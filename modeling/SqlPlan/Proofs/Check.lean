import SqlPlan.Check
import SqlPlan.Proofs.Compile.Outcome

/-!
# SqlPlan — checks and compiling agree

A check looks at the tree of a plan, counts the instructions that begin its
query, and compiles it only if neither is wrong. Compiling comes upon the same
mistakes on its way and reports the first of them:

* `Plan.errors_checkShape` — the errors found before anything is compiled;
* `Plan.errors_check` — all errors found, by the tree and the number of
  instructions that begin a query;
* `Plan.report_strict` — what compiling in strict mode reports.

That a check may skip compiling rests on `result_of_compile`: whatever compiles
begins its query exactly once.
-/

namespace SqlPlan

-- ---------------------------------------------------------------------------
-- Findings that are errors
-- ---------------------------------------------------------------------------

/-- An error as a check words it. -/
def Finding.ofError (id : String) (e : Error) : Finding :=
  { level := .error, id, message := e.message }

/-- The errors among findings. -/
def Finding.errors (fs : List Finding) : List Finding := fs.filter isError

theorem Finding.errors_append (fs gs : List Finding) :
    errors (fs ++ gs) = errors fs ++ errors gs := List.filter_append ..

/-- There are no errors exactly if no finding has the level of one. -/
theorem Finding.errors_eq_nil_iff {fs : List Finding} :
    errors fs = [] ↔ ¬ ∃ f ∈ fs, f.level = .error := by
  simp [errors, isError]

theorem Finding.any_isError (fs : List Finding) :
    fs.any isError = true ↔ errors fs ≠ [] := by
  simp [errors]

namespace Check

/-- What a failure is reported as is an error. -/
theorem errors_whenError {α : Type} (id : String) (hint : Option String) (r : Except Error α) :
    Finding.errors (whenError id hint r) = whenError id hint r := by
  cases r <;> rfl

/-- Nothing is reported of what succeeds. -/
theorem whenError_eq_nil_iff {α : Type} {id : String} {hint : Option String}
    {r : Except Error α} : whenError id hint r = [] ↔ ∃ a, r = .ok a := by
  cases r <;> simp [whenError]

/-- It is an error to begin a query not at all or more than once. Other things
to begin it with are not. -/
theorem errors_initializerFindings_eq_nil_iff {kinds : List Kind} :
    Finding.errors (initializerFindings kinds) = [] ↔ kinds.countP Kind.isInitializer = 1 := by
  unfold initializerFindings
  split
  · rename_i hZero
    simp [hZero, Finding.errors, Finding.isError]
  · rename_i hOne
    cases kinds.head?.any Kind.isInitializer <;>
      simp [hOne, Finding.errors, Finding.isError, when]
  · rename_i hNotOne
    simpa [Finding.errors, Finding.isError] using hNotOne

/-- Remarks on the order of instructions are never errors. -/
theorem errors_orderFindings (kinds : List Kind) : Finding.errors (orderFindings kinds) = [] := by
  unfold orderFindings when
  split <;> rfl

/-- The findings on instructions have names of their own. -/
theorem id_of_mem_instructionFindings {kinds : List Kind} {f : Finding}
    (hf : f ∈ initializerFindings kinds ++ orderFindings kinds) :
    f.id ∈ ["plan.E002", "plan.E003", "plan.W001", "plan.W002"] := by
  have hWhen : ∀ {reason : Bool} {g : Finding}, f ∈ when reason g → f = g := by
    intro reason g hMem
    cases reason with
    | false => simp [when] at hMem
    | true => exact List.mem_singleton.mp hMem
  rcases List.mem_append.mp hf with hInitializer | hOrder
  · unfold initializerFindings at hInitializer
    split at hInitializer
    · simp [List.mem_singleton.mp hInitializer]
    · simp [hWhen hInitializer]
    · simp [List.mem_singleton.mp hInitializer]
  · simp [hWhen hOrder]

end Check

-- ---------------------------------------------------------------------------
-- Checking a plan
-- ---------------------------------------------------------------------------

namespace Plan

variable (p : Plan) (s : Settings)

/-- The errors of a plan's shape are those of its tree and of its initializers. -/
theorem errors_checkShape :
    Finding.errors (p.checkShape s) = Check.whenError "plan.E001" none (p.tree s.separator) ++
      Finding.errors (Check.initializerFindings (p.instructions.map Instruction.kind)) := by
  rw [checkShape, Finding.errors_append, Finding.errors_append, Check.errors_whenError,
    Check.errors_orderFindings, List.append_nil]

/-- One finding is about the tree. -/
theorem filter_id_checkShape :
    (p.checkShape s).filter (fun f => f.id = "plan.E001") =
      Check.whenError "plan.E001" none (p.tree s.separator) := by
  have hTree : (Check.whenError "plan.E001" none (p.tree s.separator)).filter
      (fun f => f.id = "plan.E001") = Check.whenError "plan.E001" none (p.tree s.separator) := by
    cases p.tree s.separator <;> rfl
  rw [checkShape, List.append_assoc, List.filter_append, hTree, List.append_right_eq_self,
    List.filter_eq_nil_iff]
  intro f hf hId
  have hIds := Check.id_of_mem_instructionFindings hf
  rw [of_decide_eq_true hId] at hIds
  exact absurd hIds (by decide)

/-- Nothing is wrong before compiling if the tree is accepted and the query
begins once. -/
theorem errors_checkShape_eq_nil_iff :
    Finding.errors (p.checkShape s) = [] ↔
      (∃ t, p.tree s.separator = .ok t) ∧ p.instructions.countP Instruction.begins = 1 := by
  have hCount : (p.instructions.map Instruction.kind).countP Kind.isInitializer =
      p.instructions.countP Instruction.begins := List.countP_map ..
  rw [errors_checkShape, List.append_eq_nil_iff, Check.whenError_eq_nil_iff,
    Check.errors_initializerFindings_eq_nil_iff, hCount]

/-- A check goes no further once it has found an error. -/
theorem check_of_errors (h : Finding.errors (p.checkShape s) ≠ []) :
    p.check s = p.checkShape s := by
  rw [check, if_pos ((Finding.any_isError _).mpr h)]

/-- Otherwise it adds the error of compiling. -/
theorem errors_check {k : DialectKind} (hk : s.kind = .ok k) {t : Tree}
    (ht : p.tree s.separator = .ok t)
    (hOne : p.instructions.countP Instruction.begins = 1) :
    Finding.errors (p.check s) =
      Check.whenError "plan.E004" none (compile t k.dialect true p.instructions) := by
  have hShape := (errors_checkShape_eq_nil_iff p s).mpr ⟨⟨t, ht⟩, hOne⟩
  have hAny := (Finding.any_isError (p.checkShape s)).not.mpr (not_not.mpr hShape)
  have hCheck : p.check s = p.checkShape s ++
      Check.whenError "plan.E004" none (compile t k.dialect true p.instructions) := by
    rw [check, if_neg hAny, ht, hk]
  rw [hCheck, Finding.errors_append, hShape, List.nil_append, Check.errors_whenError]

/-- What compiling in strict mode reports: the mistake in the tree, or that in
the instructions. -/
theorem report_strict {k : DialectKind} (hk : s.kind = .ok k) (numbered : Bool) :
    p.report { s with strict := true } none numbered =
      (p.tree s.separator).bind fun t =>
        (compile t k.dialect true p.instructions).map (Report.ofCompiled k numbered) := by
  have hKind : Settings.kind { s with strict := true } = .ok k := hk
  unfold report
  rw [hKind]
  show ((p.tree s.separator).bind fun t => _) = _
  cases p.tree s.separator with
  | error e => rfl
  | ok t =>
    show (compile t k.dialect true p.instructions).bind _ = Except.map _ _
    cases compile t k.dialect true p.instructions <;> rfl

/-- A plan is found to be in error exactly if it does not compile. -/
theorem errors_check_eq_nil_iff {k : DialectKind} (hk : s.kind = .ok k) (numbered : Bool) :
    Finding.errors (p.check s) = [] ↔
      ∃ r, p.report { s with strict := true } none numbered = .ok r := by
  have hShape := errors_checkShape_eq_nil_iff p s
  rw [report_strict p s hk]
  cases hTree : p.tree s.separator with
  | error e =>
    have hErrors : Finding.errors (p.checkShape s) ≠ [] := by
      simp [hShape, hTree]
    rw [check_of_errors p s hErrors]
    simp [hErrors, Except.bind]
  | ok t =>
    show _ ↔ ∃ r, (compile t k.dialect true p.instructions).map _ = .ok r
    by_cases hOne : p.instructions.countP Instruction.begins = 1
    · rw [errors_check p s hk hTree hOne, Check.whenError_eq_nil_iff]
      cases compile t k.dialect true p.instructions <;> simp [Except.map]
    -- a check skips compiling here, which would have failed
    · have hErrors : Finding.errors (p.checkShape s) ≠ [] := by
        rw [ne_eq, hShape]
        exact fun h => hOne h.2
      rw [check_of_errors p s hErrors]
      cases hCompile : compile t k.dialect true p.instructions with
      | error e => simp [hErrors, Except.map]
      | ok c => exact absurd (result_of_compile hTree hCompile).2.1.initializer hOne

/--
**A check finds an error exactly if compiling fails.** Where the tree is refused
both report why; where the tree is accepted and the query begins once, the one
error found is that of compiling.
-/
theorem check_agrees {k : DialectKind} (hk : s.kind = .ok k) (numbered : Bool) :
    ((∃ f ∈ p.check s, f.level = .error) ↔
      ∃ e, p.report { s with strict := true } none numbered = .error e) ∧
    (∀ e, p.tree s.separator = .error e →
      p.report { s with strict := true } none numbered = .error e ∧
      (p.check s).filter (fun f => f.id = "plan.E001") = [.ofError "plan.E001" e]) ∧
    ∀ t e, p.tree s.separator = .ok t → p.instructions.countP Instruction.begins = 1 →
      p.report { s with strict := true } none numbered = .error e →
      (p.check s).filter (fun f => f.level = .error) = [.ofError "plan.E004" e] := by
  refine ⟨?_, fun e hTree => ⟨?_, ?_⟩, fun t e hTree hOne hReport => ?_⟩
  -- the two sides are said without errors: nothing is found, nothing is refused
  · have hErrors := errors_check_eq_nil_iff p s hk numbered
    rw [Finding.errors_eq_nil_iff] at hErrors
    rw [← not_iff_not, hErrors]
    cases p.report { s with strict := true } none numbered <;> simp
  · rw [report_strict p s hk, hTree]
    rfl
  -- without a tree nothing is compiled, so the remark on the tree is the only one of its kind
  · have hErrors : Finding.errors (p.checkShape s) ≠ [] := by
      simp [errors_checkShape_eq_nil_iff, hTree]
    rw [check_of_errors p s hErrors, filter_id_checkShape, hTree]
    rfl
  · rw [report_strict p s hk, hTree] at hReport
    change (compile t k.dialect true p.instructions).map _ = .error e at hReport
    have hErrors := errors_check p s hk hTree hOne
    cases hCompile : compile t k.dialect true p.instructions with
    | ok c => simp [hCompile, Except.map] at hReport
    | error e' =>
      simp only [hCompile, Except.map, Except.error.injEq] at hReport
      rw [hCompile, hReport] at hErrors
      exact hErrors

/-- A query for orders that turns to the condition on groups as if it were a
page. -/
def groupless : Plan := ⟨.orders .null, [.fromQuery, .pagedHaving]⟩

/-- A plan that filters groups outside of a page: well-formed in its shape,
refused by compiling. -/
theorem check_agrees_groupless :
    Settings.kind {} = .ok .sqlite ∧ groupless.tree "_" = .ok (.orders .null) ∧
      groupless.instructions.countP Instruction.begins = 1 ∧
      groupless.report { strict := true } none false = .error (.outsidePage .pagedHaving) ∧
      (groupless.check {}).filter (fun f => f.level = .error) =
        [.ofError "plan.E004" (.outsidePage .pagedHaving)] := by
  have hKind : Settings.kind {} = .ok .sqlite := rfl
  have hTree : groupless.tree "_" = .ok (.orders .null) := Tree.ofDefinition_orders .null
  have hReport : groupless.report { strict := true } none false =
      .error (.outsidePage .pagedHaving) := rfl
  exact ⟨hKind, hTree, rfl, hReport,
    (check_agrees groupless {} hKind false).2.2 _ _ hTree rfl hReport⟩

end Plan

end SqlPlan
