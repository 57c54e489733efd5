import SqlPlan.Proofs.Compile.Outcome
import SqlPlan.Proofs.Dialect

/-!
# SqlPlan — the parameters of a result

The accumulators of a page may be written in any order and resumed at will;
the parameters of its queries come out in one fixed order all the same, each
value once for every placeholder it stands for:

* a page binds the joins, the main filter, the condition on groups, the range,
  the joins again and the filter on the rows;
* its count binds the first three;
* a plain query binds what its instructions bind, in their order, with the
  joins where the query begins.

What an accumulator binds is `boundIn`, what the joins bind is
`Definition.joinParams`.
-/

namespace SqlPlan

-- ---------------------------------------------------------------------------
-- The range of a page
-- ---------------------------------------------------------------------------

/-- An index is bound as it is, or as the greatest integer if it is greater. -/
theorem Value.exists_ofIndex (n : Nat) :
    ∃ i : Int64, Value.ofIndex n = .int i ∧ i.toInt = min (n : Int) 9223372036854775807 := by
  refine ⟨_, rfl, ?_⟩
  rw [Int64.toInt_ofNat_of_lt (by omega)]
  omega

/-- Every dialect binds where a page begins and how many rows it has. -/
theorem DialectKind.exists_rangeParams (k : DialectKind) {w : Window} (h : w.start ≤ w.stop) :
    ∃ offset rows : Int64, k.dialect.rangeParams w = (.int offset, .int rows) ∧
      offset.toInt = min (w.start.toNat : Int) 9223372036854775807 ∧
      rows.toInt = min ((w.stop.toNat : Int) - w.start.toNat) 9223372036854775807 := by
  have hLe : w.start.toNat ≤ w.stop.toNat := UInt64.le_iff_toNat_le.mp h
  obtain ⟨offset, hOffset, hOffsetInt⟩ := Value.exists_ofIndex w.start.toNat
  obtain ⟨rows, hRows, hRowsInt⟩ := Value.exists_ofIndex (w.stop.toNat - w.start.toNat)
  refine ⟨offset, rows, ?_, hOffsetInt, by omega⟩
  rw [k.rangeParams_dialect, Window.offsetAndCount, hOffset, hRows]

-- ---------------------------------------------------------------------------
-- Plain queries
-- ---------------------------------------------------------------------------

theorem map_instruction_sites (is : List Instruction) :
    (sites is).map Site.instruction = is := by
  induction is using List.reverseRecOn with
  | nil => rfl
  | append_singleton is i ih => rw [sites_concat, List.map_append, ih]; rfl

section Plain

variable {t : Tree} {d : Dialect} {is : List Instruction}

/-- Without a page everything goes to the main accumulator. -/
theorem gather_main_of_no_page (h : firstFault? t is = none)
    (hWindow : latest? Instruction.window? is = none) (f : Instruction → List Value) :
    gather f .main is = is.flatMap f := by
  calc gather f .main is = (sites is).flatMap fun s => f s.instruction :=
        List.flatMap_congr fun s hs => by
          rw [accumulator_of_no_page h hWindow hs, if_pos rfl]
    _ = ((sites is).map Site.instruction).flatMap f := by rw [List.flatMap_map]
    _ = is.flatMap f := by rw [map_instruction_sites]

/-- Where one instruction begins the query, the others do not. -/
theorem exists_split_of_countP_eq_one
    (h : is.countP Instruction.begins = 1) :
    ∃ before i after, is = before ++ i :: after ∧ i.begins = true ∧
      ∀ j ∈ before ++ after, j.begins = false := by
  obtain ⟨i, hi, hInit⟩ := List.countP_pos_iff.mp (h ▸ Nat.one_pos)
  obtain ⟨before, after, hEq⟩ := List.append_of_mem hi
  refine ⟨before, i, after, hEq, hInit, ?_⟩
  rw [hEq, List.countP_append, List.countP_cons_of_pos hInit] at h
  have hZero : (before ++ after).countP Instruction.begins = 0 := by
    rw [List.countP_append]
    omega
  intro j hj
  exact Bool.eq_false_iff.mpr (List.countP_eq_zero.mp hZero j hj)

/-- Between initializers every instruction writes what it binds. -/
theorem flatMap_values_eq_bound (h : ∀ j ∈ is, j.begins = false) :
    is.flatMap (Instruction.values t d) = is.flatMap Instruction.bound :=
  List.flatMap_congr fun j hj => Instruction.values_eq_bound fun hInit => by
    rw [h j hj] at hInit
    exact absurd hInit (by decide)

/-- What is usually written by what begins a plain query are the joins. -/
theorem values_of_begins (hd : d.UsesDefaults) {i : Instruction} (h : i.begins = true)
    (hWindow : i.window? = none) : i.values t d = t.joins.params := by
  cases i with
  | initialQuery =>
    rw [Instruction.values, hd.baseQuery]
    rfl
  | fromQuery =>
    rw [Instruction.values, hd.fromQuery]
    rfl
  | pagedInitialQuery w => simp [Instruction.window?] at hWindow
  | _ => simp [Instruction.begins, Instruction.kind, Kind.isInitializer] at h

/-- A plain query binds the joins where it begins, and otherwise what its
instructions bind. -/
theorem params_main_of_plain {definition : Definition} {separator : String}
    (ht : Tree.ofDefinition definition separator = .ok t) (hd : d.UsesDefaults)
    (hFault : firstFault? t is = none) (hOne : is.countP Instruction.begins = 1)
    (hWindow : latest? Instruction.window? is = none) :
    ∃ before i after, is = before ++ i :: after ∧ i.begins = true ∧
      (∀ j ∈ before ++ after, j.begins = false) ∧
      (reading t d is).written.main.params = before.flatMap Instruction.bound ++
        definition.joinParams ++ after.flatMap Instruction.bound := by
  obtain ⟨before, i, after, hEq, hBegins, hOthers⟩ := exists_split_of_countP_eq_one hOne
  refine ⟨before, i, after, hEq, hBegins, hOthers, ?_⟩
  have hi : i.window? = none := (latest?_eq_none_iff _).mp hWindow i (by simp [hEq])
  have hMain := params_reading t d is .main
  rw [gather_main_of_no_page hFault hWindow] at hMain
  -- without a page all that is written goes to one accumulator
  calc (reading t d is).written.main.params
      = is.flatMap (Instruction.values t d) := hMain
    _ = before.flatMap (Instruction.values t d) ++ i.values t d ++
          after.flatMap (Instruction.values t d) := by
        rw [hEq, List.flatMap_append, List.flatMap_cons, List.append_assoc]
    _ = before.flatMap Instruction.bound ++ definition.joinParams ++
          after.flatMap Instruction.bound := by
        rw [flatMap_values_eq_bound fun j hj => hOthers j (List.mem_append_left _ hj),
          flatMap_values_eq_bound fun j hj => hOthers j (List.mem_append_right _ hj),
          values_of_begins hd hBegins hi, Tree.params_joins ht]

end Plain

-- ---------------------------------------------------------------------------
-- Pages
-- ---------------------------------------------------------------------------

section Page

variable {definition : Definition} {separator : String} {t : Tree} {d : Dialect}
  {is : List Instruction}

/-- The page that instructions begin is among them. -/
theorem mem_of_window {w : Window} (h : latest? Instruction.window? is = some w) :
    .pagedInitialQuery w ∈ is := by
  obtain ⟨i, hi, hView⟩ := exists_of_latest?_eq_some _ h
  obtain ⟨w', rfl⟩ := Instruction.window?_isSome_iff.mp (by rw [hView]; rfl)
  rw [Instruction.window?, Option.some.injEq] at hView
  rwa [hView] at hi

/-- Where no rule is broken, an accumulator of a page binds what instructions
bind there. -/
theorem params_reading_of_page (hFault : firstFault? t is = none) {w : Window}
    (hw : .pagedInitialQuery w ∈ is) (d : Dialect) (a : Accumulator) :
    ((reading t d is).written.get a).params = boundIn a is := by
  rw [params_reading, gather_values_of_page hFault (Or.inr ⟨w, hw⟩)]

/-- The count of a page binds what the joins, the main filter and the condition
on groups bind; the page itself goes on from there. -/
theorem params_of_result (hd : d.UsesDefaults) (hFault : firstFault? t is = none)
    {page count : Sql} {w : Window} (hResult : (reading t d is).result t d = .paged page count w) :
    .pagedInitialQuery w ∈ is ∧
    count.params = t.joins.params ++ boundIn .main is ++ boundIn .having is ∧
    page.params = count.params ++ [(d.rangeParams w).1, (d.rangeParams w).2] ++
      t.joins.params ++ boundIn .secondary is := by
  rw [State.result, reading_window] at hResult
  cases hWindow : latest? Instruction.window? is with
  | none => simp [hWindow] at hResult
  | some w' =>
    simp only [hWindow, Compiled.paged.injEq] at hResult
    obtain ⟨rfl, rfl, rfl⟩ := hResult
    have hw := mem_of_window hWindow
    have hMain := params_reading_of_page hFault hw d .main
    have hHaving := params_reading_of_page hFault hw d .having
    have hSecondary := params_reading_of_page hFault hw d .secondary
    simp only [Accumulators.get] at hMain hHaving hSecondary
    -- each accumulator is handed over with what was bound in it
    have hParams := Criteria.params_assemble ((reading t d is).criteria t) hd w'
      (boundIn .main is) (boundIn .having is) (boundIn .secondary is)
    rw [hMain, hHaving, hSecondary, hParams.1, hParams.2]
    exact ⟨hw, rfl, rfl⟩

/-- The queries of a page bind what has been bound in each accumulator. -/
theorem params_of_page (ht : Tree.ofDefinition definition separator = .ok t)
    (hd : d.UsesDefaults) (hFault : firstFault? t is = none) {page count : Sql} {w : Window}
    (hResult : (reading t d is).result t d = .paged page count w) :
    .pagedInitialQuery w ∈ is ∧
    page.params = definition.joinParams ++ boundIn .main is ++ boundIn .having is ++
      [(d.rangeParams w).1, (d.rangeParams w).2] ++ definition.joinParams ++
      boundIn .secondary is ∧
    count.params = definition.joinParams ++ boundIn .main is ++ boundIn .having is := by
  obtain ⟨hw, hCount, hPage⟩ := params_of_result hd hFault hResult
  rw [hPage, hCount, Tree.params_joins ht]
  exact ⟨hw, rfl, rfl⟩

end Page

-- ---------------------------------------------------------------------------
-- All results
-- ---------------------------------------------------------------------------

/--
**The parameters of every result.** However the accumulators are revisited, a
page, its count and a plain query bind their parameters in the order of their
placeholders.
-/
theorem compile_params {definition : Definition} {separator : String} {t : Tree}
    (ht : Tree.ofDefinition definition separator = .ok t) (k : DialectKind) {strict : Bool}
    {is : List Instruction} {c : Compiled} (hc : compile t k.dialect strict is = .ok c) :
    (∀ page count w, c = .paged page count w →
      .pagedInitialQuery w ∈ is ∧
      ∃ offset rows : Int64,
        offset.toInt = min (w.start.toNat : Int) 9223372036854775807 ∧
        rows.toInt = min ((w.stop.toNat : Int) - w.start.toNat) 9223372036854775807 ∧
        page.params = definition.joinParams ++ boundIn .main is ++ boundIn .having is ++
          [.int offset, .int rows] ++ definition.joinParams ++ boundIn .secondary is ∧
        count.params = definition.joinParams ++ boundIn .main is ++ boundIn .having is) ∧
    ∀ q, c = .plain q →
      ∃ before i after, is = before ++ i :: after ∧ i.begins = true ∧
        (∀ j ∈ before ++ after, j.begins = false) ∧
        q.params = before.flatMap Instruction.bound ++ definition.joinParams ++
          after.flatMap Instruction.bound := by
  obtain ⟨hFault, hCompilable, rfl⟩ := result_of_compile ht hc
  constructor
  · intro page count w hPaged
    obtain ⟨hw, hPage, hCount⟩ := params_of_page ht k.usesDefaults hFault hPaged
    obtain ⟨offset, rows, hRange, hOffset, hRows⟩ :=
      k.exists_rangeParams (hCompilable.window w hw)
    rw [hRange] at hPage
    exact ⟨hw, offset, rows, hOffset, hRows, hPage, hCount⟩
  · intro q hq
    rw [State.result, reading_window] at hq
    cases hWindow : latest? Instruction.window? is with
    | some w => simp [hWindow] at hq
    | none =>
      simp only [hWindow, Compiled.plain.injEq] at hq
      subst hq
      exact params_main_of_plain ht k.usesDefaults hFault hCompilable.initializer hWindow

/-- A page whose accumulators are written by turns. -/
def pageByTurns : List Instruction :=
  [.pagedInitialQuery ⟨10, 25⟩, .pagedHaving, .param (.int 1), .pagedMainWhere [], .param (.int 2),
    .pagedSecondaryWhere, .param (.int 3), .pagedHaving, .param (.int 4), .pagedMainWhere [],
    .arrayParam [.int 5, .int 6]]

/-- A page whose instructions turn back and forth between its parts: the values
stand in the order of the page's text, not in that of the list. -/
theorem compile_params_orders :
    ∃ page count, Tree.ofDefinition (.orders (.string "std")) "_" = .ok (.orders (.string "std")) ∧
      compile (.orders (.string "std")) DialectKind.sqlite.dialect false pageByTurns =
        .ok (.paged page count ⟨10, 25⟩) ∧
      count.params = [.string "std", .int 2, .list [.int 5, .int 6], .int 1, .int 4] := by
  have ht := Tree.ofDefinition_orders (.string "std")
  obtain ⟨page, count, hc⟩ : ∃ page count, compile (.orders (.string "std"))
      DialectKind.sqlite.dialect false pageByTurns = .ok (.paged page count ⟨10, 25⟩) := by
    rw [compile_eq]
    exact ⟨_, _, rfl⟩
  obtain ⟨-, -, -, -, -, -, hCount⟩ := (compile_params ht .sqlite hc).1 _ _ _ rfl
  exact ⟨page, count, ht, hc, hCount⟩

end SqlPlan
