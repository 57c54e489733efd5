import SqlPlan.Proofs.Compile.Agreement
import SqlPlan.Proofs.Compile.Outcome

/-!
# SqlPlan — segments of a page

The fragments of a page may be written in any order. A segment is a switch to an
accumulator and everything up to the next switch; two segments that follow one
another and lead to different accumulators may change places:

* `IsSegment` — a switch, and instructions none of which switches again;
* `State.part_comm` — what only one of two lists of instructions changes is the
  same in either order;
* `IsSegment.written_comm` — so is what two segments write, for each goes back
  to the root and leaves the other's accumulator alone;
* `State.SameWork` — states that differ in where they stand and nothing else,
  which the next switch or the end of the walk makes up for;
* `firstFault?_append_of_page` — inside a page the rule of an instruction does not
  hang on its place.
-/

namespace SqlPlan

-- ---------------------------------------------------------------------------
-- Segments
-- ---------------------------------------------------------------------------

/-- A switch to an accumulator, and instructions none of which switches again. -/
def IsSegment (a : Accumulator) : List Instruction → Prop
  | [] => False
  | i :: rest => i.switch? = some a ∧ ∀ j ∈ rest, j.switch? = none

section Segments

variable {t : Tree} {d : Dialect} {s : State} {a b : Accumulator} {xs ys : List Instruction}

/-- Without a switch only the current accumulator is written to. -/
theorem State.get_after_of_ne (hStay : ∀ i ∈ xs, i.switch? = none) (h : b ≠ s.current) :
    (s.after t d xs).written.get b = s.written.get b := by
  induction xs generalizing s with
  | nil => rfl
  | cons i rest ih =>
    have hCurrent : (s.advance t d i).current = s.current := by
      show i.switch?.getD s.current = s.current
      rw [hStay i (List.mem_cons_self ..), Option.getD_none]
    have hRest := ih (s := s.advance t d i) (fun j hj => hStay j (List.mem_cons_of_mem _ hj))
      (by rwa [hCurrent])
    rw [State.after_cons, hRest, State.AgreeOn.get_advance_of_ne s i h]

/-- A segment leaves the other accumulators alone. -/
theorem IsSegment.get_after_of_ne (hx : IsSegment a xs) (h : b ≠ a) :
    (s.after t d xs).written.get b = s.written.get b := by
  cases xs with
  | nil => exact hx.elim
  | cons i rest =>
    obtain ⟨hSwitch, hStay⟩ := hx
    have hCurrent : (s.advance t d i).current = a := by
      show i.switch?.getD s.current = a
      rw [hSwitch, Option.getD_some]
    have hWritten : (s.advance t d i).written = s.written := by
      show s.written.add s.current (i.piece? t d s.node s.separator) = s.written
      rw [Instruction.piece?_of_switch? hSwitch]
      rfl
    rw [State.after_cons, State.get_after_of_ne hStay (by rwa [hCurrent]), hWritten]

/-- What a segment writes hangs on the separator and on what is there already. -/
theorem IsSegment.get_after_congr (hx : IsSegment a xs) {s' : State}
    (hSeparator : s'.separator = s.separator) (hWritten : s'.written.get a = s.written.get a) :
    (s'.after t d xs).written.get a = (s.after t d xs).written.get a := by
  cases xs with
  | nil => exact hx.elim
  | cons i rest =>
    have hAgree : State.AgreeOn (· = a) (s.advance t d i) (s'.advance t d i) :=
      State.AgreeOn.of_switch hx.1 hSeparator fun b hb => hb ▸ hWritten
    exact (hAgree.after rest).written a rfl

-- ---------------------------------------------------------------------------
-- Either order
-- ---------------------------------------------------------------------------

/-- A part of a state that only one of two lists of instructions changes is the
same whichever comes first. -/
theorem State.part_comm {α : Type} (part : State → α)
    (hCongr : ∀ i s s', part s' = part s → part (s'.advance t d i) = part (s.advance t d i))
    (hStill : (∀ i ∈ xs, ∀ s, part (s.advance t d i) = part s) ∨
      ∀ i ∈ ys, ∀ s, part (s.advance t d i) = part s) :
    part ((s.after t d xs).after t d ys) = part ((s.after t d ys).after t d xs) := by
  have hAfter : ∀ (is : List Instruction) (s s' : State), part s' = part s →
      part (s'.after t d is) = part (s.after t d is) := by
    intro is
    induction is with
    | nil => exact fun _ _ h => h
    | cons i rest ih => exact fun s s' h => ih _ _ (hCongr i s s' h)
  -- the segment that leaves the part alone may as well not be there
  rcases hStill with hx | hy
  · rw [hAfter ys s _ (State.part_after t d s part hx), State.part_after t d _ part hx]
  · rw [hAfter xs s _ (State.part_after t d s part hy), State.part_after t d _ part hy]

/-- Accumulators are known by what each of the four holds. -/
theorem Accumulators.eq_of_get {as bs : Accumulators} (h : ∀ a, as.get a = bs.get a) :
    as = bs := by
  have hMain : as.main = bs.main := h .main
  have hOrder : as.order = bs.order := h .order
  have hHaving : as.having = bs.having := h .having
  have hSecondary : as.secondary = bs.secondary := h .secondary
  cases as
  cases bs
  simp_all

/-- Instructions that set no separator keep the one there is. -/
theorem State.separator_after (h : ∀ i ∈ xs, i.separator? = none) :
    (s.after t d xs).separator = s.separator :=
  State.part_after t d s State.separator fun i hi s => by
    show i.separator?.getD s.separator = s.separator
    rw [h i hi, Option.getD_none]

/-- Segments for different accumulators write the same in either order. -/
theorem IsSegment.written_comm (hx : IsSegment a xs) (hy : IsSegment b ys) (hNe : a ≠ b)
    (hxSep : ∀ i ∈ xs, i.separator? = none) (hySep : ∀ i ∈ ys, i.separator? = none) :
    ((s.after t d xs).after t d ys).written = ((s.after t d ys).after t d xs).written := by
  refine Accumulators.eq_of_get fun c => ?_
  -- a segment writes to its own accumulator and starts anew, wherever it stands
  by_cases hca : c = a
  · subst hca
    rw [hy.get_after_of_ne hNe]
    exact (hx.get_after_congr (State.separator_after hySep) (hy.get_after_of_ne hNe)).symm
  · by_cases hcb : c = b
    · subst hcb
      rw [hx.get_after_of_ne hca]
      exact hy.get_after_congr (State.separator_after hxSep) (hx.get_after_of_ne hca)
    · rw [hy.get_after_of_ne hcb, hx.get_after_of_ne hca, hx.get_after_of_ne hca,
        hy.get_after_of_ne hcb]

/-- Only a segment for the main filter adds columns. -/
theorem IsSegment.columns_eq_nil (hx : IsSegment a xs) (ha : a ≠ .main) {i : Instruction}
    (hi : i ∈ xs) : i.columns = [] := by
  have hSwitch : i.switch? ≠ some .main := by
    cases xs with
    | nil => exact hx.elim
    | cons j rest =>
      rcases List.mem_cons.mp hi with rfl | hRest
      · rw [hx.1]
        simpa using ha
      · rw [hx.2 i hRest]
        simp
  cases i with
  | pagedMainWhere columns => exact absurd rfl hSwitch
  | _ => rfl

end Segments

-- ---------------------------------------------------------------------------
-- States that stand in different places
-- ---------------------------------------------------------------------------

/-- States that agree in all that has been done, wherever they stand. -/
structure State.SameWork (s s' : State) : Prop where
  written     : s'.written = s.written
  separator   : s'.separator = s.separator
  initializer : s'.initializer = s.initializer
  window      : s'.window = s.window
  columns     : s'.columns = s.columns
  grouping    : s'.grouping = s.grouping

namespace State.SameWork

variable {t : Tree} {d : Dialect} {s s' : State}

/-- A switch says where a state stands from then on. -/
theorem advance_switch (h : SameWork s s') {i : Instruction} {a : Accumulator}
    (hSwitch : i.switch? = some a) : s'.advance t d i = s.advance t d i := by
  simp only [advance, hSwitch, Instruction.turn?_of_switch? hSwitch,
    Instruction.piece?_of_switch? hSwitch, Option.getD_some, Accumulators.add, h.written,
    h.separator, h.initializer, h.window, h.columns, h.grouping]

/-- Whatever follows brings the states together, if it begins with a switch. -/
theorem finish_after (h : SameWork s s') {is : List Instruction}
    (hSwitch : ∀ i ∈ is.head?, i.switch?.isSome = true) :
    (s'.after t d is).finish t d = (s.after t d is).finish t d := by
  cases is with
  | nil =>
    have hResult : s'.result t d = s.result t d := by
      simp only [result, criteria, h.window, h.written, h.columns, h.grouping]
    simp only [after_nil, finish_eq, h.initializer, h.window, h.written, hResult]
  | cons i rest =>
    obtain ⟨a, ha⟩ := Option.isSome_iff_exists.mp (hSwitch i rfl)
    rw [after_cons, after_cons, h.advance_switch ha]

end State.SameWork

/-- After two segments for different accumulators, in either order, the same
has been done. -/
theorem IsSegment.sameWork {t : Tree} {d : Dialect} {s : State} {a b : Accumulator}
    {xs ys : List Instruction} (hx : IsSegment a xs) (hy : IsSegment b ys) (hNe : a ≠ b)
    (hSeparator : ∀ i ∈ xs ++ ys, i.separator? = none)
    (hBegins : ∀ i ∈ xs ++ ys, i.begins = false)
    (hGrouping : (∀ i ∈ xs, i.grouping? = none) ∨ ∀ i ∈ ys, i.grouping? = none) :
    State.SameWork ((s.after t d ys).after t d xs) ((s.after t d xs).after t d ys) := by
  rw [List.forall_mem_append] at hSeparator hBegins
  have hInitializer : ∀ i : Instruction, i.begins = false → i.initializer? = none := fun i hi =>
    Instruction.initializer?_eq_none_iff.mpr hi
  have hWindow : ∀ i : Instruction, i.begins = false → i.window? = none := by
    intro i hi
    cases i with
    | pagedInitialQuery w => simp [Instruction.begins, Instruction.kind, Kind.isInitializer] at hi
    | _ => rfl
  constructor
  · exact hx.written_comm hy hNe hSeparator.1 hSeparator.2
  · rw [State.separator_after hSeparator.2, State.separator_after hSeparator.1,
      State.separator_after hSeparator.1, State.separator_after hSeparator.2]
  -- neither begins a query, so the kind and the window stay those of the page
  · refine State.part_comm State.initializer (fun i s s' h => ?_) (Or.inl fun i hi s => ?_)
    · show i.initializer?.or s'.initializer = i.initializer?.or s.initializer
      rw [h]
    · show i.initializer?.or s.initializer = s.initializer
      rw [hInitializer i (hBegins.1 i hi), Option.none_or]
  · refine State.part_comm State.window (fun i s s' h => ?_) (Or.inl fun i hi s => ?_)
    · show i.window?.or s'.window = i.window?.or s.window
      rw [h]
    · show i.window?.or s.window = s.window
      rw [hWindow i (hBegins.1 i hi), Option.none_or]
  · -- at most one of the two is for the main filter
    have hColumns : ∀ is : List Instruction, (∀ i ∈ is, i.columns = []) →
        ∀ i ∈ is, ∀ s : State, (s.advance t d i).columns = s.columns := by
      intro is his i hi s
      show s.columns ++ i.columns = s.columns
      rw [his i hi, List.append_nil]
    refine State.part_comm State.columns (fun i s s' h => ?_) ?_
    · show s'.columns ++ i.columns = s.columns ++ i.columns
      rw [h]
    · by_cases ha : a = .main
      · have hb : b ≠ .main := fun hb => hNe (ha.trans hb.symm)
        exact Or.inr (hColumns ys fun i hi => hy.columns_eq_nil hb hi)
      · exact Or.inl (hColumns xs fun i hi => hx.columns_eq_nil ha hi)
  -- and at most one of them groups
  · have hStill : ∀ is : List Instruction, (∀ i ∈ is, i.grouping? = none) →
        ∀ i ∈ is, ∀ s : State, (s.advance t d i).grouping = s.grouping := by
      intro is his i hi s
      show (i.grouping?.map (s.grouping.getD [] ++ ·)).or s.grouping = s.grouping
      rw [his i hi, Option.map_none, Option.none_or]
    refine State.part_comm State.grouping (fun i s s' h => ?_) ?_
    · show (i.grouping?.map (s'.grouping.getD [] ++ ·)).or s'.grouping =
        (i.grouping?.map (s.grouping.getD [] ++ ·)).or s.grouping
      rw [h]
    · exact hGrouping.imp (hStill xs) (hStill ys)

-- ---------------------------------------------------------------------------
-- Rules inside a page
-- ---------------------------------------------------------------------------

/-- What an instruction must obey inside a page. -/
def Instruction.ObeysInPage (t : Tree) (i : Instruction) : Prop :=
  i.Obeys t (some .pagedInitialQuery) true

/-- In a page that has begun, whether an instruction obeys its rule hangs on
the tree alone. -/
theorem Instruction.obeys_iff_obeysInPage {t : Tree} {i : Instruction} {begun : Option Kind}
    (h : begun.isSome = true) : i.Obeys t begun true ↔ i.ObeysInPage t := by
  obtain ⟨kind, rfl⟩ := Option.isSome_iff_exists.mp h
  rw [ObeysInPage, obeys_iff, obeys_iff]
  simp

/-- So the instructions after its beginning obey their rules in any order. -/
theorem sitesFrom_obey_of_page {t : Tree} {before is : List Instruction}
    (hPage : ∃ w, .pagedInitialQuery w ∈ before) :
    (∀ s ∈ sitesFrom before is, s.Obeys t) ↔ ∀ i ∈ is, i.ObeysInPage t := by
  induction is generalizing before with
  | nil => simp [sitesFrom]
  | cons i rest ih =>
    obtain ⟨w, hw⟩ := hPage
    -- the page before the first instruction stays before all that follow
    have hBegun : (latest? Instruction.initializer? before).isSome = true :=
      (latest?_isSome_iff _).mpr ⟨_, hw, rfl⟩
    have hPaged : (latest? Instruction.window? before).isSome = true :=
      Instruction.exists_page_iff.mpr ⟨w, hw⟩
    have hHead : Site.Obeys t ⟨before, i⟩ ↔ i.ObeysInPage t := by
      rw [Site.Obeys, hPaged]
      exact Instruction.obeys_iff_obeysInPage hBegun
    rw [sitesFrom, List.forall_mem_cons, List.forall_mem_cons, hHead,
      ih ⟨w, List.mem_append_left _ hw⟩]

/-- Once a page has begun, the rule of an instruction does not hang on its
place. -/
theorem firstFault?_append_of_page {t : Tree} {before is : List Instruction}
    (hPage : ∃ w, .pagedInitialQuery w ∈ before) :
    firstFault? t (before ++ is) = none ↔
      firstFault? t before = none ∧ ∀ i ∈ is, i.ObeysInPage t := by
  rw [firstFault?_eq_none_iff, firstFault?_eq_none_iff, sites, sitesFrom_append,
    List.forall_mem_append, List.nil_append, sitesFrom_obey_of_page hPage, sites]

-- ---------------------------------------------------------------------------
-- Results
-- ---------------------------------------------------------------------------

section Swap

variable {t : Tree} {d : Dialect} {before xs ys after : List Instruction} {a b : Accumulator}

/-- One direction of the exchange, without the check of placeholders; the other
is this one again. -/
theorem compileLoose_swap (hPage : ∃ w, .pagedInitialQuery w ∈ before) (hx : IsSegment a xs)
    (hy : IsSegment b ys) (hNe : a ≠ b) (hSeparator : ∀ i ∈ xs ++ ys, i.separator? = none)
    (hGrouping : (∀ i ∈ xs, i.grouping? = none) ∨ ∀ i ∈ ys, i.grouping? = none)
    (hAfter : ∀ i ∈ after.head?, i.switch?.isSome = true) {c : Compiled}
    (hc : compileLoose t d (before ++ (ys ++ xs ++ after)) = .ok c) :
    compileLoose t d (before ++ (xs ++ ys ++ after)) = .ok c := by
  rw [compileLoose_eq_ok_iff, firstFault?_append_of_page hPage] at hc ⊢
  obtain ⟨⟨hBefore, hObey⟩, hFinish⟩ := hc
  -- the same instructions stand inside the page
  have hObey' : ∀ i ∈ xs ++ ys ++ after, i.ObeysInPage t := by
    intro i hi
    refine hObey i ?_
    rw [List.mem_append, List.mem_append] at hi ⊢
    exact hi.imp_left Or.symm
  have hBegins : ∀ i ∈ xs ++ ys, i.begins = false := by
    intro i hi
    by_contra hInit
    have hNone := (hObey' i (List.mem_append_left _ hi)).initializer (by simpa using hInit)
    exact absurd hNone (by simp)
  -- the two orders end at different places, which is forgotten at the next switch
  have hWork := hx.sameWork (t := t) (d := d) (s := reading t d before) hy hNe hSeparator
    hBegins hGrouping
  refine ⟨⟨hBefore, hObey'⟩, ?_⟩
  rw [State.reading_append, State.after_append, State.after_append] at hFinish ⊢
  rw [hWork.finish_after hAfter]
  exact hFinish

/--
**Segments commute.** In a page, two segments that follow one another and are for
different accumulators may change places: the instructions compile in one order
exactly if they do in the other, and to the same page. Neither segment may set
the separator, one of them at most may group, and what comes after them is
nothing or another switch.
-/
theorem compile_segments_comm (strict : Bool) (hPage : ∃ w, .pagedInitialQuery w ∈ before)
    (hx : IsSegment a xs) (hy : IsSegment b ys) (hNe : a ≠ b)
    (hSeparator : ∀ i ∈ xs ++ ys, i.separator? = none)
    (hGrouping : (∀ i ∈ xs, i.grouping? = none) ∨ ∀ i ∈ ys, i.grouping? = none)
    (hAfter : ∀ i ∈ after.head?, i.switch?.isSome = true) (c : Compiled) :
    (compile t d strict (before ++ xs ++ ys ++ after) = .ok c ↔
      compile t d strict (before ++ ys ++ xs ++ after) = .ok c) ∧
    (compile t d strict (before ++ xs ++ ys ++ after) = .ok c →
      ∃ page count w, c = .paged page count w) := by
  have hPlace : ∀ xs ys : List Instruction,
      before ++ xs ++ ys ++ after = before ++ (xs ++ ys ++ after) := by
    intro xs ys
    rw [List.append_assoc, List.append_assoc, List.append_assoc]
  have hSeparator' : ∀ i ∈ ys ++ xs, i.separator? = none := by
    intro i hi
    exact hSeparator i (List.mem_append.mpr (List.mem_append.mp hi).symm)
  rw [compile_eq_ok_iff, compile_eq_ok_iff, hPlace, hPlace]
  -- the check of placeholders looks at the result, which is the same
  refine ⟨and_congr_left fun _ => ⟨fun hc => ?_, fun hc => ?_⟩, fun hc => ?_⟩
  · exact compileLoose_swap hPage hy hx hNe.symm hSeparator' hGrouping.symm hAfter hc
  · exact compileLoose_swap hPage hx hy hNe hSeparator hGrouping hAfter hc
  · obtain ⟨w, hw⟩ := hPage
    have hFinish := (compileLoose_eq_ok_iff.mp hc.1).2
    have hWindow : (latest? Instruction.window? (before ++ (xs ++ ys ++ after))).isSome = true :=
      Instruction.exists_page_iff.mpr ⟨w, List.mem_append_left _ hw⟩
    obtain ⟨page, count, w', hPaged⟩ := (State.exists_paged_iff (t := t) (d := d) _).mpr
      ((congrArg Option.isSome (reading_window t d _)).trans hWindow)
    exact ⟨page, count, w', (State.eq_result_of_finish hFinish).trans hPaged⟩

end Swap

/-- A filter on the lines of an order. -/
def linesFilter : List Instruction :=
  [.pagedMainWhere ["o.total"], .path [.entity "Line"], .column "qty" .asIs, .arrayParam [.int 2]]

/-- An order by what is grouped. -/
def groupedOrder : List Instruction :=
  [.pagedMainOrderBy, .pagedUseGroupBy ["o.total"], .column "total" .caseSensitive]

/-- A filter by lines and a grouped order, in both orders. -/
theorem compile_segments_comm_orders :
    ∃ c, compile (.orders .null) .sqlite false
        ([.pagedInitialQuery ⟨0, 5⟩] ++ linesFilter ++ groupedOrder ++ [.pagedHaving]) = .ok c ∧
      compile (.orders .null) .sqlite false
        ([.pagedInitialQuery ⟨0, 5⟩] ++ groupedOrder ++ linesFilter ++ [.pagedHaving]) = .ok c ∧
      ∃ page count w, c = .paged page count w := by
  have hComm := @compile_segments_comm (.orders .null) .sqlite [.pagedInitialQuery ⟨0, 5⟩]
    linesFilter groupedOrder [.pagedHaving] .main .order false ⟨_, List.mem_singleton_self _⟩
    (by simp [IsSegment, linesFilter, Instruction.switch?])
    (by simp [IsSegment, groupedOrder, Instruction.switch?]) (by decide)
    (by simp [linesFilter, groupedOrder, Instruction.separator?])
    (Or.inl (by simp [linesFilter, Instruction.grouping?]))
    (by simp [Instruction.switch?])
  obtain ⟨c, hc⟩ : ∃ c, compile (.orders .null) .sqlite false
      ([.pagedInitialQuery ⟨0, 5⟩] ++ linesFilter ++ groupedOrder ++ [.pagedHaving]) = .ok c := by
    rw [compile_eq]
    exact ⟨_, rfl⟩
  exact ⟨c, hc, (hComm c).1.mp hc, (hComm c).2 hc⟩

end SqlPlan
