import SqlPlan.Proofs.Compile.Parameters

/-!
# SqlPlan — pages tile a result

A window says which rows a page has by the indices of the first and of the one
after the last. A range clause says it by a number of rows to skip and a number
of rows to take, and both are cut off at the greatest integer of a database:

* `Window.rowsOf` — the rows of a window, by their indices;
* `Dialect.page?` — what is left of a result by what a range clause binds;
* `Window.rowsOf_eq_take_drop` — skipping and taking picks rows by their indices;
* `DialectKind.page?_eq_rowsOf` — cutting the numbers off loses no row, for no
  result is long enough to have one there;
* `Window.rowsOf_append` — windows that meet have the rows of the window around
  both, and `Window.between` lines up any number of such windows.
-/

namespace SqlPlan

variable {α : Type}

-- ---------------------------------------------------------------------------
-- Windows and ranges
-- ---------------------------------------------------------------------------

/-- The rows of a window, by their indices in the whole result. -/
def Window.rowsOf (w : Window) (rows : List α) : List α :=
  (rows.zipIdx.filter fun r => w.start.toNat ≤ r.2 ∧ r.2 < w.stop.toNat).map Prod.fst

/-- The windows from each bound to the next one. -/
def Window.between (start : UInt64) : List UInt64 → List Window
  | [] => []
  | stop :: rest => ⟨start, stop⟩ :: between stop rest

/-- What a range clause leaves of a result. Of the two integers it binds, the
first is the number of rows to skip and the second that of rows to take; there
is no page if one of them is negative. -/
def Dialect.page? (d : Dialect) (w : Window) (rows : List α) : Option (List α) :=
  match d.rangeParams w with
  | (.int offset, .int count) =>
    if 0 ≤ offset ∧ 0 ≤ count then
      some ((rows.drop offset.toInt.toNat).take count.toInt.toNat)
    else none
  | _ => none

-- ---------------------------------------------------------------------------
-- Rows by their indices
-- ---------------------------------------------------------------------------

/-- Rows that are numbered from `n` on are picked by their numbers. -/
theorem map_fst_filter_zipIdx (start stop : Nat) (rows : List α) (n : Nat) :
    ((rows.zipIdx n).filter fun r => start ≤ r.2 ∧ r.2 < stop).map Prod.fst =
      (rows.drop (start - n)).take (stop - max start n) := by
  induction rows generalizing n with
  | nil => simp
  | cons row rest ih =>
    rw [List.zipIdx_cons, List.filter_cons]
    by_cases hBefore : n < start
    · -- the row stands before the window
      have hDrop : start - n = (start - (n + 1)) + 1 := by omega
      have hMax : max start n = max start (n + 1) := by omega
      have hOut : ¬ (start ≤ n ∧ n < stop) := by omega
      rw [if_neg (by simpa using hOut), ih, hDrop, List.drop_succ_cons, hMax]
    · have hDrop : start - n = 0 := by omega
      have hDropRest : start - (n + 1) = 0 := by omega
      by_cases hAfter : stop ≤ n
      · -- the window has ended, so nothing more is picked
        have hOut : ¬ (start ≤ n ∧ n < stop) := by omega
        have hTake : stop - max start n = 0 := by omega
        have hTakeRest : stop - max start (n + 1) = 0 := by omega
        rw [if_neg (by simpa using hOut), ih, hTake, hTakeRest, List.take_zero, List.take_zero]
      · have hIn : start ≤ n ∧ n < stop := by omega
        have hTake : stop - max start n = (stop - max start (n + 1)) + 1 := by omega
        rw [if_pos (by simpa using hIn), List.map_cons, ih, hDrop, hDropRest, hTake,
          List.drop_zero, List.drop_zero, List.take_succ_cons]

namespace Window

/-- Skipping and taking picks rows by their indices. -/
theorem rowsOf_eq_take_drop (w : Window) (rows : List α) :
    w.rowsOf rows = (rows.drop w.start.toNat).take (w.stop.toNat - w.start.toNat) := by
  rw [rowsOf, map_fst_filter_zipIdx, Nat.sub_zero, Nat.max_zero]

/-- A window that meets another goes on where the first one ends. -/
theorem rowsOf_append {start middle stop : UInt64} (h : start ≤ middle) (h' : middle ≤ stop)
    (rows : List α) :
    rowsOf ⟨start, middle⟩ rows ++ rowsOf ⟨middle, stop⟩ rows = rowsOf ⟨start, stop⟩ rows := by
  rw [UInt64.le_iff_toNat_le] at h h'
  have hMiddle : middle.toNat = start.toNat + (middle.toNat - start.toNat) := by omega
  have hCount : stop.toNat - start.toNat =
      (middle.toNat - start.toNat) + (stop.toNat - middle.toNat) := by omega
  have hSkip : rows.drop middle.toNat =
      (rows.drop start.toNat).drop (middle.toNat - start.toNat) := by
    rw [List.drop_drop, ← hMiddle]
  rw [rowsOf_eq_take_drop, rowsOf_eq_take_drop, rowsOf_eq_take_drop]
  simp only [hSkip, hCount, List.take_add]

/-- An empty window has no rows. -/
theorem rowsOf_self (bound : UInt64) (rows : List α) : rowsOf ⟨bound, bound⟩ rows = [] := by
  rw [rowsOf_eq_take_drop, Nat.sub_self, List.take_zero]

/-- Bounds in order begin with the least and end with the greatest. -/
theorem le_getLastD {start : UInt64} {bounds : List UInt64}
    (h : (start :: bounds).IsChain (· ≤ ·)) : start ≤ bounds.getLastD start := by
  induction bounds generalizing start with
  | nil => exact UInt64.le_refl start
  | cons stop rest ih =>
    obtain ⟨hStart, hRest⟩ := List.isChain_cons_cons.mp h
    rw [List.getLastD_cons]
    exact UInt64.le_trans hStart (ih hRest)

/-- Windows one after another have the rows of the window around them all. -/
theorem flatMap_rowsOf_between {start : UInt64} {bounds : List UInt64}
    (h : (start :: bounds).IsChain (· ≤ ·)) (rows : List α) :
    (between start bounds).flatMap (rowsOf · rows) =
      rowsOf ⟨start, bounds.getLastD start⟩ rows := by
  induction bounds generalizing start with
  | nil => exact (rowsOf_self start rows).symm
  | cons stop rest ih =>
    obtain ⟨hStart, hRest⟩ := List.isChain_cons_cons.mp h
    rw [between, List.flatMap_cons, ih hRest, List.getLastD_cons,
      rowsOf_append hStart (le_getLastD hRest)]

/-- Each of the windows between bounds in order ends where it begins or later. -/
theorem start_le_stop_of_mem_between {start : UInt64} {bounds : List UInt64}
    (h : (start :: bounds).IsChain (· ≤ ·)) {w : Window} (hw : w ∈ between start bounds) :
    w.start ≤ w.stop := by
  induction bounds generalizing start with
  | nil => simp [between] at hw
  | cons stop rest ih =>
    obtain ⟨hStart, hRest⟩ := List.isChain_cons_cons.mp h
    rcases List.mem_cons.mp hw with rfl | hMore
    · exact hStart
    · exact ih hRest hMore

end Window

-- ---------------------------------------------------------------------------
-- Rows by what a range clause binds
-- ---------------------------------------------------------------------------

namespace DialectKind

/-- A database skips and takes the rows of the window. Where a number is cut off,
it is so great that no row stands there. -/
theorem exists_rangeParams_rowsOf (k : DialectKind) {w : Window} (h : w.start ≤ w.stop) :
    ∃ offset count : Int64, k.dialect.rangeParams w = (.int offset, .int count) ∧
      0 ≤ offset ∧ 0 ≤ count ∧
      ∀ rows : List α, rows.length ≤ 9223372036854775807 →
        (rows.drop offset.toInt.toNat).take count.toInt.toNat = w.rowsOf rows := by
  obtain ⟨offset, count, hParams, hOffset, hCount⟩ := k.exists_rangeParams h
  have hLe : w.start.toNat ≤ w.stop.toNat := UInt64.le_iff_toNat_le.mp h
  refine ⟨offset, count, hParams, ?_, ?_, fun rows hRows => ?_⟩
  · rw [Int64.le_iff_toInt_le, Int64.toInt_zero]
    omega
  · rw [Int64.le_iff_toInt_le, Int64.toInt_zero]
    omega
  -- an offset beyond the list skips all of it, whether it was capped or not
  · have hSkip : rows.drop offset.toInt.toNat = rows.drop w.start.toNat := by
      rw [List.drop_eq_drop_iff]
      omega
    have hLength : (rows.drop w.start.toNat).length ≤ rows.length := by
      rw [List.length_drop]
      omega
    rw [hSkip, Window.rowsOf_eq_take_drop, List.take_eq_take_iff]
    omega

/-- What a shipped dialect pages through a window are the rows between its
bounds. -/
theorem page?_eq_rowsOf (k : DialectKind) {w : Window} (h : w.start ≤ w.stop) {rows : List α}
    (hRows : rows.length ≤ 9223372036854775807) :
    k.dialect.page? w rows = some (w.rowsOf rows) := by
  obtain ⟨offset, count, hParams, hOffset, hCount, hPage⟩ :=
    k.exists_rangeParams_rowsOf (α := α) h
  rw [Dialect.page?, hParams, ← hPage rows hRows]
  exact if_pos ⟨hOffset, hCount⟩

/-- The same for a list of windows. -/
theorem mapM_page?_eq_rowsOf (k : DialectKind) {rows : List α}
    (hRows : rows.length ≤ 9223372036854775807) {ws : List Window}
    (h : ∀ w ∈ ws, w.start ≤ w.stop) :
    ws.mapM (k.dialect.page? · rows) = some (ws.map (Window.rowsOf · rows)) := by
  induction ws with
  | nil => rfl
  | cons w rest ih =>
    have hRest := ih fun v hv => h v (List.mem_cons_of_mem _ hv)
    rw [List.mapM_cons, hRest, k.page?_eq_rowsOf (h w (List.mem_cons_self ..)) hRows]
    rfl

/--
**Pages tile a result.** What every database is told to skip and to take are two
integers that are not negative, and they leave exactly the rows of the window, of
any result that a database can count. So the pages of windows one after another
have together the rows from the first bound up to the last, each row once and in
its place.
-/
theorem pages_tile (k : DialectKind) {rows : List α}
    (hRows : rows.length ≤ 9223372036854775807) :
    (∀ w : Window, w.start ≤ w.stop →
      ∃ offset count : Int64, k.dialect.rangeParams w = (.int offset, .int count) ∧
        0 ≤ offset ∧ 0 ≤ count ∧
        (rows.drop offset.toInt.toNat).take count.toInt.toNat = w.rowsOf rows) ∧
    ∀ start bounds, (start :: bounds).IsChain (· ≤ ·) →
      ∃ pages, (Window.between start bounds).mapM (k.dialect.page? · rows) = some pages ∧
        pages.flatten = Window.rowsOf ⟨start, bounds.getLastD start⟩ rows := by
  refine ⟨fun w h => ?_, fun start bounds h => ?_⟩
  · obtain ⟨offset, count, hParams, hOffset, hCount, hPage⟩ :=
      k.exists_rangeParams_rowsOf (α := α) h
    exact ⟨offset, count, hParams, hOffset, hCount, hPage rows hRows⟩
  · refine ⟨_, k.mapM_page?_eq_rowsOf hRows fun w => Window.start_le_stop_of_mem_between h, ?_⟩
    rw [← List.flatMap_def, Window.flatMap_rowsOf_between h]

/-- The last of these windows begins behind every result, and both of its numbers
are cut off; so is the count of the window around them all. -/
theorem pages_tile_letters :
    ['a', 'b', 'c', 'd'].length ≤ 9223372036854775807 ∧
    (1 : UInt64) ≤ 18446744073709551615 ∧
    (∃ offset count : Int64,
      DialectKind.postgresql.dialect.rangeParams ⟨1, 18446744073709551615⟩ =
        (.int offset, .int count) ∧
      (['a', 'b', 'c', 'd'].drop offset.toInt.toNat).take count.toInt.toNat = ['b', 'c', 'd']) ∧
    [(1 : UInt64), 3, 3, 9223372036854775809, 18446744073709551615].IsChain (· ≤ ·) ∧
    ∃ pages, (Window.between 1 [3, 3, 9223372036854775809, 18446744073709551615]).mapM
        (DialectKind.postgresql.dialect.page? · ['a', 'b', 'c', 'd']) = some pages ∧
      pages.flatten = ['b', 'c', 'd'] := by
  have hRows : ['a', 'b', 'c', 'd'].length ≤ 9223372036854775807 := by decide
  have hWindow : (1 : UInt64) ≤ 18446744073709551615 := by decide
  have hBounds : [(1 : UInt64), 3, 3, 9223372036854775809, 18446744073709551615].IsChain
      (· ≤ ·) := by decide
  have hLetters : Window.rowsOf ⟨1, 18446744073709551615⟩ ['a', 'b', 'c', 'd'] =
      ['b', 'c', 'd'] := by decide
  obtain ⟨offset, count, hParams, -, -, hPage⟩ :=
    (pages_tile .postgresql hRows).1 ⟨1, 18446744073709551615⟩ hWindow
  obtain ⟨pages, hPages, hAll⟩ := (pages_tile .postgresql hRows).2 _ _ hBounds
  exact ⟨hRows, hWindow, ⟨offset, count, hParams, hPage.trans hLetters⟩, hBounds, pages, hPages,
    hAll.trans hLetters⟩

end DialectKind

end SqlPlan
