import Mathlib.Data.List.Basic
import SqlPlan.Proofs.Compile.Reading
import SqlPlan.Proofs.Entity.Path

/-!
# SqlPlan — when instructions compile, and why they do not

Every instruction has a rule about itself and the instructions before it. The
rules, one initializer and an order without parameters are all that compiling
asks for:

* `Compilable` — what a list of instructions must satisfy;
* `refusal?` — the error that is reported if it does not: that of the first
  instruction to break its rule, then that of a missing initializer, then that
  of an order that binds parameters.

The order of a page is checked at the very end, on the parameters that have
been written there. They are those that instructions bind there
(`gather_values_of_page`), because the joins are written by initializers of
plain queries only, and such an initializer breaks its rule inside a page.
-/

namespace SqlPlan

-- ---------------------------------------------------------------------------
-- Initializers and pages
-- ---------------------------------------------------------------------------

namespace Instruction

/-- An instruction begins a query or has no kind to remember. -/
theorem initializer?_eq_none_iff {i : Instruction} :
    i.initializer? = none ↔ i.begins = false := by
  unfold initializer?
  split <;> simp_all

/-- Only a page has a window. -/
theorem window?_isSome_iff {i : Instruction} :
    i.window?.isSome = true ↔ ∃ w, i = pagedInitialQuery w := by
  cases i <;> simp [window?]

/-- A page has begun before instructions that follow one for pages. -/
theorem exists_page_iff {is : List Instruction} :
    (latest? window? is).isSome = true ↔ ∃ w, pagedInitialQuery w ∈ is := by
  rw [latest?_isSome_iff]
  constructor
  · rintro ⟨i, hi, hWindow⟩
    obtain ⟨w, rfl⟩ := window?_isSome_iff.mp hWindow
    exact ⟨w, hi⟩
  · rintro ⟨w, hw⟩
    exact ⟨_, hw, rfl⟩

/-- Only what begins a plain query writes more than it binds. -/
theorem values_eq_bound {t : Tree} {d : Dialect} {i : Instruction}
    (h : i.begins = true → ∃ w, i = pagedInitialQuery w) : i.values t d = i.bound := by
  cases i with
  | initialQuery | fromQuery => simp [begins, kind, Kind.isInitializer] at h
  | _ => rfl

end Instruction

/-- The rules leave room for one initializer at most. -/
theorem countP_begins_le_one_iff {is : List Instruction} :
    is.countP Instruction.begins ≤ 1 ↔
      ∀ s ∈ sites is, s.instruction.begins = true →
        latest? Instruction.initializer? s.before = none := by
  induction is using List.reverseRecOn with
  | nil => simp
  | append_singleton is i ih =>
    have hNone : latest? Instruction.initializer? is = none ↔
        is.countP Instruction.begins = 0 := by
      rw [latest?_eq_none_iff, List.countP_eq_zero]
      simp only [Instruction.initializer?_eq_none_iff, Bool.not_eq_true]
    rw [List.countP_append, List.countP_singleton, sites_concat, List.forall_mem_append, ← ih,
      List.forall_mem_singleton, hNone]
    -- the last instruction may begin a query only if none before it did
    split
    · rename_i hInit
      simp only [hInit, forall_const]
      omega
    · rename_i hInit
      simp [hInit]

/-- If at most one instruction begins a query, those that begin one are the
same. -/
theorem eq_of_begins {is : List Instruction}
    (h : is.countP Instruction.begins ≤ 1) {i j : Instruction} (hi : i ∈ is)
    (hj : j ∈ is) (hInit : i.begins = true) (hInit' : j.begins = true) :
    i = j := by
  have hi' : i ∈ is.filter Instruction.begins := List.mem_filter.mpr ⟨hi, hInit⟩
  have hj' : j ∈ is.filter Instruction.begins := List.mem_filter.mpr ⟨hj, hInit'⟩
  rw [List.countP_eq_length_filter] at h
  generalize is.filter Instruction.begins = found at h hi' hj'
  rcases found with _ | ⟨x, _ | ⟨y, rest⟩⟩
  · simp at hi'
  · rw [List.mem_singleton] at hi' hj'
    rw [hi', hj']
  · rw [List.length_cons, List.length_cons] at h
    omega

section Rules

variable {t : Tree} {d : Dialect} {is : List Instruction}

/-- Where no rule is broken, at most one instruction begins a query. -/
theorem countP_begins_le_one (h : firstFault? t is = none) :
    is.countP Instruction.begins ≤ 1 :=
  countP_begins_le_one_iff.mpr fun s hs =>
    (firstFault?_eq_none_iff.mp h s hs).initializer

/-- Where no rule is broken, a page has begun before anything but the main
accumulator is written to. -/
theorem exists_page_of_accumulator (h : firstFault? t is = none) {s : Site} (hs : s ∈ sites is)
    (hSwitch : s.accumulator ≠ .main) : ∃ w, .pagedInitialQuery w ∈ s.before := by
  have hSome : (latest? Instruction.switch? s.before).isSome = true := by
    rw [Site.accumulator, accumulatorAfter] at hSwitch
    cases hLatest : latest? Instruction.switch? s.before with
    | none => simp [hLatest] at hSwitch
    | some a => rfl
  -- some instruction before the site has moved there, and it obeyed its own rule
  obtain ⟨i, hi, hView⟩ := (latest?_isSome_iff _).mp hSome
  obtain ⟨earlier, hEarlier, rfl, hSubset⟩ := exists_site_of_mem_before hs hi
  have hPage := (firstFault?_eq_none_iff.mp h earlier hEarlier).inPage
    (by rw [Instruction.needsPage, hView]; rfl)
  obtain ⟨w, hw⟩ := Instruction.exists_page_iff.mp hPage
  exact ⟨w, hSubset hw⟩

/-- Where no rule is broken and there is no page, everything is written to the
main accumulator. -/
theorem accumulator_of_no_page (h : firstFault? t is = none)
    (hWindow : latest? Instruction.window? is = none) {s : Site} (hs : s ∈ sites is) :
    s.accumulator = .main := by
  by_contra hAcc
  obtain ⟨w, hw⟩ := exists_page_of_accumulator h hs hAcc
  obtain ⟨after, hEq⟩ := mem_sites.mp hs
  have hMem : .pagedInitialQuery w ∈ is := by
    rw [hEq]
    exact List.mem_append_left _ hw
  have hSome := Instruction.exists_page_iff.mpr ⟨w, hMem⟩
  rw [hWindow] at hSome
  simp at hSome

/-- In a page, an instruction writes just the values that it binds. -/
theorem values_eq_bound_of_page (h : firstFault? t is = none) {w : Window}
    (hw : .pagedInitialQuery w ∈ is) {i : Instruction} (hi : i ∈ is) :
    i.values t d = i.bound :=
  Instruction.values_eq_bound fun hInit =>
    ⟨w, eq_of_begins (countP_begins_le_one h) hi hw hInit rfl⟩

/-- Where no rule is broken, an accumulator that needs a page holds what
instructions bind there. -/
theorem gather_values_of_page (h : firstFault? t is = none) {a : Accumulator}
    (ha : a ≠ .main ∨ ∃ w, .pagedInitialQuery w ∈ is) :
    gather (Instruction.values t d) a is = boundIn a is := by
  rw [boundIn, gather, gather]
  refine List.flatMap_congr fun s hs => ?_
  by_cases hAcc : s.accumulator = a
  · obtain ⟨after, hEq⟩ := mem_sites.mp hs
    have hi : s.instruction ∈ is := by
      rw [hEq]
      simp
    -- only a page has accumulators besides the main one
    obtain ⟨w, hw⟩ : ∃ w, .pagedInitialQuery w ∈ is := by
      rcases ha with hMain | hPage
      · obtain ⟨w, hw⟩ := exists_page_of_accumulator h hs (hAcc ▸ hMain)
        exact ⟨w, by rw [hEq]; exact List.mem_append_left _ hw⟩
      · exact hPage
    rw [if_pos hAcc, if_pos hAcc, values_eq_bound_of_page h hw hi]
  · rw [if_neg hAcc, if_neg hAcc]

end Rules

-- ---------------------------------------------------------------------------
-- Refusals
-- ---------------------------------------------------------------------------

/-- Why instructions are not compiled, if they are not. -/
def refusal? (t : Tree) (is : List Instruction) : Option Error :=
  match firstFault? t is with
  | some e => some e
  | none =>
    if latest? Instruction.initializer? is = none then
      some (.noInitializer t.root.entity.name)
    else if boundIn .order is ≠ [] then
      some (.boundOrder t.root.entity.name (boundIn .order is).length)
    else none

/-- What a list of instructions must satisfy to be compiled. -/
structure Compilable (t : Tree) (is : List Instruction) : Prop where
  /-- Exactly one instruction begins the query. -/
  initializer : is.countP Instruction.begins = 1
  /-- No page ends before it begins. -/
  window      : ∀ w, .pagedInitialQuery w ∈ is → w.start ≤ w.stop
  /-- Instructions for pages come after the one that begins the page. -/
  inPage      : ∀ before i after, is = before ++ i :: after → i.needsPage = true →
    ∃ w, .pagedInitialQuery w ∈ before
  /-- Every path leads to a joined entity. -/
  path        : ∀ matchers, .path matchers ∈ is →
    ∃ n, t.resolve matchers = .ok n ∧ n.joined = true
  /-- Every fragment binds what its placeholders ask for. -/
  fragment    : ∀ q, .sql q ∈ is → q.placeholders = q.params.length
  /-- Nothing is bound in the order of a page. -/
  order       : ∀ before i after, is = before ++ i :: after → i.bound ≠ [] →
    latest? Instruction.switch? before ≠ some .order

section Refusal

variable {d : Definition} {separator : String} {t : Tree} {is : List Instruction}

/-- A query has begun exactly if an instruction begins one. -/
theorem exists_initializer_iff :
    latest? Instruction.initializer? is ≠ none ↔
      1 ≤ is.countP Instruction.begins := by
  rw [ne_eq, latest?_eq_none_iff, Nat.one_le_iff_ne_zero, ne_eq, List.countP_eq_zero]
  simp only [Instruction.initializer?_eq_none_iff, Bool.not_eq_true]

/-- The order is written to only after a switch to it. -/
theorem accumulatorAfter_eq_order_iff :
    accumulatorAfter is = .order ↔ latest? Instruction.switch? is = some .order := by
  unfold accumulatorAfter
  cases latest? Instruction.switch? is <;> simp

/-- Nothing is bound in the order exactly if no instruction binds a value
behind a switch to it. -/
theorem boundIn_order_eq_nil_iff :
    boundIn .order is = [] ↔ ∀ before i after, is = before ++ i :: after → i.bound ≠ [] →
      latest? Instruction.switch? before ≠ some .order := by
  rw [boundIn, gather, List.flatMap_eq_nil_iff]
  constructor
  · intro h before i after hEq hBound hSwitch
    have hSite := h ⟨before, i⟩ (mem_sites.mpr ⟨after, hEq⟩)
    rw [Site.accumulator, if_pos (accumulatorAfter_eq_order_iff.mpr hSwitch)] at hSite
    exact hBound hSite
  · intro h s hs
    obtain ⟨after, hEq⟩ := mem_sites.mp hs
    split
    · rename_i hAcc
      by_contra hBound
      exact h _ _ _ hEq hBound (accumulatorAfter_eq_order_iff.mp hAcc)
    · rfl

/-- Without a page nothing is bound in its order. -/
theorem boundIn_order_of_no_page (h : firstFault? t is = none)
    (hWindow : latest? Instruction.window? is = none) : boundIn .order is = [] := by
  rw [boundIn, gather, List.flatMap_eq_nil_iff]
  intro s hs
  rw [accumulator_of_no_page h hWindow hs]
  rfl

/-- The rules of all instructions, gathered by what they are about. -/
theorem firstFault?_eq_none_iff_rules (ht : Tree.ofDefinition d separator = .ok t) :
    firstFault? t is = none ↔
      is.countP Instruction.begins ≤ 1 ∧
      (∀ w, .pagedInitialQuery w ∈ is → w.start ≤ w.stop) ∧
      (∀ before i after, is = before ++ i :: after → i.needsPage = true →
        ∃ w, .pagedInitialQuery w ∈ before) ∧
      (∀ matchers, .path matchers ∈ is → ∃ n, t.resolve matchers = .ok n ∧ n.joined = true) ∧
      ∀ q, .sql q ∈ is → q.placeholders = q.params.length := by
  have hSite : ∀ i ∈ is, ∃ s ∈ sites is, s.instruction = i := by
    intro i hi
    obtain ⟨before, after, hEq⟩ := List.append_of_mem hi
    exact ⟨⟨before, i⟩, mem_sites.mpr ⟨after, hEq⟩, rfl⟩
  rw [firstFault?_eq_none_iff]
  constructor
  -- from the rule of each site to what is asked of all instructions
  · intro h
    refine ⟨countP_begins_le_one_iff.mpr fun s hs => (h s hs).initializer, ?_, ?_, ?_, ?_⟩
    · intro w hw
      obtain ⟨s, hs, hEq⟩ := hSite _ hw
      exact (h s hs).window w hEq
    · intro before i after hEq hPage
      exact Instruction.exists_page_iff.mp
        ((h ⟨before, i⟩ (mem_sites.mpr ⟨after, hEq⟩)).inPage hPage)
    · intro matchers hPath
      obtain ⟨s, hs, hEq⟩ := hSite _ hPath
      obtain ⟨n, hn⟩ := (h s hs).path matchers hEq
      exact ⟨n, hn, Tree.joined_of_resolve ht hn⟩
    · intro q hq
      obtain ⟨s, hs, hEq⟩ := hSite _ hq
      exact (h s hs).fragment q hEq
  -- and back to the rule of each site
  · rintro ⟨hInit, hWindow, hPage, hPath, hFragment⟩ s hs
    obtain ⟨after, hEq⟩ := mem_sites.mp hs
    have hMem : s.instruction ∈ is := by
      rw [hEq]
      simp
    constructor
    · exact countP_begins_le_one_iff.mp hInit s hs
    · intro w hw
      exact hWindow w (hw ▸ hMem)
    · intro hNeeds
      exact Instruction.exists_page_iff.mpr (hPage _ _ _ hEq hNeeds)
    · intro matchers hm
      obtain ⟨n, hn, -⟩ := hPath matchers (hm ▸ hMem)
      exact ⟨n, hn⟩
    · intro q hq
      exact hFragment q (hq ▸ hMem)

/-- Nothing is refused exactly if everything is satisfied. -/
theorem refusal?_eq_none_iff (ht : Tree.ofDefinition d separator = .ok t) :
    refusal? t is = none ↔ Compilable t is := by
  have hRefusal : refusal? t is = none ↔ firstFault? t is = none ∧
      latest? Instruction.initializer? is ≠ none ∧ boundIn .order is = [] := by
    unfold refusal?
    cases firstFault? t is with
    | some e => simp
    | none =>
      by_cases hInit : latest? Instruction.initializer? is = none
      · simp [hInit]
      · by_cases hOrder : boundIn .order is = [] <;> simp [hInit, hOrder]
  rw [hRefusal, firstFault?_eq_none_iff_rules ht, exists_initializer_iff, boundIn_order_eq_nil_iff]
  -- at most one instruction begins a query by the rules, at least one as a query has begun
  constructor
  · rintro ⟨⟨hMost, hWindow, hPage, hPath, hFragment⟩, hLeast, hOrder⟩
    exact ⟨by omega, hWindow, hPage, hPath, hFragment, hOrder⟩
  · intro h
    have hOne := h.initializer
    exact ⟨⟨by omega, h.window, h.inPage, h.path, h.fragment⟩, by omega, h.order⟩

theorem Instruction.isUsage_of_fault? {begun : Option Kind} {paged : Bool} {i : Instruction}
    {e : Error} (h : i.fault? t begun paged = some e) : e.isUsage = true := by
  cases i with
  | initialQuery | fromQuery =>
    obtain ⟨previous, -, rfl⟩ := Option.map_eq_some_iff.mp h
    rfl
  | pagedInitialQuery w =>
    rcases Option.or_eq_some_iff.mp h with hBegun | ⟨-, hStop⟩
    · obtain ⟨previous, -, rfl⟩ := Option.map_eq_some_iff.mp hBegun
      rfl
    · split at hStop
      · rw [← Option.some.inj hStop]
        rfl
      · simp at hStop
  -- the error of a path is handed on
  | path matchers =>
    cases hResolve : t.resolve matchers with
    | ok n => simp [fault?, hResolve] at h
    | error e' =>
      simp only [fault?, hResolve, Option.some.injEq] at h
      exact Tree.isUsage_of_resolve (h ▸ hResolve)
  | pagedMainWhere | pagedMainOrderBy | pagedHaving | pagedSecondaryWhere | pagedUseGroupBy
  | sql =>
    rw [fault?] at h
    split at h
    · simp at h
    · rw [← Option.some.inj h]
      rfl
  | _ => simp [fault?] at h

/-- Whoever gives the instructions is to blame for a refusal. -/
theorem isUsage_of_refusal? {e : Error} (h : refusal? t is = some e) : e.isUsage = true := by
  unfold refusal? at h
  split at h
  · rename_i e' hFault
    obtain ⟨s, -, hSite⟩ := List.exists_of_findSome?_eq_some hFault
    exact Instruction.isUsage_of_fault? (Option.some.inj h ▸ hSite)
  · split at h
    · rw [← Option.some.inj h]
      rfl
    · split at h
      · rw [← Option.some.inj h]
        rfl
      · simp at h

end Refusal

-- ---------------------------------------------------------------------------
-- Results
-- ---------------------------------------------------------------------------

/-- What a walk that is not refused has made of its instructions. -/
def State.result (t : Tree) (d : Dialect) (s : State) : Compiled :=
  match s.window with
  | none => .plain s.written.main.trimmed
  | some w =>
    let queries := (s.criteria t).assemble d w s.written.main.params s.written.having.params
      s.written.secondary.params
    .paged queries.1 queries.2 w

/-- What is refused at the end of a walk, and what is made of the rest. -/
theorem State.finish_eq (t : Tree) (d : Dialect) (s : State) :
    s.finish t d =
      if s.initializer = none then .error (.noInitializer t.root.entity.name)
      else if s.window.isSome = true ∧ s.written.order.params.length ≠ 0 then
        .error (.boundOrder t.root.entity.name s.written.order.params.length)
      else .ok (s.result t d) := by
  unfold finish result
  cases s.initializer with
  | none => rfl
  | some kind =>
    cases s.window with
    | none => rfl
    | some w => by_cases hBound : s.written.order.params.length = 0 <;> simp [hBound]

section Result

variable {t : Tree} {d : Dialect} {is : List Instruction}

/-- A result, if it passes the check of placeholders that is asked for. -/
def Compiled.checked (strict : Bool) (c : Compiled) : Except Error Compiled :=
  if strict then c.checkAligned.map fun _ => c else .ok c

/-- Compiling is the walk and then the check. -/
theorem compile_eq_checked (t : Tree) (d : Dialect) (strict : Bool) (is : List Instruction) :
    compile t d strict is = (compileLoose t d is).bind (Compiled.checked strict) := by
  unfold compile
  cases compileLoose t d is with
  | error e => rfl
  | ok c =>
    cases strict with
    | false => rfl
    | true =>
      show (c.checkAligned.bind fun _ => .ok c) = c.checkAligned.map fun _ => c
      cases c.checkAligned <;> rfl

theorem Compiled.checked_eq_ok_iff {strict : Bool} {c c' : Compiled} :
    c.checked strict = .ok c' ↔ c = c' ∧ (strict = true → c.checkAligned = .ok ()) := by
  unfold checked
  cases strict with
  | false => simp
  | true => cases hCheck : c.checkAligned <;> simp [Except.map]

/-- The check of placeholders may refuse a result but changes none. -/
theorem compile_eq_ok_iff {strict : Bool} {c : Compiled} :
    compile t d strict is = .ok c ↔
      compileLoose t d is = .ok c ∧ (strict = true → c.checkAligned = .ok ()) := by
  rw [compile_eq_checked]
  cases hLoose : compileLoose t d is with
  | error e => simp [Except.bind]
  | ok c' =>
    show Compiled.checked strict c' = .ok c ↔ _
    rw [Compiled.checked_eq_ok_iff, Except.ok.injEq]
    constructor
    · rintro ⟨rfl, hCheck⟩
      exact ⟨rfl, hCheck⟩
    · rintro ⟨rfl, hCheck⟩
      exact ⟨rfl, hCheck⟩

/-- What compiles strictly compiles to the same query without the check. -/
theorem compile_of_strict {strict : Bool} {c : Compiled}
    (h : compile t d strict is = .ok c) : compile t d false is = .ok c :=
  compile_eq_ok_iff.mpr ⟨(compile_eq_ok_iff.mp h).1, by simp⟩

/-- The end of a walk is reached if no rule is broken. -/
theorem compileLoose_eq (t : Tree) (d : Dialect) (is : List Instruction) :
    compileLoose t d is =
      match firstFault? t is with
      | some e => .error e
      | none => (reading t d is).finish t d := by
  rw [compileLoose, State.run_start]
  cases firstFault? t is <;> rfl

/-- Without the check of placeholders, a list compiles if no instruction breaks
its rule and the state it leads to can be finished. -/
theorem compileLoose_eq_ok_iff {c : Compiled} :
    compileLoose t d is = .ok c ↔
      firstFault? t is = none ∧ (reading t d is).finish t d = .ok c := by
  rw [compileLoose_eq]
  cases firstFault? t is with
  | some e => simp
  | none => exact ⟨fun h => ⟨rfl, h⟩, And.right⟩

/-- A walk that comes to its end makes its result. -/
theorem State.eq_result_of_finish {s : State} {c : Compiled} (h : s.finish t d = .ok c) :
    c = s.result t d := by
  rw [State.finish_eq] at h
  split at h
  · simp at h
  · split at h
    · simp at h
    · exact (Except.ok.inj h).symm

/-- Compiling either refuses the instructions or makes its result of the
state that is read from them. -/
theorem compile_eq (t : Tree) (d : Dialect) (is : List Instruction) :
    compile t d false is =
      match refusal? t is with
      | some e => .error e
      | none => .ok ((reading t d is).result t d) := by
  have hCompile : compile t d false is = compileLoose t d is := by
    rw [compile]
    cases compileLoose t d is <;> rfl
  rw [hCompile, compileLoose_eq, refusal?]
  cases hFault : firstFault? t is with
  | some e => rfl
  | none =>
    -- what the order binds is what instructions have bound there
    have hOrder := params_reading t d is .order
    rw [gather_values_of_page hFault (Or.inl (by decide)), Accumulators.get] at hOrder
    rw [State.finish_eq, reading_initializer, reading_window, hOrder]
    by_cases hInit : latest? Instruction.initializer? is = none
    · rw [if_pos hInit, if_pos hInit]
    · rw [if_neg hInit, if_neg hInit]
      by_cases hBound : boundIn .order is = []
      · simp [hBound]
      · have hWindow : (latest? Instruction.window? is).isSome = true := by
          by_contra hNone
          exact hBound (boundIn_order_of_no_page hFault (by simpa using hNone))
        simp [hBound, hWindow]

/-- What compiles breaks no rule, and its result is made of what is read. -/
theorem result_of_compile {definition : Definition} {separator : String}
    (ht : Tree.ofDefinition definition separator = .ok t) {strict : Bool} {c : Compiled}
    (h : compile t d strict is = .ok c) :
    firstFault? t is = none ∧ Compilable t is ∧ c = (reading t d is).result t d := by
  have hLoose := compile_of_strict h
  rw [compile_eq] at hLoose
  cases hRefusal : refusal? t is with
  | some e => simp [hRefusal] at hLoose
  | none =>
    refine ⟨?_, (refusal?_eq_none_iff ht).mp hRefusal, ?_⟩
    · cases hFault : firstFault? t is with
      | none => rfl
      | some e => simp [refusal?, hFault] at hRefusal
    · simp only [hRefusal, Except.ok.injEq] at hLoose
      exact hLoose.symm

/-- A result is a page exactly if a page has begun. -/
theorem State.exists_paged_iff (s : State) :
    (∃ page count w, s.result t d = .paged page count w) ↔ s.window.isSome = true := by
  unfold State.result
  cases s.window <;> simp

/--
**When instructions compile.** They do exactly if they are `Compilable`; the
result is a page exactly if a page has begun; and otherwise the error is the
one that `refusal?` names, always a usage error.
-/
theorem compile_outcome {definition : Definition} {separator : String}
    (ht : Tree.ofDefinition definition separator = .ok t) (d : Dialect)
    (is : List Instruction) :
    ((∃ c, compile t d false is = .ok c) ↔ Compilable t is) ∧
    (∀ c, compile t d false is = .ok c →
      ((∃ page count w, c = .paged page count w) ↔ ∃ w, .pagedInitialQuery w ∈ is)) ∧
    ∀ e, compile t d false is = .error e → refusal? t is = some e ∧ e.isUsage = true := by
  rw [← refusal?_eq_none_iff ht, compile_eq]
  cases hRefusal : refusal? t is with
  | some e =>
    refine ⟨by simp, by simp, fun e' h => ?_⟩
    rw [← Except.error.inj h]
    exact ⟨rfl, isUsage_of_refusal? hRefusal⟩
  | none =>
    refine ⟨by simp, fun c h => ?_, by simp⟩
    rw [← Except.ok.inj h, State.exists_paged_iff, reading_window, Instruction.exists_page_iff]

/-- A page of orders with conditions on lines and on groups compiles. -/
theorem compile_outcome_orders :
    Tree.ofDefinition (.orders .null) "_" = .ok (.orders .null) ∧
      ∃ c, compile (.orders .null) .sqlite false
        [.pagedInitialQuery ⟨10, 25⟩, .pagedHaving, .param (.int 1), .pagedMainWhere ["o.total"],
          .path [.entity "Line"], .column "qty" .caseSensitive, .arrayParam [.int 2, .int 3]] =
        .ok c :=
  have ht := Tree.ofDefinition_orders .null
  ⟨ht, (compile_outcome ht .sqlite _).1.mpr ((refusal?_eq_none_iff ht).mp rfl)⟩

end Result

end SqlPlan
