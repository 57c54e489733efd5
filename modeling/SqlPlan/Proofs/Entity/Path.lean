import SqlPlan.Entity.Path
import SqlPlan.Proofs.Entity.Layout

/-!
# SqlPlan — where paths lead

A path that resolves leads to a node that occurs in the query, and one that
does not is a mistake of whoever wrote it:

* `Tree.resolve_cons` — a path is a walk, unless it is the root for short;
* `Tree.step_eq_ok_iff`, `walk_cons_eq_ok_iff` — where matchers lead;
* `Tree.joined_of_resolve` — the node reached is joined;
* `Tree.mem_nodes_of_resolve` — it is a node of the tree;
* `Tree.isUsage_of_resolve` — every failure is a usage error.
-/

namespace SqlPlan.Tree

variable {t : Tree}

-- ---------------------------------------------------------------------------
-- Where a path ends
-- ---------------------------------------------------------------------------

/-- A path that is not the root for short is walked to its end. -/
theorem resolve_cons {matcher : Matcher} (hRoot : matcher ≠ .root) (rest : List Matcher) :
    t.resolve (matcher :: rest) = (t.walk t.root (matcher :: rest)).bind fun n =>
      if n.joined then .ok n else .error (.unjoined n.entity.name) := by
  cases matcher with
  | root => exact absurd rfl hRoot
  | entity | marker | tableAlias => rfl

/-- A path that does not begin at the root resolves to where its walk ends, if
that node is joined. -/
theorem resolve_cons_eq_ok_iff {matcher : Matcher} (hRoot : matcher ≠ .root)
    {rest : List Matcher} {n : Node} :
    t.resolve (matcher :: rest) = .ok n ↔
      t.walk t.root (matcher :: rest) = .ok n ∧ n.joined = true := by
  rw [resolve_cons hRoot]
  cases t.walk t.root (matcher :: rest) with
  | error e => simp [Except.bind]
  | ok m =>
    simp only [Except.bind, Except.ok.injEq]
    constructor
    · intro h
      split at h
      · rename_i hJoined
        obtain rfl := Except.ok.inj h
        exact ⟨rfl, hJoined⟩
      · cases h
    · rintro ⟨rfl, hJoined⟩
      rw [if_pos hJoined]

/-- A path is the root for short, or a walk to a joined node. -/
theorem resolve_eq_ok {matchers : List Matcher} {n : Node} (h : t.resolve matchers = .ok n) :
    n = t.root ∨ (t.walk t.root matchers = .ok n ∧ n.joined = true) := by
  cases matchers with
  | nil => exact Or.inl (Except.ok.inj h).symm
  | cons matcher rest =>
    by_cases hRoot : matcher = .root
    · subst hRoot
      exact Or.inl (Except.ok.inj h).symm
    · exact Or.inr ((resolve_cons_eq_ok_iff hRoot).mp h)

/-- A path never leads outside the query. -/
theorem joined_of_resolve {d : Definition} {separator : String}
    (h : ofDefinition d separator = .ok t) {matchers : List Matcher} {n : Node}
    (hResolve : t.resolve matchers = .ok n) : n.joined = true := by
  rcases resolve_eq_ok hResolve with rfl | ⟨-, hJoined⟩
  · exact joined_root h
  · exact hJoined

/-- One matcher leads to the first child that it selects. -/
theorem step_eq_ok_iff {n m : Node} {matcher : Matcher} :
    t.step n matcher = .ok m ↔
      matcher ≠ .root ∧ (t.childrenOf n).find? matcher.selects = some m := by
  unfold step
  split
  · rename_i hRoot
    simp [hRoot]
  · rename_i hRoot
    cases (t.childrenOf n).find? matcher.selects <;> simp [hRoot]

theorem walk_cons_of_error {n : Node} {matcher : Matcher} {rest : List Matcher} {e : Error}
    (h : t.step n matcher = .error e) : t.walk n (matcher :: rest) = .error e := by
  rw [walk, List.foldlM_cons, h]
  rfl

theorem walk_cons_of_ok {n next : Node} {matcher : Matcher} {rest : List Matcher}
    (h : t.step n matcher = .ok next) : t.walk n (matcher :: rest) = t.walk next rest := by
  rw [walk, List.foldlM_cons, h]
  rfl

/-- A walk succeeds if its first step and the rest do. -/
theorem walk_cons_eq_ok_iff {n m : Node} {matcher : Matcher} {rest : List Matcher} :
    t.walk n (matcher :: rest) = .ok m ↔
      ∃ next, t.step n matcher = .ok next ∧ t.walk next rest = .ok m := by
  cases hStep : t.step n matcher with
  | error e => simp [walk_cons_of_error hStep]
  | ok next => simp [walk_cons_of_ok hStep]

/-- A matcher added at the end is the last step of a walk. -/
theorem walk_concat {n : Node} (matchers : List Matcher) (m : Matcher) :
    t.walk n (matchers ++ [m]) = (t.walk n matchers).bind fun p => t.step p m := by
  rw [walk, List.foldlM_append]
  simp only [List.foldlM_cons, List.foldlM_nil, bind_pure]
  rfl

theorem mem_nodes_of_step {n m : Node} {matcher : Matcher} (h : t.step n matcher = .ok m) :
    m ∈ t.nodes := by
  obtain ⟨-, hFind⟩ := step_eq_ok_iff.mp h
  obtain ⟨id, -, hNode⟩ := List.mem_filterMap.mp (List.mem_of_find?_eq_some hFind)
  exact List.mem_of_getElem? hNode

theorem mem_nodes_of_walk {n m : Node} (hn : n ∈ t.nodes) {matchers : List Matcher}
    (h : t.walk n matchers = .ok m) : m ∈ t.nodes := by
  induction matchers generalizing n with
  | nil => exact Except.ok.inj h ▸ hn
  | cons matcher rest ih =>
    obtain ⟨next, hStep, hWalk⟩ := walk_cons_eq_ok_iff.mp h
    exact ih (mem_nodes_of_step hStep) hWalk

/-- A path resolves to a node of the tree. -/
theorem mem_nodes_of_resolve {matchers : List Matcher} {n : Node}
    (h : t.resolve matchers = .ok n) : n ∈ t.nodes := by
  have hRoot : t.root ∈ t.nodes := List.mem_cons_self ..
  rcases resolve_eq_ok h with rfl | ⟨hWalk, -⟩
  · exact hRoot
  · exact mem_nodes_of_walk hRoot hWalk

-- ---------------------------------------------------------------------------
-- Why a path leads nowhere
-- ---------------------------------------------------------------------------

theorem isUsage_of_step {n : Node} {matcher : Matcher} {e : Error}
    (h : t.step n matcher = .error e) : e.isUsage = true := by
  unfold step at h
  split at h
  · rw [← Except.error.inj h]
    rfl
  · split at h
    · simp at h
    · rw [← Except.error.inj h]
      rfl

/-- A walk fails with an error of usage, that of the step that fails. -/
theorem isUsage_of_walk {n : Node} {matchers : List Matcher} {e : Error}
    (h : t.walk n matchers = .error e) : e.isUsage = true := by
  induction matchers generalizing n with
  | nil => simp [walk, pure, Except.pure] at h
  | cons matcher rest ih =>
    cases hStep : t.step n matcher with
    | error e' =>
      rw [walk_cons_of_error hStep] at h
      rw [← Except.error.inj h]
      exact isUsage_of_step hStep
    | ok next =>
      rw [walk_cons_of_ok hStep] at h
      exact ih h

/-- A path that does not resolve is a mistake in the path. -/
theorem isUsage_of_resolve {matchers : List Matcher} {e : Error}
    (h : t.resolve matchers = .error e) : e.isUsage = true := by
  cases matchers with
  | nil => cases h
  | cons matcher rest =>
    by_cases hRoot : matcher = .root
    · subst hRoot
      cases h
    · rw [resolve_cons hRoot] at h
      cases hWalk : t.walk t.root (matcher :: rest) with
      | error e' =>
        rw [hWalk] at h
        obtain rfl := Except.error.inj h
        exact isUsage_of_walk hWalk
      | ok n =>
        rw [hWalk, Except.bind] at h
        split at h
        · cases h
        · obtain rfl := Except.error.inj h
          rfl

end SqlPlan.Tree
