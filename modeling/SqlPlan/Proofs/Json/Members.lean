import Mathlib.Data.List.Nodup
import SqlPlan.Json.Merge
import SqlPlan.Json.Shape

/-!
# SqlPlan — members of objects by their names

Members of a text come in any order and may share a name. Those of a document ascend, so
that no name comes twice and an object is known by what stands under each name. Where
objects are merged, the members of the upper one are laid over the lower one in turn, each
over what stands under its name by then. With no name twice, what stands under a name
afterwards hangs on no other name:

* `fields?_of_nodup` — no field of a record is named twice where no name comes twice;
* `lookup_put` — what stands under a name once a member has been written;
* `Ascending.eq_of_lookup` — members in order are known by what stands under each name;
* `mergeOnto`, `lookup_mergeMembers` — what stands under a name once objects have been
  merged.
-/

namespace SqlPlan

namespace Json

-- ---------------------------------------------------------------------------
-- Members by their names
-- ---------------------------------------------------------------------------

/-- What stands under a name is the first member of that name. -/
theorem lookup_cons_eq (name first : String) (j : Json) (rest : List (String × Json)) :
    ((first, j) :: rest).lookup name = if name = first then some j else rest.lookup name := by
  rw [List.lookup_cons]
  by_cases h : name = first
  · rw [beq_iff_eq.mpr h, if_pos h]
  · rw [beq_eq_false_iff_ne.mpr h, if_neg h]

theorem lookup_eq_none_of_not_mem {members : List (String × Json)} {name : String}
    (h : name ∉ members.map Prod.fst) :
    members.lookup name = none := by
  rw [List.lookup_eq_none_iff]
  intro m hm
  have hNe : name ≠ m.1 := fun hName => h (hName ▸ List.mem_map_of_mem hm)
  simpa using hNe

/-- An object without a repeated name is a record of any fields. -/
theorem fields?_of_nodup {members : List (String × Json)}
    (h : (members.map Prod.fst).Nodup) (names : List String) :
    fields? names (.obj members) = some members := by
  have hOnce : ∀ name, atMostOnce members name = true := by
    intro name
    have hCount : (members.map Prod.fst).count name ≤ 1 := List.nodup_iff_count_le_one.mp h name
    have hLength : (members.filter fun m => m.1 = name).length =
        (members.map Prod.fst).count name := by
      rw [List.count_eq_countP, List.countP_map, List.countP_eq_length_filter]
      rfl
    simp only [atMostOnce, hLength, hCount, decide_true]
  rw [fields?, if_pos (List.all_eq_true.mpr fun name _ => hOnce name)]

/-- A write changes what stands under its own name and nothing else. -/
theorem lookup_put (name other : String) (value : Json) (members : List (String × Json)) :
    (put name value members).lookup other =
      if other = name then some value else members.lookup other := by
  induction members with
  | nil => rw [put, lookup_cons_eq]
  | cons m rest ih =>
    obtain ⟨first, old⟩ := m
    rw [put]
    split
    · rw [lookup_cons_eq]
    · split
      -- the name is there: its value is replaced
      · rename_i hSame
        rw [← hSame, lookup_cons_eq, lookup_cons_eq]
        split <;> rfl
      -- the name comes later, or not at all
      · rename_i hOther
        rw [lookup_cons_eq, lookup_cons_eq, ih]
        split
        · rename_i hFirst
          rw [if_neg fun hName => hOther (hName.symm.trans hFirst)]
        · rfl

theorem Ascending.nodup {members : List (String × Json)} (h : Ascending members) :
    (members.map Prod.fst).Nodup := by
  refine List.pairwise_map.mpr (List.Pairwise.imp (fun {a b} hLt hSame => ?_) h)
  exact String.lt_irrefl b.1 (hSame ▸ hLt)

/-- Only names after the first one come after it. -/
theorem Ascending.lookup_eq_none {first name : String} {j : Json} {rest : List (String × Json)}
    (h : Ascending ((first, j) :: rest)) (hName : ¬ first < name) : rest.lookup name = none := by
  refine lookup_eq_none_of_not_mem fun hMem => ?_
  obtain ⟨m, hm, rfl⟩ := List.mem_map.mp hMem
  exact hName ((List.pairwise_cons.mp h).1 m hm)

/-- Members in order are known by what stands under each name. -/
theorem Ascending.eq_of_lookup {ms ns : List (String × Json)} (hm : Ascending ms)
    (hn : Ascending ns) (h : ∀ name, ms.lookup name = ns.lookup name) : ms = ns := by
  induction ms generalizing ns with
  | nil =>
    cases ns with
    | nil => rfl
    | cons n ns =>
      have hFirst := h n.1
      rw [lookup_cons_eq, if_pos rfl] at hFirst
      simp at hFirst
  | cons m ms ih =>
    obtain ⟨a, j⟩ := m
    have hLeft := h a
    rw [lookup_cons_eq, if_pos rfl] at hLeft
    cases ns with
    | nil => simp at hLeft
    | cons n ns =>
      obtain ⟨b, k⟩ := n
      have hRight := h b
      rw [lookup_cons_eq b b, if_pos rfl] at hRight
      -- a first name that is smaller would stand on one side only
      have hName : a = b := by
        refine Decidable.byContradiction fun hNe => ?_
        by_cases hLt : a < b
        · rw [lookup_cons_eq, if_neg hNe, hn.lookup_eq_none (String.lt_asymm hLt)] at hLeft
          simp at hLeft
        · rw [lookup_cons_eq, if_neg (Ne.symm hNe), hm.lookup_eq_none hLt] at hRight
          simp at hRight
      subst hName
      rw [lookup_cons_eq, if_pos rfl, Option.some.injEq] at hLeft
      subst hLeft
      have hRest : ms = ns := by
        refine ih (List.pairwise_cons.mp hm).2 (List.pairwise_cons.mp hn).2 fun name => ?_
        by_cases hSame : name = a
        · rw [hSame, hm.lookup_eq_none (String.lt_irrefl a),
            hn.lookup_eq_none (String.lt_irrefl a)]
        · have hBoth := h name
          rw [lookup_cons_eq, lookup_cons_eq, if_neg hSame, if_neg hSame] at hBoth
          exact hBoth
      rw [hRest]

-- ---------------------------------------------------------------------------
-- Merged members
-- ---------------------------------------------------------------------------

/-- Nothing is left of a value that is no object. -/
theorem merge_of_ne_obj {lower : Json} (h : ∀ members, lower ≠ .obj members) (upper : Json) :
    merge lower upper = upper := by
  rw [merge]
  exact fun members _ hLower _ => h members hLower

/-- A member laid over what stands under its name, if anything does. -/
def mergeOnto : Option Json → Json → Json
  | some lower, upper => merge lower upper
  | none, upper => upper

/-- A merge writes the upper members one after the other. -/
theorem mergeMembers_cons (lower : List (String × Json)) (name : String) (j : Json)
    (rest : List (String × Json)) :
    mergeMembers lower ((name, j) :: rest) =
      mergeMembers (put name (mergeOnto (lower.lookup name) j) lower) rest := by
  rw [mergeMembers]
  cases lower.lookup name <;> rfl

/-- What stands under a name in merged objects is what stood there in the lower one
with what stands there in the upper one laid over it. -/
theorem lookup_mergeMembers {upper : List (String × Json)} (h : Ascending upper)
    (lower : List (String × Json)) (name : String) :
    (mergeMembers lower upper).lookup name =
      ((upper.lookup name).map (mergeOnto (lower.lookup name))).or (lower.lookup name) := by
  induction upper generalizing lower with
  | nil => rw [mergeMembers]; rfl
  | cons m rest ih =>
    obtain ⟨first, j⟩ := m
    rw [mergeMembers_cons, ih (List.pairwise_cons.mp h).2, lookup_put, lookup_cons_eq]
    by_cases hName : name = first
    · have hNone : rest.lookup name = none := h.lookup_eq_none (hName ▸ String.lt_irrefl first)
      rw [hNone, if_pos hName, if_pos hName, hName]
      rfl
    · rw [if_neg hName, if_neg hName]

/-- Nothing is changed by an object with no members below it. -/
theorem mergeMembers_nil {upper : List (String × Json)} (h : Ascending upper)
    (hSettled : MembersSettled upper) : mergeMembers [] upper = upper := by
  have hMerged : Ascending (mergeMembers [] upper) :=
    (settled_mergeMembers .nil trivial hSettled).1
  refine hMerged.eq_of_lookup h fun name => ?_
  rw [lookup_mergeMembers h]
  cases upper.lookup name <;> rfl

end Json

end SqlPlan
