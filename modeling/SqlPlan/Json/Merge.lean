import SqlPlan.Json.Basic

/-!
# SqlPlan — merging documents

`Document.merge` lays one document over another. Where both are objects their
members are merged name by name; anywhere else the upper document counts alone.
-/

namespace SqlPlan

namespace Json

mutual

/-- The second value laid over the first. -/
def merge : Json → Json → Json
  | .obj lower, .obj upper => .obj (mergeMembers lower upper)
  | _, upper => upper

/-- Members laid one after another over those of an object. -/
def mergeMembers (lower : List (String × Json)) : List (String × Json) → List (String × Json)
  | [] => lower
  | (name, j) :: rest =>
    match lower.lookup name with
    | some old => mergeMembers (put name (merge old j) lower) rest
    | none => mergeMembers (put name j lower) rest

end

theorem settled_of_lookup {members : List (String × Json)} {name : String} {j : Json}
    (hm : MembersSettled members) (h : members.lookup name = some j) : Settled j := by
  induction members with
  | nil => simp at h
  | cons m rest ih =>
    obtain ⟨other, k⟩ := m
    rw [List.lookup_cons] at h
    split at h
    · simp only [Option.some.injEq] at h
      exact h ▸ hm.1
    · exact ih hm.2 h

mutual

/-- Merging settled values gives a settled value. -/
theorem settled_merge {lower upper : Json} (hu : Settled lower) (ho : Settled upper) :
    Settled (merge lower upper) := by
  match lower, upper with
  | .obj us, .obj os =>
    simp only [Settled] at hu ho
    simpa only [merge, Settled] using settled_mergeMembers hu.1 hu.2 ho.2
  | .obj _, .null | .obj _, .bool _ | .obj _, .int _ | .obj _, .float _ | .obj _, .str _
  | .obj _, .arr _ | .obj _, .void => simpa only [merge] using ho
  | .null, _ | .bool _, _ | .int _, _ | .float _, _ | .str _, _ | .arr _, _ | .void, _ =>
    simpa only [merge] using ho

theorem settled_mergeMembers {lower upper : List (String × Json)} (hAsc : Ascending lower)
    (hu : MembersSettled lower) (ho : MembersSettled upper) :
    Ascending (mergeMembers lower upper) ∧ MembersSettled (mergeMembers lower upper) := by
  match upper with
  | [] => simpa only [mergeMembers] using ⟨hAsc, hu⟩
  | (name, j) :: rest =>
    simp only [MembersSettled] at ho
    rw [mergeMembers]
    split
    · rename_i old hOld
      exact settled_mergeMembers (ascending_put hAsc)
        (membersSettled_put (settled_merge (settled_of_lookup hu hOld) ho.1) hu) ho.2
    · exact settled_mergeMembers (ascending_put hAsc) (membersSettled_put ho.1 hu) ho.2

end

end Json

namespace Document

/-- The second document laid over the first. -/
def merge (lower upper : Document) : Document :=
  ⟨lower.json.merge upper.json, Json.settled_merge lower.settled upper.settled⟩

end Document

end SqlPlan
