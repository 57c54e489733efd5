import Mathlib.Data.List.Nodup
import SqlPlan.Proofs.Entity.Placement

/-!
# SqlPlan — which definitions are accepted

A definition is refused for the first of its entities, in pre-order, that has no
alias, repeats one or has no join. What is accepted has none of these faults
anywhere:

* `Definition.IsSound` — what is asked of a definition;
* `Tree.exists_ofDefinition_iff` — exactly these definitions have a tree;
* `Tree.nodup_tableAlias`, `exists_link` — what it means for the nodes.
-/

namespace SqlPlan

/-- Every entity has an alias of its own and, below the root, a join. -/
structure Definition.IsSound (d : Definition) : Prop where
  named    : ∀ e ∈ d.preorder, e.tableAlias ≠ ""
  distinct : (d.preorder.map Entity.tableAlias).Nodup
  joins    : ∀ e ∈ Definition.preorders d.children, e.join.isSome = true

/-- Below the root nothing is wrong exactly if aliases are there, new, and all
different, and every entity has its join. -/
theorem Entity.faultBelow?_eq_none_iff {seen : List String} {es : List Entity} :
    Entity.faultBelow? seen es = none ↔
      (∀ e ∈ es, e.tableAlias ≠ "" ∧ e.tableAlias ∉ seen ∧ e.join.isSome = true) ∧
        (es.map Entity.tableAlias).Nodup := by
  induction es generalizing seen with
  | nil => simp [faultBelow?]
  | cons e rest ih =>
    rw [faultBelow?, List.forall_mem_cons, List.map_cons, List.nodup_cons]
    by_cases hEmpty : e.tableAlias = ""
    · simp [hEmpty]
    · by_cases hSeen : e.tableAlias ∈ seen
      · simp [hEmpty, hSeen]
      · cases hJoin : e.join with
        | none => simp [hEmpty, hSeen]
        | some join =>
          simp only [hEmpty, hSeen, if_false, Option.isNone_some, Bool.false_eq_true, ih,
            List.mem_cons, not_or, Option.isSome_some, not_false_eq_true, ne_eq, and_true,
            true_and, List.mem_map, not_exists, not_and]
          -- an alias is new to the rest if no entity of the rest has it
          constructor
          · rintro ⟨hRest, hNodup⟩
            exact ⟨fun x hx => ⟨(hRest x hx).1, (hRest x hx).2.1.2, (hRest x hx).2.2⟩,
              fun x hx => (hRest x hx).2.1.1, hNodup⟩
          · rintro ⟨hRest, hNew, hNodup⟩
            exact ⟨fun x hx => ⟨(hRest x hx).1, ⟨hNew x hx, (hRest x hx).2.1⟩,
              (hRest x hx).2.2⟩, hNodup⟩

/-- No fault is found exactly if there is none. -/
theorem Definition.fault?_eq_none_iff {d : Definition} : d.fault? = none ↔ d.IsSound := by
  obtain ⟨entity, children⟩ := d
  have hPreorder : (Definition.mk entity children).preorder = entity :: preorders children := by
    rw [preorder]
  unfold fault?
  constructor
  · intro h
    split at h
    · simp at h
    · rename_i hEmpty
      obtain ⟨hBelow, hNodup⟩ := Entity.faultBelow?_eq_none_iff.mp h
      refine ⟨?_, ?_, fun e he => (hBelow e he).2.2⟩
      · rw [hPreorder, List.forall_mem_cons]
        exact ⟨hEmpty, fun e he => (hBelow e he).1⟩
      -- the root's alias has been seen when the entities below are checked
      · rw [hPreorder, List.map_cons, List.nodup_cons]
        refine ⟨fun hMem => ?_, hNodup⟩
        obtain ⟨e, he, hAlias⟩ := List.mem_map.mp hMem
        exact (hBelow e he).2.1 (by simp [hAlias])
  · rintro ⟨hNamed, hDistinct, hJoins⟩
    rw [hPreorder, List.forall_mem_cons] at hNamed
    rw [hPreorder, List.map_cons, List.nodup_cons] at hDistinct
    rw [if_neg hNamed.1, Entity.faultBelow?_eq_none_iff]
    refine ⟨fun e he => ⟨hNamed.2 e he, fun hMem => hDistinct.1 ?_, hJoins e he⟩, hDistinct.2⟩
    exact List.mem_map.mpr ⟨e, he, List.mem_singleton.mp hMem⟩

-- ---------------------------------------------------------------------------
-- Entities of a layout
-- ---------------------------------------------------------------------------

namespace Node

mutual

theorem map_entity_layout (separator : String) :
    ∀ (d : Definition) (parent : Option (Nat × Bool)) (id : Nat),
      (layout separator parent id d).map Node.entity = d.preorder
  | ⟨entity, children⟩, parent, id => by
    rw [layout_eq, List.map_cons, map_entity_layouts separator children, Definition.preorder]
    rfl

theorem map_entity_layouts (separator : String) :
    ∀ (ds : List Definition) (parent : Nat × Bool) (id : Nat),
      (layouts separator parent id ds).map Node.entity = Definition.preorders ds
  | [], _, _ => rfl
  | d :: rest, parent, id => by
    rw [layouts, List.map_append, map_entity_layout separator d,
      map_entity_layouts separator rest, Definition.preorders]

end

end Node

namespace Tree

variable {d : Definition} {separator : String} {t : Tree}

theorem isSound_of_ofDefinition (h : ofDefinition d separator = .ok t) : d.IsSound := by
  rw [← Definition.fault?_eq_none_iff]
  unfold ofDefinition at h
  cases hFault : d.fault? with
  | none => rfl
  | some e => simp [hFault] at h

/-- A definition has a tree exactly if it is sound. -/
theorem exists_ofDefinition_iff :
    (∃ t, ofDefinition d separator = .ok t) ↔ d.IsSound := by
  refine ⟨fun ⟨t, h⟩ => isSound_of_ofDefinition h, fun h => ?_⟩
  rw [ofDefinition, Definition.fault?_eq_none_iff.mpr h, Node.layout_eq]
  exact ⟨_, rfl⟩

/-- No two nodes have the same alias. -/
theorem nodup_tableAlias (h : ofDefinition d separator = .ok t) :
    (t.nodes.map Node.tableAlias).Nodup := by
  have hDistinct := (isSound_of_ofDefinition h).distinct
  rw [← Node.map_entity_layout separator d none 0, ← nodes_eq_layout h, List.map_map] at hDistinct
  exact hDistinct

theorem nodup_tableAlias_joinedNodes (h : ofDefinition d separator = .ok t) :
    (t.joinedNodes.map Node.tableAlias).Nodup :=
  (nodup_tableAlias h).sublist (List.filter_sublist.map Node.tableAlias)

/-- Every node below the root is linked to its parent. -/
theorem exists_link (h : ofDefinition d separator = .ok t) {n : Node} (hn : n ∈ t.below) :
    ∃ l, n.link = some l := by
  obtain ⟨q, e, hStands⟩ := exists_standsFor_of_mem_below h hn
  have hEntity : n.entity ∈ Definition.preorders d.children := by
    rw [← Node.map_entity_layouts separator d.children (0, true) 1, ← below_eq h]
    exact List.mem_map_of_mem hn
  have hJoin := (isSound_of_ofDefinition h).joins n.entity hEntity
  rw [hStands.entity] at hJoin
  obtain ⟨join, hSome⟩ := Option.isSome_iff_exists.mp hJoin
  rw [hStands.node]
  exact ⟨⟨q.1, join⟩, by simp [Node.ofDefinition, hSome]⟩

end Tree

end SqlPlan
