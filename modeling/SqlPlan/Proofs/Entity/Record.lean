import SqlPlan.Entity.Json
import SqlPlan.Proofs.Value

/-!
# SqlPlan — definitions are read back

A definition is read from its record, also where fields that hold their default are left
out. A field without a default is always there; of a field with one, either its value is
there or its value was the default:

* `Join.recovers_toJson` — a join;
* `Entity.ofMembers?_shortened` — what is written of an entity itself;
* `Definition.recovers_toJson` — a definition with all the definitions below it.
-/

namespace SqlPlan

open Json (Recovers MembersShortened defaults)

-- ---------------------------------------------------------------------------
-- Fields
-- ---------------------------------------------------------------------------

namespace Json

/-- An array is the default of a field only where it is empty. -/
theorem eq_nil_of_default {name : String} {items : List Json}
    (h : (name, .arr items) ∈ defaults) : items = [] := by
  simp only [defaults, List.mem_cons, Prod.mk.injEq, List.not_mem_nil, or_false, reduceCtorEq,
    and_false, false_or, Json.arr.injEq] at h
  rcases h with ⟨-, h⟩ | ⟨-, h⟩ | ⟨-, h⟩ | ⟨-, h⟩ | ⟨-, h⟩ <;> exact h

theorem recovers_ofStrings (strings : List String) :
    Recovers strings? (.ofStrings strings) strings :=
  recovers_list? strings fun _ _ => recovers_of_isLeaf trivial rfl

/-- The one default that is a list of strings is the empty list. -/
theorem nil_of_default_strings {name : String} {strings : List String}
    (h : (name, .ofStrings strings) ∈ defaults) : [] = strings :=
  (List.map_eq_nil_iff.mp (eq_nil_of_default h)).symm

theorem recovers_ofStringOrNull (s : Option String) :
    Recovers (nullable? string?) (.ofStringOrNull s) s := by
  cases s <;> exact recovers_of_isLeaf trivial rfl

theorem legible_ofStrings (strings : List String) : (Json.ofStrings strings).Legible :=
  allLegible_map fun _ _ => trivial

theorem legible_ofStringOrNull (s : Option String) : (Json.ofStringOrNull s).Legible := by
  cases s <;> trivial

end Json

/-- The one default that is a list of values is the empty list. -/
theorem Value.nil_of_default {name : String} {vs : List Value}
    (h : (name, .arr (Value.toJsons vs)) ∈ defaults) : [] = vs := by
  cases vs with
  | nil => rfl
  | cons v rest => cases Json.eq_nil_of_default h

theorem Fetch.recovers_name (f : Fetch) : Recovers Fetch.ofJson? (.str f.name) f := by
  cases f <;> exact Json.recovers_of_isLeaf trivial rfl

theorem JoinKind.recovers_name (k : JoinKind) : Recovers JoinKind.ofJson? (.str k.name) k := by
  cases k <;> exact Json.recovers_of_isLeaf trivial rfl

-- ---------------------------------------------------------------------------
-- Joins
-- ---------------------------------------------------------------------------

namespace Join

/-- A join is found in its record. -/
theorem recovers_toJson (j : Join) : Recovers ofJson? j.toJson j := by
  intro k h
  rw [toJson] at h
  obtain ⟨shorter, rfl, hMembers⟩ := h.exists_obj
  have hNodup : (["kind", "parent_column", "child_column", "condition", "params"]).Nodup := by
    decide
  have hKind : Json.defaulted? shorter "kind" .left JoinKind.ofJson? = some j.kind := by
    refine hMembers.defaulted? hNodup (by simp) j.kind.recovers_name fun h => ?_
    cases hKind : j.kind <;> simp [hKind, JoinKind.name, defaults] at h ⊢
  have hParent : Json.required? shorter "parent_column" Json.string? = some j.parentColumn :=
    hMembers.required? hNodup (by simp) (by decide) (Json.recovers_string? _)
  have hChild : Json.required? shorter "child_column" Json.string? = some j.childColumn :=
    hMembers.required? hNodup (by simp) (by decide) (Json.recovers_string? _)
  have hCondition : Json.defaulted? shorter "condition" none (Json.nullable? Json.string?) =
      some j.condition := by
    refine hMembers.defaulted? hNodup (by simp) (Json.recovers_ofStringOrNull _) fun h => ?_
    cases hCondition : j.condition <;>
      simp [hCondition, Json.ofStringOrNull, defaults] at h ⊢
  have hParams : Json.defaulted? shorter "params" [] (Value.items? .text) = some j.params :=
    hMembers.defaulted? hNodup (by simp) (Value.recovers_toJsons j.params) Value.nil_of_default
  simp [ofJson?, Json.record?, hMembers.fields? hNodup, hKind, hParent, hChild, hCondition,
    hParams]

/-- A join is written as a document that reads back. -/
theorem legible_toJson (j : Join) : j.toJson.Legible :=
  ⟨trivial, trivial, trivial, Json.legible_ofStringOrNull _, Value.allLegible_toJsons _, trivial⟩

end Join

-- ---------------------------------------------------------------------------
-- Entities
-- ---------------------------------------------------------------------------

namespace Entity

/-- An entity is found among the members of its record. -/
theorem ofMembers?_shortened (e : Entity) {more shorter : List (String × Json)}
    (h : MembersShortened (e.members ++ more) shorter)
    (hNodup : ((e.members ++ more).map Prod.fst).Nodup) : ofMembers? shorter = some e := by
  have hName : Json.required? shorter "entity" Json.string? = some e.name :=
    h.required? hNodup (by simp [members]) (by decide) (Json.recovers_string? _)
  have hTable : Json.required? shorter "table" Json.string? = some e.table :=
    h.required? hNodup (by simp [members]) (by decide) (Json.recovers_string? _)
  have hAlias : Json.required? shorter "alias" Json.string? = some e.tableAlias :=
    h.required? hNodup (by simp [members]) (by decide) (Json.recovers_string? _)
  have hKey : Json.defaulted? shorter "primary_key" "id" Json.string? = some e.primaryKey := by
    refine h.defaulted? hNodup (by simp [members]) (Json.recovers_string? _) fun hDefault => ?_
    simpa [defaults, eq_comm] using hDefault
  have hColumns : Json.defaulted? shorter "columns" [] Json.strings? = some e.columns :=
    h.defaulted? hNodup (by simp [members]) (Json.recovers_ofStrings _) Json.nil_of_default_strings
  have hMarkers : Json.defaulted? shorter "markers" [] Json.strings? = some e.markers :=
    h.defaulted? hNodup (by simp [members]) (Json.recovers_ofStrings _) Json.nil_of_default_strings
  have hSeparator : Json.defaulted? shorter "column_alias_separator" none
      (Json.nullable? Json.string?) = some e.separator := by
    refine h.defaulted? hNodup (by simp [members]) (Json.recovers_ofStringOrNull _)
      fun hDefault => ?_
    cases hSeparator : e.separator <;>
      simp [hSeparator, Json.ofStringOrNull, defaults] at hDefault ⊢
  have hFetch : Json.defaulted? shorter "fetch" .eager Fetch.ofJson? = some e.fetch := by
    refine h.defaulted? hNodup (by simp [members]) e.fetch.recovers_name fun hDefault => ?_
    cases hFetch : e.fetch <;> simp [hFetch, Fetch.name, defaults] at hDefault ⊢
  have hJoin : Json.defaulted? shorter "join" none (Json.nullable? Join.ofJson?) =
      some e.join := by
    cases hJoin : e.join with
    | none =>
      exact h.defaulted? hNodup (by simp [members, hJoin])
        (Json.recovers_of_isLeaf (j := .null) trivial rfl) fun _ => rfl
    | some join =>
      refine h.defaulted? hNodup (j := join.toJson) (by simp [members, hJoin])
        (join.recovers_toJson.nullable? rfl) fun hDefault => ?_
      simp [Join.toJson, defaults] at hDefault
  simp [ofMembers?, hName, hTable, hAlias, hKey, hColumns, hMarkers, hSeparator, hFetch, hJoin]

theorem legible_members (e : Entity) : Json.MembersLegible e.members := by
  refine ⟨trivial, trivial, trivial, trivial, Json.legible_ofStrings _, Json.legible_ofStrings _,
    Json.legible_ofStringOrNull _, trivial, ?_, trivial⟩
  cases e.join with
  | none => trivial
  | some join => exact join.legible_toJson

end Entity

-- ---------------------------------------------------------------------------
-- Definitions
-- ---------------------------------------------------------------------------

namespace Definition

/-- The children are a field like the others. -/
theorem childrenIn?_eq (members : List (String × Json)) :
    childrenIn? members = Json.defaulted? members "children" [] childrenOf? := by
  induction members with
  | nil => simp [childrenIn?, Json.defaulted?]
  | cons m rest ih =>
    obtain ⟨name, j⟩ := m
    by_cases hName : name = "children"
    · simp [childrenIn?, Json.defaulted?, hName]
    · have hNe : ("children" == name) = false := by
        simpa using Ne.symm hName
      rw [childrenIn?, if_neg hName, ih]
      simp [Json.defaulted?, List.lookup_cons, hNe]

theorem toJsons_eq_map (ds : List Definition) : toJsons ds = ds.map toJson := by
  induction ds with
  | nil => rfl
  | cons d rest ih => rw [toJsons, ih, List.map_cons]

/-- Children are read as any list is, one definition after the other. -/
theorem childrenOf?_eq_list? (j : Json) : childrenOf? j = j.list? ofJson? := by
  have hAll : ∀ js, ofJsons? js = js.mapM ofJson? := by
    intro js
    induction js with
    | nil => rfl
    | cons k rest ih =>
      rw [ofJsons?, ih, List.mapM_cons]
      rfl
  cases j with
  | arr js => exact hAll js
  | _ => rfl

/-- The one default that is a list of definitions is the empty list. -/
theorem nil_of_default {name : String} {ds : List Definition}
    (h : (name, .arr (toJsons ds)) ∈ defaults) : [] = ds := by
  cases ds with
  | nil => rfl
  | cons d rest => cases Json.eq_nil_of_default h

/-- No two fields of a record share a name. -/
theorem nodup_names (e : Entity) (children : Json) :
    ((e.members ++ [("children", children)]).map Prod.fst).Nodup := by
  show fields.Nodup
  decide

/-- A definition is found in its record, with all the definitions below it. -/
theorem recovers_toJson (d : Definition) : Recovers ofJson? d.toJson d := by
  match d with
  | ⟨entity, children⟩ =>
    intro k h
    rw [toJson] at h
    obtain ⟨shorter, rfl, hMembers⟩ := h.exists_obj
    have hNodup := nodup_names entity (.arr (toJsons children))
    have hEntity := entity.ofMembers?_shortened hMembers hNodup
    have hBelow : Recovers childrenOf? (.arr (toJsons children)) children := by
      intro j hShort
      rw [toJsons_eq_map] at hShort
      rw [childrenOf?_eq_list?]
      exact Json.recovers_list? children (fun c hc => recovers_toJson c) j hShort
    have hChildren : childrenIn? shorter = some children := by
      rw [childrenIn?_eq]
      exact hMembers.defaulted? hNodup (by simp) hBelow nil_of_default
    simp [ofJson?, hMembers.fields? hNodup, hEntity, hChildren]

/-- A definition, with all that stands below it, is written as a document that
reads back. -/
theorem legible_toJson (d : Definition) : d.toJson.Legible := by
  match d with
  | ⟨entity, children⟩ =>
    rw [toJson]
    refine Json.membersLegible_iff.mpr fun m hm => ?_
    rcases List.mem_append.mp hm with hEntity | hChildren
    · exact Json.membersLegible_iff.mp entity.legible_members m hEntity
    · obtain rfl := List.mem_singleton.mp hChildren
      show Json.AllLegible (toJsons children)
      rw [toJsons_eq_map]
      exact Json.allLegible_map fun c hc => legible_toJson c

end Definition

end SqlPlan
