import SqlPlan.Plan
import SqlPlan.Proofs.Entity.Layout
import SqlPlan.Proofs.Entity.Record

/-!
# SqlPlan — plans survive their text

A plan is written as one JSON value and read from its text. Writing and reading agree on
every kind of instruction, matcher and value and on every field, and a field that holds its
default may be missing from the text:

* `Matcher.recovers_toJson`, `Instruction.recovers_toJson`, `Plan.recovers_toJson` — what is
  read from a value that is shortened at will;
* `Plan.legible_toJson` — the text of that value can be read;
* `Plan.parse_compact_of_shortened` — so the text of a plan, with defaults or without, is
  read as that plan.
-/

namespace SqlPlan

open Json (Recovers Shortened defaults)

-- ---------------------------------------------------------------------------
-- Matchers
-- ---------------------------------------------------------------------------

namespace Matcher

/-- A matcher with a name stays as it is. -/
theorem eq_named {how name : String} {k : Json} (h : Shortened (named how name) k) :
    k = named how name := by
  obtain ⟨q, rfl, hName⟩ := h.exists_tagged (by simp [defaults]) (by simp [defaults])
  obtain rfl := hName.eq_of_isLeaf trivial
  rfl

/-- A matcher reads back. -/
theorem recovers_toJson (m : Matcher) : Recovers (ofJson? .text) m.toJson m := by
  intro k h
  cases m with
  | root =>
    rw [h.eq_of_tag (by simp [defaults]), ofJson?, Json.tagged?_tag .text ways (by decide)]
    rfl
  | entity name =>
    rw [eq_named h, named, ofJson?, Json.tagged?_payload .text ways (by decide)]
    rfl
  | marker name =>
    rw [eq_named h, named, ofJson?, Json.tagged?_payload .text ways (by decide)]
    rfl
  | tableAlias name =>
    rw [eq_named h, named, ofJson?, Json.tagged?_payload .text ways (by decide)]
    rfl

theorem legible_toJson (m : Matcher) : m.toJson.Legible := by
  cases m <;> simp [toJson, named, Json.Legible, Json.MembersLegible]

end Matcher

-- ---------------------------------------------------------------------------
-- Instructions
-- ---------------------------------------------------------------------------

/-- The comparison of a column reads back. -/
theorem Comparison.recovers_toJson (c : Comparison) : Recovers ofJson? c.toJson c := by
  cases c <;> exact Json.recovers_of_isLeaf trivial rfl

theorem Comparison.legible_toJson (c : Comparison) : c.toJson.Legible := by
  cases c <;> trivial

/-- The one default that is a comparison is that of the column as it is. -/
theorem Comparison.asIs_of_default {name : String} {c : Comparison}
    (h : (name, c.toJson) ∈ defaults) : asIs = c := by
  cases c <;> simp [toJson, defaults] at h ⊢

/-- The name of a kind is not the default of a join, whose field has the same name. -/
theorem Kind.name_ne_left (k : Kind) : k.name ≠ "left" := by
  cases k <;> decide

namespace Instruction

/-- The kind of an instruction is never left out. -/
theorem kind_not_mem_defaults (i : Instruction) : ("kind", Json.str i.kind.name) ∉ defaults := by
  simpa [defaults] using i.kind.name_ne_left

/-- An instruction without a payload is found by its name. -/
theorem recovers_of_unit {i : Instruction} (hPayload : i.payload? = none)
    (hName : unit? i.kind.name = some i) : Recovers ofJson? i.toJson i := by
  intro k h
  rw [toJson, hPayload] at h
  rw [h.eq_of_tag i.kind_not_mem_defaults, ofJson?, Json.tagged?_tag .text [] (by decide)]
  simp [hName, Json.isUnit]

/-- An instruction with a payload is found if it is found in the payload. -/
theorem recovers_of_payload {i : Instruction} {p : Json} (hPayload : i.payload? = some p)
    (hName : unit? i.kind.name = none) (hRead : Recovers (ofPayload? .text i.kind.name) p i) :
    Recovers ofJson? i.toJson i := by
  intro k h
  rw [toJson, hPayload] at h
  obtain ⟨q, rfl, hShort⟩ := h.exists_tagged i.kind_not_mem_defaults (by simp [defaults])
  rw [ofJson?, Json.tagged?_payload .text [] (by decide)]
  simp [hName, hRead q hShort]

/-- Columns may be left out where there are none. -/
theorem recovers_columns? (columns : List String) :
    Recovers columns? (.obj [("additional_columns", .ofStrings columns)]) columns := by
  intro k h
  obtain ⟨shorter, rfl, hMembers⟩ := h.exists_obj
  have hColumns : Json.defaulted? shorter "additional_columns" [] Json.strings? = some columns :=
    hMembers.defaulted? (by simp) (by simp) (Json.recovers_ofStrings columns)
      Json.nil_of_default_strings
  simp [columns?, hMembers.fields? (by simp), hColumns]

theorem recovers_window (w : Window) :
    Recovers (ofPayload? .text "PAGED_INITIAL_QUERY")
      (.obj [("begin", .int w.start.toNat), ("end", .int w.stop.toNat)])
      (pagedInitialQuery w) := by
  intro k h
  obtain ⟨shorter, rfl, hMembers⟩ := h.exists_obj
  have hNodup : (["begin", "end"]).Nodup := by decide
  have hStart : Json.required? shorter "begin" Json.uint64? = some w.start :=
    hMembers.required? hNodup (j := .int w.start.toNat) (by simp) (by decide)
      (Json.recovers_of_isLeaf trivial (Json.uint64?_toNat _))
  have hStop : Json.required? shorter "end" Json.uint64? = some w.stop :=
    hMembers.required? hNodup (j := .int w.stop.toNat) (by simp) (by decide)
      (Json.recovers_of_isLeaf trivial (Json.uint64?_toNat _))
  simp [ofPayload?, hMembers.fields? hNodup, hStart, hStop]

theorem recovers_column (name : String) (c : Comparison) :
    Recovers (ofPayload? .text "COLUMN")
      (.obj [("name", .str name), ("case_sensitive", c.toJson)]) (column name c) := by
  intro k h
  obtain ⟨shorter, rfl, hMembers⟩ := h.exists_obj
  have hNodup : (["name", "case_sensitive"]).Nodup := by decide
  have hName : Json.required? shorter "name" Json.string? = some name :=
    hMembers.required? hNodup (by simp) (by decide) (Json.recovers_string? _)
  have hCase : Json.defaulted? shorter "case_sensitive" .asIs Comparison.ofJson? = some c :=
    hMembers.defaulted? hNodup (by simp) c.recovers_toJson Comparison.asIs_of_default
  simp [ofPayload?, hMembers.fields? hNodup, hName, hCase]

theorem recovers_idColumn (c : Comparison) :
    Recovers (ofPayload? .text "ID_COLUMN") (.obj [("case_sensitive", c.toJson)])
      (idColumn c) := by
  intro k h
  obtain ⟨shorter, rfl, hMembers⟩ := h.exists_obj
  have hCase : Json.defaulted? shorter "case_sensitive" .asIs Comparison.ofJson? = some c :=
    hMembers.defaulted? (by simp) (by simp) c.recovers_toJson Comparison.asIs_of_default
  simp [ofPayload?, hMembers.fields? (by simp), hCase]

theorem recovers_columnAlias (name : String) :
    Recovers (ofPayload? .text "COLUMN_ALIAS") (.obj [("name", .str name)])
      (columnAlias name) := by
  intro k h
  obtain ⟨shorter, rfl, hMembers⟩ := h.exists_obj
  have hName : Json.required? shorter "name" Json.string? = some name :=
    hMembers.required? (by simp) (by simp) (by decide) (Json.recovers_string? _)
  simp [ofPayload?, hMembers.fields? (by simp), hName]

/-- A fragment reads back with its parameters, and without any. -/
theorem recovers_sql (fragment : Sql) :
    Recovers (ofPayload? .text "SQL")
      (.obj [("sql", .str fragment.text), ("params", .arr (Value.toJsons fragment.params))])
      (sql fragment) := by
  intro k h
  obtain ⟨shorter, rfl, hMembers⟩ := h.exists_obj
  have hNodup : (["sql", "params"]).Nodup := by decide
  have hText : Json.required? shorter "sql" Json.string? = some fragment.text :=
    hMembers.required? hNodup (by simp) (by decide) (Json.recovers_string? _)
  have hParams : Json.defaulted? shorter "params" [] (Value.items? .text) = some fragment.params :=
    hMembers.defaulted? hNodup (by simp) (Value.recovers_toJsons _) Value.nil_of_default
  simp [ofPayload?, hMembers.fields? hNodup, hText, hParams]

/-- Every instruction is found in its tagged object, however that is shortened. -/
theorem recovers_toJson (i : Instruction) : Recovers ofJson? i.toJson i := by
  cases i with
  | initialQuery => exact recovers_of_unit rfl rfl
  | fromQuery => exact recovers_of_unit rfl rfl
  | pagedMainOrderBy => exact recovers_of_unit rfl rfl
  | pagedSecondaryWhere => exact recovers_of_unit rfl rfl
  | pagedHaving => exact recovers_of_unit rfl rfl
  | pathRoot => exact recovers_of_unit rfl rfl
  | idAlias => exact recovers_of_unit rfl rfl
  | table => exact recovers_of_unit rfl rfl
  | pagedInitialQuery w => exact recovers_of_payload rfl rfl (recovers_window w)
  | pagedMainWhere columns =>
    refine recovers_of_payload rfl rfl fun q h => ?_
    simp [ofPayload?, kind, Kind.name, recovers_columns? columns q h]
  | pagedUseGroupBy columns =>
    refine recovers_of_payload rfl rfl fun q h => ?_
    simp [ofPayload?, kind, Kind.name, recovers_columns? columns q h]
  | path matchers =>
    refine recovers_of_payload rfl rfl fun q h => ?_
    have hMatchers := Json.recovers_list? matchers (fun m _ => m.recovers_toJson) q h
    simp [ofPayload?, kind, Kind.name, hMatchers]
  | separator s => exact recovers_of_payload rfl rfl (Json.recovers_of_isLeaf trivial rfl)
  | text s => exact recovers_of_payload rfl rfl (Json.recovers_of_isLeaf trivial rfl)
  | stringParam s => exact recovers_of_payload rfl rfl (Json.recovers_of_isLeaf trivial rfl)
  | idColumn c => exact recovers_of_payload rfl rfl (recovers_idColumn c)
  | column name c => exact recovers_of_payload rfl rfl (recovers_column name c)
  | columnAlias name => exact recovers_of_payload rfl rfl (recovers_columnAlias name)
  | param v =>
    refine recovers_of_payload rfl rfl fun q h => ?_
    simp [ofPayload?, kind, Kind.name, v.recovers_toJson q h]
  | arrayParam items =>
    refine recovers_of_payload rfl rfl fun q h => ?_
    simp [ofPayload?, kind, Kind.name, Value.recovers_toJsons items q h]
  | sql fragment => exact recovers_of_payload rfl rfl (recovers_sql fragment)

/-- What an instruction carries is written as a document that reads back. -/
theorem legible_payload {i : Instruction} {j : Json} (h : i.payload? = some j) : j.Legible := by
  cases i with
  | initialQuery | fromQuery | pagedMainOrderBy | pagedSecondaryWhere | pagedHaving | pathRoot
  | idAlias | table => simp [payload?] at h
  | separator s | text s | stringParam s =>
    obtain rfl : Json.str s = j := by simpa [payload?] using h
    trivial
  | pagedInitialQuery w =>
    obtain rfl := Option.some.inj h
    -- a bound of a window fits the integers of a document
    have hStart := w.start.toNat_lt
    have hStop := w.stop.toNat_lt
    exact ⟨⟨by omega, by omega⟩, ⟨by omega, by omega⟩, trivial⟩
  | pagedMainWhere columns | pagedUseGroupBy columns =>
    obtain rfl := Option.some.inj h
    exact ⟨Json.legible_ofStrings columns, trivial⟩
  | path matchers =>
    obtain rfl := Option.some.inj h
    exact Json.allLegible_map fun m _ => m.legible_toJson
  | idColumn c =>
    obtain rfl := Option.some.inj h
    exact ⟨c.legible_toJson, trivial⟩
  | column name c =>
    obtain rfl := Option.some.inj h
    exact ⟨trivial, c.legible_toJson, trivial⟩
  | columnAlias name =>
    obtain rfl := Option.some.inj h
    exact ⟨trivial, trivial⟩
  | param v =>
    obtain rfl := Option.some.inj h
    exact v.legible_toJson
  | arrayParam items =>
    obtain rfl := Option.some.inj h
    exact Value.allLegible_toJsons items
  | sql fragment =>
    obtain rfl := Option.some.inj h
    exact ⟨trivial, Value.allLegible_toJsons fragment.params, trivial⟩

theorem legible_toJson (i : Instruction) : i.toJson.Legible := by
  rw [toJson]
  split
  · rename_i j hPayload
    exact ⟨trivial, legible_payload hPayload, trivial⟩
  · exact ⟨trivial, trivial⟩

end Instruction

-- ---------------------------------------------------------------------------
-- Plans
-- ---------------------------------------------------------------------------

namespace Plan

/-- A plan is found in its record. -/
theorem recovers_toJson (p : Plan) : Recovers ofJson? p.toJson p := by
  intro k h
  rw [toJson] at h
  obtain ⟨shorter, rfl, hMembers⟩ := h.exists_obj
  have hNodup : (["tree", "instructions"]).Nodup := by decide
  have hTree : Json.required? shorter "tree" Definition.ofJson? = some p.definition :=
    hMembers.required? hNodup (by simp) (by decide) p.definition.recovers_toJson
  have hInstructions : Json.required? shorter "instructions" (Json.list? Instruction.ofJson?) =
      some p.instructions :=
    hMembers.required? hNodup (by simp) (by decide)
      (Json.recovers_list? p.instructions fun i _ => i.recovers_toJson)
  simp [ofJson?, Json.record?, hMembers.fields? hNodup, hTree, hInstructions]

/-- A plan is written as a document that reads back. -/
theorem legible_toJson (p : Plan) : p.toJson.Legible :=
  ⟨p.definition.legible_toJson, Json.allLegible_map fun i _ => i.legible_toJson, trivial⟩

/-- **Plans survive their text.** A plan whose doubles are read back from their own texts,
nested no deeper than a text may be, is read back from the text of its JSON value, and
from the text that is left when members are taken out that hold the default of their
field. -/
theorem parse_compact_of_shortened (p : Plan)
    (hFloats : ∀ x ∈ p.toJson.floats, Json.ReadsBack x)
    (hDepth : p.toJson.depth ≤ Json.depthLimit) :
    Plan.parse p.toJson.compact = .ok p ∧
      ∀ j, Shortened p.toJson j → Plan.parse j.compact = .ok p := by
  have hAny : ∀ j, Shortened p.toJson j → Plan.parse j.compact = .ok p := by
    intro j hShort
    -- a shorter text meets the same two conditions
    have hEasy := hShort.noHarder
    have hText : Json.parse? j.compact = some j := by
      refine Json.parse?_compact (hEasy.legible p.legible_toJson) (fun x hx => ?_) ?_
      · exact hFloats x (hEasy.floats hx)
      · exact Nat.le_trans hEasy.depth hDepth
    have hPlan : ofJson? j = some p := p.recovers_toJson j hShort
    simp [parse, hText, hPlan]
  exact ⟨hAny _ (.same _), hAny⟩

/-- Orders with their lines of a kind that holds a double and a document. -/
def halves : Plan :=
  ⟨.orders (.list [.float 0.5, .json (.obj (.ofList [("params", .arr [])]))]),
    [.initialQuery, .column "total" .asIs]⟩

/-- The same plan as one would write it by hand. The member of the document is no field. -/
def halvesByHand : Json :=
  .obj [("tree", .obj [("entity", .str "Order"), ("table", .str "orders"), ("alias", .str "o"),
      ("columns", .ofStrings ["total"]),
      ("children", .arr [.obj [("entity", .str "Line"), ("table", .str "lines"),
        ("alias", .str "l"),
        ("join", .obj [("parent_column", .str "id"), ("child_column", .str "order_id"),
          ("condition", .str "l.kind = ?"),
          ("params", .arr [Value.tagged "List" (.arr [Value.tagged "Float" (.float 0.5),
            Value.tagged "Json" (.obj [("params", .arr [])])])])])]])]),
    ("instructions", .arr [.obj [("kind", .str "INITIAL_QUERY")],
      .obj [("kind", .str "COLUMN"), ("value", .obj [("name", .str "total")])]])]

/-- What a hand would write is a shortening of what is printed. -/
theorem shortened_halvesByHand : Shortened halves.toJson halvesByHand := by
  have hRecord : ∀ m members, m.1 ≠ "type" → ¬ Json.HoldsDocument (m :: members) := by
    rintro _ _ hName ⟨d, hDocument⟩
    exact hName (congrArg Prod.fst (List.cons.inj hDocument).1)
  have hKey : ("primary_key", Json.str "id") ∈ defaults := by simp [defaults]
  have hColumns : ("columns", Json.arr []) ∈ defaults := by simp [defaults]
  have hMarkers : ("markers", Json.arr []) ∈ defaults := by simp [defaults]
  have hSeparator : ("column_alias_separator", Json.null) ∈ defaults := by simp [defaults]
  have hFetch : ("fetch", Json.str "eager") ∈ defaults := by simp [defaults]
  have hNoJoin : ("join", Json.null) ∈ defaults := by simp [defaults]
  have hChildren : ("children", Json.arr []) ∈ defaults := by simp [defaults]
  have hKind : ("kind", Json.str "left") ∈ defaults := by simp [defaults]
  have hCase : ("case_sensitive", Json.null) ∈ defaults := by simp [defaults]
  refine .obj (hRecord _ _ (by decide)) (.keep ?tree (.keep (.arr (.cons (.same _) ?columns)) .nil))
  case columns =>
    refine .cons (.obj (hRecord _ _ (by decide)) (.keep (.same _) (.keep ?_ .nil))) .nil
    exact .obj (hRecord _ _ (by decide)) (.keep (.same _) (.leaveOut hCase .nil))
  case tree =>
    refine .obj (hRecord _ _ (by decide)) (.keep (.same _) (.keep (.same _) (.keep (.same _)
      (.leaveOut hKey (.keep (.same _) (.leaveOut hMarkers (.leaveOut hSeparator
        (.leaveOut hFetch (.leaveOut hNoJoin (.keep (.arr (.cons ?line .nil)) .nil))))))))))
    refine .obj (hRecord _ _ (by decide)) (.keep (.same _) (.keep (.same _) (.keep (.same _)
      (.leaveOut hKey (.leaveOut hColumns (.leaveOut hMarkers (.leaveOut hSeparator
        (.leaveOut hFetch (.keep ?join (.leaveOut hChildren .nil))))))))))
    exact .obj (hRecord _ _ (by decide)) (.leaveOut hKind (.refl _))

theorem readsBack_half : Json.ReadsBack 0.5 := by
  have hWritten : Json.floatStyle.write 0.5 = "0.5" := by decide +kernel
  have hDouble : Decimal.divideByPower 5.0 1 = 0.5 := by
    rw [Decimal.divideByPower, if_pos (by decide)]
    decide
  have hFound : (Scaled.ofParts ['0'] ['5'] 0).toFloat? false = some 0.5 := by
    show (some (Decimal.divideByPower 5.0 1)).map _ = _
    rw [hDouble]
    rfl
  refine ⟨by decide, ?_⟩
  rw [hWritten]
  show some (Json.ofDecimal false ['0'] ['5'] 0) = _
  rw [Json.ofDecimal, hFound]

/-- A plan with a float in it, printed in full and written by hand. -/
theorem parse_compact_of_shortened_halves :
    (∀ x ∈ halves.toJson.floats, Json.ReadsBack x) ∧ halves.toJson.depth ≤ Json.depthLimit ∧
      Shortened halves.toJson halvesByHand ∧ Plan.parse halves.toJson.compact = .ok halves ∧
      Plan.parse halvesByHand.compact = .ok halves := by
  have hFloats : ∀ x ∈ halves.toJson.floats, Json.ReadsBack x := by
    intro x hx
    obtain rfl : x = 0.5 := List.mem_singleton.mp hx
    exact readsBack_half
  have hDepth : halves.toJson.depth ≤ Json.depthLimit := by decide
  obtain ⟨hWhole, hShorter⟩ := parse_compact_of_shortened halves hFloats hDepth
  exact ⟨hFloats, hDepth, shortened_halvesByHand, hWhole, hShorter _ shortened_halvesByHand⟩

end Plan

end SqlPlan
