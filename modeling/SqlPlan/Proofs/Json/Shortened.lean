import SqlPlan.Proofs.Json.Members
import SqlPlan.Proofs.Json.Text

/-!
# SqlPlan — values written without their defaults

A field that holds its default may be left out. `Json.Shortened j k` says that `k` is `j`
less any of the members that hold the default of their field, wherever they stand, except
inside a document that a plan carries as a value: its members are data of its own.

* `Json.Shortened` — the relation, over a value, its items and its members;
* `Json.NoHarder` — what is shortened is no harder to read;
* `Json.MembersShortened.lookup` — a member is still there, or it held the default of its
  field;
* `Json.Recovers` — a reader finds something in a value however it is shortened, with one
  lemma for each shape: `recovers_of_isLeaf`, `recovers_list?`, `MembersShortened.required?`,
  `MembersShortened.defaulted?`, `Shortened.exists_tagged`.
-/

namespace SqlPlan.Json

-- ---------------------------------------------------------------------------
-- Members that may be left out
-- ---------------------------------------------------------------------------

/-- The fields of plans that have a default, each with that default. -/
def defaults : List (String × Json) :=
  [("primary_key", .str "id"), ("columns", .arr []), ("markers", .arr []), ("children", .arr []),
    ("params", .arr []), ("additional_columns", .arr []), ("column_alias_separator", .null),
    ("join", .null), ("condition", .null), ("case_sensitive", .null), ("fetch", .str "eager"),
    ("kind", .str "left")]

/-- The object holds a document of its own. -/
def HoldsDocument (members : List (String × Json)) : Prop :=
  ∃ d, members = [("type", .str "Json"), ("value", d)]

mutual

/-- The second value is the first without some of the members that hold a default. -/
inductive Shortened : Json → Json → Prop
  | same (j : Json) : Shortened j j
  | arr {items shorter : List Json} :
      AllShortened items shorter → Shortened (.arr items) (.arr shorter)
  | obj {members shorter : List (String × Json)} :
      ¬ HoldsDocument members → MembersShortened members shorter →
        Shortened (.obj members) (.obj shorter)

/-- Each of the items is shortened, if at all. -/
inductive AllShortened : List Json → List Json → Prop
  | nil : AllShortened [] []
  | cons {j k : Json} {items shorter : List Json} :
      Shortened j k → AllShortened items shorter → AllShortened (j :: items) (k :: shorter)

/-- Members are kept, their values shortened if at all, or left out. -/
inductive MembersShortened : List (String × Json) → List (String × Json) → Prop
  | nil : MembersShortened [] []
  | keep {name : String} {j k : Json} {members shorter : List (String × Json)} :
      Shortened j k → MembersShortened members shorter →
        MembersShortened ((name, j) :: members) ((name, k) :: shorter)
  | leaveOut {m : String × Json} {members shorter : List (String × Json)} :
      m ∈ defaults → MembersShortened members shorter → MembersShortened (m :: members) shorter

end

/-- Members are a shortening of themselves: nothing has to be left out. -/
theorem MembersShortened.refl (members : List (String × Json)) :
    MembersShortened members members := by
  induction members with
  | nil => exact .nil
  | cons m rest ih => exact .keep (.same m.2) ih

theorem AllShortened.refl (items : List Json) : AllShortened items items := by
  induction items with
  | nil => exact .nil
  | cons j rest ih => exact .cons (.same j) ih

-- ---------------------------------------------------------------------------
-- What a value is shortened to
-- ---------------------------------------------------------------------------

/-- A value without parts. -/
def IsLeaf : Json → Prop
  | .arr _ | .obj _ => False
  | _ => True

theorem Shortened.eq_of_isLeaf {j k : Json} (h : Shortened j k) (hLeaf : j.IsLeaf) : k = j := by
  cases h with
  | same => rfl
  | arr _ => exact hLeaf.elim
  | obj _ _ => exact hLeaf.elim

/-- The members of an object that holds a document are not fields. -/
theorem Shortened.eq_of_holdsDocument {members : List (String × Json)} {k : Json}
    (h : Shortened (.obj members) k) (hDocument : HoldsDocument members) :
    k = .obj members := by
  cases h with
  | same => rfl
  | obj hNone _ => exact absurd hDocument hNone

/-- An array stays one, with each of its items shortened. -/
theorem Shortened.exists_arr {items : List Json} {k : Json} (h : Shortened (.arr items) k) :
    ∃ shorter, k = .arr shorter ∧ AllShortened items shorter := by
  cases h with
  | same => exact ⟨items, rfl, .refl items⟩
  | arr h => exact ⟨_, rfl, h⟩

/-- An object stays one, with some of its members left out and the others
shortened. -/
theorem Shortened.exists_obj {members : List (String × Json)} {k : Json}
    (h : Shortened (.obj members) k) :
    ∃ shorter, k = .obj shorter ∧ MembersShortened members shorter := by
  cases h with
  | same => exact ⟨members, rfl, .refl members⟩
  | obj _ h => exact ⟨_, rfl, h⟩

/-- The second value can be read wherever the first can. -/
structure NoHarder (j k : Json) : Prop where
  legible : j.Legible → k.Legible
  floats  : k.floats ⊆ j.floats
  depth   : k.depth ≤ j.depth

mutual

/-- A shorter document nests no deeper and has no other floats. -/
theorem Shortened.noHarder {j k : Json} (h : Shortened j k) : NoHarder j k := by
  match h with
  | .same _ => exact ⟨id, fun _ hx => hx, Nat.le_refl _⟩
  | .arr h => exact h.noHarder
  | .obj _ h => exact h.noHarder

theorem AllShortened.noHarder {items shorter : List Json} (h : AllShortened items shorter) :
    NoHarder (.arr items) (.arr shorter) := by
  match h with
  | .nil => exact ⟨id, fun _ hx => hx, Nat.le_refl _⟩
  | .cons hHead hRest =>
    have hHead := hHead.noHarder
    have hRest := hRest.noHarder
    refine ⟨fun h => ⟨hHead.legible h.1, hRest.legible h.2⟩, ?_, ?_⟩
    · exact List.append_subset.mpr ⟨List.subset_append_of_subset_left _ hHead.floats,
        List.subset_append_of_subset_right _ hRest.floats⟩
    · have hOne := hHead.depth
      have hMore := hRest.depth
      simp only [depth, itemDepth] at hMore ⊢
      omega

theorem MembersShortened.noHarder {members shorter : List (String × Json)}
    (h : MembersShortened members shorter) : NoHarder (.obj members) (.obj shorter) := by
  match h with
  | .nil => exact ⟨id, fun _ hx => hx, Nat.le_refl _⟩
  | .keep hHead hRest =>
    have hHead := hHead.noHarder
    have hRest := hRest.noHarder
    refine ⟨fun h => ⟨hHead.legible h.1, hRest.legible h.2⟩, ?_, ?_⟩
    · exact List.append_subset.mpr ⟨List.subset_append_of_subset_left _ hHead.floats,
        List.subset_append_of_subset_right _ hRest.floats⟩
    · have hOne := hHead.depth
      have hMore := hRest.depth
      simp only [depth, memberDepth] at hMore ⊢
      omega
  -- leaving a member out takes its floats and its depth away
  | .leaveOut _ hRest =>
    have hRest := hRest.noHarder
    refine ⟨fun h => hRest.legible h.2, List.subset_append_of_subset_right _ hRest.floats, ?_⟩
    have hMore := hRest.depth
    simp only [depth, memberDepth] at hMore ⊢
    omega

end

-- ---------------------------------------------------------------------------
-- Members of a shortened record
-- ---------------------------------------------------------------------------

/-- Names that are kept stay in order. -/
theorem MembersShortened.names_sublist {members shorter : List (String × Json)}
    (h : MembersShortened members shorter) :
    (shorter.map Prod.fst).Sublist (members.map Prod.fst) := by
  match h with
  | .nil => exact List.Sublist.refl _
  | .keep _ hRest => exact hRest.names_sublist.cons_cons _
  | .leaveOut _ hRest => exact hRest.names_sublist.cons _

/-- A member is there, shortened if at all, or it held the default of its field. -/
theorem MembersShortened.lookup {members shorter : List (String × Json)} {name : String}
    {j : Json} (h : MembersShortened members shorter) (hNodup : (members.map Prod.fst).Nodup)
    (hMem : (name, j) ∈ members) :
    (∃ k, shorter.lookup name = some k ∧ Shortened j k) ∨
      (shorter.lookup name = none ∧ (name, j) ∈ defaults) := by
  match h with
  | .nil => simp at hMem
  | @MembersShortened.keep other i k _ _ hHead hRest =>
    obtain ⟨hFresh, hNodup⟩ := List.nodup_cons.mp hNodup
    rcases List.mem_cons.mp hMem with hSame | hLater
    · obtain ⟨rfl, rfl⟩ := Prod.mk.inj hSame
      exact .inl ⟨k, by simp, hHead⟩
    · have hNe : name ≠ other := by
        rintro rfl
        exact hFresh (List.mem_map.mpr ⟨(name, j), hLater, rfl⟩)
      simp only [List.lookup_cons, beq_eq_false_iff_ne.mpr hNe]
      exact hRest.lookup hNodup hLater
  | .leaveOut hDefault hRest =>
    obtain ⟨hFresh, hNodup⟩ := List.nodup_cons.mp hNodup
    rcases List.mem_cons.mp hMem with rfl | hLater
    -- names do not repeat, so what is left out is not found further on
    · refine .inr ⟨lookup_eq_none_of_not_mem fun hStill => hFresh ?_, hDefault⟩
      exact hRest.names_sublist.subset hStill
    · exact hRest.lookup hNodup hLater

/-- Shortened members still have no name twice, so they are read as fields. -/
theorem MembersShortened.fields? {members shorter : List (String × Json)}
    (h : MembersShortened members shorter)
    (hNodup : (members.map Prod.fst).Nodup) (names : List String) :
    Json.fields? names (.obj shorter) = some shorter :=
  fields?_of_nodup (hNodup.sublist h.names_sublist) names

-- ---------------------------------------------------------------------------
-- Reading what is shortened
-- ---------------------------------------------------------------------------

section Readers

variable {α β : Type} {read : Json → Option α} {j : Json} {a : α}

/-- The reader finds the same thing however the value is shortened. -/
def Recovers (read : Json → Option α) (j : Json) (a : α) : Prop :=
  ∀ k, Shortened j k → read k = some a

/-- A leaf recovers whatever it is read as. -/
theorem recovers_of_isLeaf (hLeaf : j.IsLeaf) (hRead : read j = some a) : Recovers read j a := by
  intro k h
  rw [h.eq_of_isLeaf hLeaf, hRead]

theorem recovers_string? (s : String) : Recovers string? (.str s) s :=
  recovers_of_isLeaf trivial rfl

/-- What is there is read, where null would stand for nothing. -/
theorem Recovers.nullable? (h : Recovers read j a) (hNull : read .null = none) :
    Recovers (Json.nullable? read) j (some a) := by
  intro k hShort
  have hRead := h k hShort
  cases k with
  | null => simp [hNull] at hRead
  | _ => simp [Json.nullable?, hRead]

/-- A list recovers if each of its items does. -/
theorem recovers_list? {write : α → Json} (items : List α)
    (h : ∀ a ∈ items, Recovers read (write a) a) :
    Recovers (list? read) (.arr (items.map write)) items := by
  intro k hShort
  obtain ⟨shorter, rfl, hItems⟩ := hShort.exists_arr
  clear hShort
  show shorter.mapM read = some items
  induction items generalizing shorter with
  | nil =>
    cases hItems
    rfl
  | cons a items ih =>
    cases hItems with
    | cons hHead hRest =>
      have hMore := ih (fun b hb => h b (List.mem_cons_of_mem _ hb)) _ hRest
      simp [h a List.mem_cons_self _ hHead, hMore]

variable {members shorter : List (String × Json)} {name : String}

/-- A member without a default is never left out, so it is found and read. -/
theorem MembersShortened.required? (h : MembersShortened members shorter)
    (hNodup : (members.map Prod.fst).Nodup) (hMem : (name, j) ∈ members)
    (hNeeded : name ∉ defaults.map Prod.fst) (hRead : Recovers read j a) :
    Json.required? shorter name read = some a := by
  rcases h.lookup hNodup hMem with ⟨k, hLookup, hShort⟩ | ⟨-, hDefault⟩
  · simp [Json.required?, hLookup, hRead k hShort]
  · exact absurd (List.mem_map_of_mem hDefault) hNeeded

/-- A member with a default is found and read, or was left out and its default
is meant. -/
theorem MembersShortened.defaulted? {default : α} (h : MembersShortened members shorter)
    (hNodup : (members.map Prod.fst).Nodup) (hMem : (name, j) ∈ members)
    (hRead : Recovers read j a) (hDefault : (name, j) ∈ defaults → default = a) :
    Json.defaulted? shorter name default read = some a := by
  rcases h.lookup hNodup hMem with ⟨k, hLookup, hShort⟩ | ⟨hLookup, hLeftOut⟩
  · simp [Json.defaulted?, hLookup, hRead k hShort]
  · simp [Json.defaulted?, hLookup, hDefault hLeftOut]

end Readers

-- ---------------------------------------------------------------------------
-- Tagged values
-- ---------------------------------------------------------------------------

section Tags

variable {tag content : String} {n : String} {p k : Json}

/-- A member that holds no default stays in front. -/
theorem MembersShortened.exists_keep {members shorter : List (String × Json)} {name : String}
    {j : Json} (h : MembersShortened ((name, j) :: members) shorter)
    (hNeeded : (name, j) ∉ defaults) :
    ∃ k rest, shorter = (name, k) :: rest ∧ Shortened j k ∧ MembersShortened members rest := by
  cases h with
  | keep hHead hRest => exact ⟨_, _, rfl, hHead, hRest⟩
  | leaveOut hDefault _ => exact absurd hDefault hNeeded

/-- A tag with a payload keeps its tag in front. -/
theorem Shortened.exists_tagged (h : Shortened (.obj [(tag, .str n), (content, p)]) k)
    (hTag : (tag, .str n) ∉ defaults) (hContent : (content, p) ∉ defaults) :
    ∃ q, k = .obj [(tag, .str n), (content, q)] ∧ Shortened p q := by
  obtain ⟨shorter, rfl, hMembers⟩ := h.exists_obj
  obtain ⟨name, rest, rfl, hName, hRest⟩ := hMembers.exists_keep hTag
  obtain ⟨q, rest, rfl, hPayload, hNone⟩ := hRest.exists_keep hContent
  obtain rfl := hName.eq_of_isLeaf trivial
  cases hNone
  exact ⟨q, rfl, hPayload⟩

/-- A tag alone stays as it is. -/
theorem Shortened.eq_of_tag (h : Shortened (.obj [(tag, .str n)]) k)
    (hTag : (tag, .str n) ∉ defaults) : k = .obj [(tag, .str n)] := by
  obtain ⟨shorter, rfl, hMembers⟩ := h.exists_obj
  obtain ⟨name, rest, rfl, hName, hNone⟩ := hMembers.exists_keep hTag
  obtain rfl := hName.eq_of_isLeaf trivial
  cases hNone
  rfl

theorem tagged?_payload (source : Source) (names : List String) (h : tag ≠ content) :
    tagged? source tag content names (.obj [(tag, .str n), (content, p)]) =
      some ⟨n, some p, source⟩ := by
  have hNe : (content == tag) = false := beq_eq_false_iff_ne.mpr (Ne.symm h)
  simp [tagged?, fields?, atMostOnce, required?, variant?, h, Ne.symm h, List.lookup_cons, hNe]

theorem tagged?_tag (source : Source) (names : List String) (h : tag ≠ content) :
    tagged? source tag content names (.obj [(tag, .str n)]) = some ⟨n, none, source⟩ := by
  have hNe : (content == tag) = false := beq_eq_false_iff_ne.mpr (Ne.symm h)
  simp [tagged?, fields?, atMostOnce, required?, variant?, h, List.lookup_cons, hNe]

end Tags

end SqlPlan.Json
