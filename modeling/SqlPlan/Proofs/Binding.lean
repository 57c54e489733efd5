import SqlPlan.Binding
import SqlPlan.Proofs.Json.Text

/-!
# SqlPlan — values alone and in an array

The embedded database has no arrays. An array is bound as a JSON text, and a query
takes the items out of this text again. So a column is compared with a string of
the text where it is looked for in an array, and with what the value itself is
bound as where it is compared with the value alone:

* `Value.isText`, `Value.itemText` — the values that are texts in an array, and
  which ones;
* `Json.parse?_strings` — an array of strings is found in its own text;
* `Value.stored_list_of_isText` — what an array of such values is bound as;
* `Value.stored_eq_itemText_iff` — where both comparisons are with one text.

They are with two where the value is an instant: alone it is bound with its offset,
in an array as it is written for people.
-/

namespace SqlPlan

-- ---------------------------------------------------------------------------
-- Arrays of strings
-- ---------------------------------------------------------------------------

namespace Json

/-- An array of strings is found in its own text. -/
theorem parse?_strings (texts : List String) :
    parse? (arr (texts.map str)).compact = some (arr (texts.map str)) := by
  -- strings hold no doubles and nest in nothing, so the reader's two conditions are met
  have hItems : itemFloats (texts.map str) = [] ∧ itemDepth (texts.map str) = 0 := by
    induction texts with
    | nil => exact ⟨rfl, rfl⟩
    | cons s rest ih =>
      refine ⟨ih.1, ?_⟩
      show max 0 (itemDepth (rest.map str)) = 0
      rw [ih.2, Nat.max_self]
  have hLegible : AllLegible (texts.map str) := allLegible_map fun _ _ => trivial
  refine parse?_compact hLegible (fun x hx => ?_) ?_
  · rw [floats, hItems.1] at hx
    simp at hx
  · rw [depth, hItems.2]
    decide

end Json

-- ---------------------------------------------------------------------------
-- Texts of values
-- ---------------------------------------------------------------------------

/-- An instant for people ends in letters, one with its offset in digits. -/
theorem Instant.text_ne_offsetText (i : Instant) : i.text ≠ i.offsetText := by
  intro h
  have hLast : i.text.toList.getLast? = i.offsetText.toList.getLast? := by rw [h]
  simp [text, offsetText] at hLast

namespace Value

/-- The value is bound as a text, alone and in an array: a string, a time or a
UUID. -/
def isText : Value → Bool
  | string _ | date _ | dateTime _ | dateTimeTz _ | time _ | uuid _ => true
  | _ => false

def isInstant : Value → Bool
  | dateTimeTz _ => true
  | _ => false

/-- The text of a value that is an item of an array. -/
def itemText : Value → String
  | string s => s
  | v => v.text

theorem toDocuments_eq_map (vs : List Value) : toDocuments vs = vs.map toDocument := by
  induction vs with
  | nil => rfl
  | cons v rest ih => rw [toDocuments, ih, List.map_cons]

/-- In a list, a textual value is a string. -/
theorem json_toDocument_of_isText {v : Value} (h : v.isText = true) :
    v.toDocument.json = .str v.itemText := by
  cases v with
  | string | date | dateTime | dateTimeTz | time | uuid => rfl
  | _ => simp [isText] at h

/-- An array of texts is bound as the JSON text of these. -/
theorem stored_list_of_isText {items : List Value} (h : ∀ v ∈ items, v.isText = true) :
    (list items).stored = .string (Json.arr ((items.map itemText).map .str)).compact := by
  have hJson : (toDocuments items).map Document.json = (items.map itemText).map .str := by
    rw [toDocuments_eq_map, List.map_map, List.map_map]
    exact List.map_congr_left fun v hv => json_toDocument_of_isText (h v hv)
  have hText : (list items).toDocument.text =
      (Json.arr ((toDocuments items).map Document.json)).compact := rfl
  rw [stored, hText, hJson]

/-- Alone a text is bound as in an array, unless it is an instant. -/
theorem exists_stored_of_isText {v : Value} (h : v.isText = true) :
    ∃ alone, v.stored = .string alone ∧ (v.itemText = alone ↔ v.isInstant = false) := by
  cases v with
  | dateTimeTz i =>
    refine ⟨i.offsetText, rfl, ?_⟩
    have hText : (dateTimeTz i).itemText = i.text := rfl
    rw [hText]
    simp [isInstant, i.text_ne_offsetText]
  | string | date | dateTime | time | uuid =>
    exact ⟨_, rfl, ⟨fun _ => rfl, fun _ => rfl⟩⟩
  | _ => simp [isText] at h

/-- A textual value is bound alike alone and in a list, unless it is an
instant. -/
theorem stored_eq_itemText_iff {v : Value} (h : v.isText = true) :
    v.stored = .string v.itemText ↔ v.isInstant = false := by
  obtain ⟨alone, hStored, hAlone⟩ := exists_stored_of_isText h
  rw [hStored, ← hAlone, string.injEq, eq_comm]

-- ---------------------------------------------------------------------------
-- Arrays
-- ---------------------------------------------------------------------------

/-- The text that an array is bound as is that of an array of strings, each of them
what the item in its place is bound as alone. -/
def BindAlike (items : List Value) : Prop :=
  ∃ (text : String) (texts : List String), (list items).stored = .string text ∧
    Json.parse? text = some (.arr (texts.map .str)) ∧ items.map stored = texts.map .string

/-- The strings of an array of texts are known, so they bind alike exactly if each
text does. -/
theorem bindAlike_iff_stored {items : List Value} (h : ∀ v ∈ items, v.isText = true) :
    BindAlike items ↔ ∀ v ∈ items, v.stored = .string v.itemText := by
  have hList := stored_list_of_isText h
  have hParse := Json.parse?_strings (items.map itemText)
  have hItems : items.map stored = (items.map itemText).map .string ↔
      ∀ v ∈ items, v.stored = .string v.itemText := by
    rw [List.map_map]
    exact List.map_inj_left
  rw [← hItems]
  constructor
  -- what is bound is known, and so is what it reads as: only the values alone are left
  · rintro ⟨text, texts, hStored, hRead, hAlone⟩
    obtain rfl := string.inj (hList.symm.trans hStored)
    have hStrings := Json.arr.inj (Option.some.inj (hParse.symm.trans hRead))
    have hTexts : items.map itemText = texts :=
      (List.map_inj_right fun _ _ => Json.str.inj).mp hStrings
    rw [hAlone, hTexts]
  · intro hAlone
    exact ⟨_, _, hList, hParse, hAlone⟩

/--
**A value is compared alike alone and in an array, instants apart.** An array of
strings, times and UUIDs is bound as a text that is read as an array of strings.
Each of them is the text that the item in its place is bound as alone exactly if
this item is no instant.
-/
theorem bindAlike_iff {items : List Value} (h : ∀ v ∈ items, v.isText = true) :
    (∃ text, (list items).stored = .string text ∧
      Json.parse? text = some (.arr (items.map fun v => .str v.itemText))) ∧
    (∀ v ∈ items, ∃ alone, v.stored = .string alone ∧
      (v.itemText = alone ↔ v.isInstant = false)) ∧
    (BindAlike items ↔ ∀ v ∈ items, v.isInstant = false) := by
  refine ⟨⟨_, stored_list_of_isText h, ?_⟩, fun v hv => exists_stored_of_isText (h v hv), ?_⟩
  · rw [Json.parse?_strings, List.map_map]
    rfl
  · rw [bindAlike_iff_stored h]
    exact forall₂_congr fun v hv => stored_eq_itemText_iff (h v hv)

/-- A leap day at noon. -/
def leapNoon : Timestamp :=
  ⟨⟨2024, 2, 29, by decide, by decide, by decide⟩,
    ⟨12, 0, 0, 0, by decide, by decide, by decide, by decide⟩⟩

/-- Text with quotes and line breaks is bound alike, and so is a time without an
offset. -/
theorem bindAlike_quoted :
    (∀ v ∈ [string "a \x22b\x22\n", dateTime leapNoon], v.isText = true) ∧
    (∀ v ∈ [string "a \x22b\x22\n", dateTime leapNoon], v.isInstant = false) ∧
    BindAlike [string "a \x22b\x22\n", dateTime leapNoon] := by
  have hText : ∀ v ∈ [string "a \x22b\x22\n", dateTime leapNoon], v.isText = true := by
    simp [isText]
  have hInstant : ∀ v ∈ [string "a \x22b\x22\n", dateTime leapNoon], v.isInstant = false := by
    simp [isInstant]
  exact ⟨hText, hInstant, (bindAlike_iff hText).2.2.mpr hInstant⟩

/-- An instant is looked for under one text in an array and under another alone. -/
theorem not_bindAlike_leapNoon :
    (dateTimeTz ⟨leapNoon⟩).stored = .string "2024-02-29T12:00:00+00:00" ∧
    (list [dateTimeTz ⟨leapNoon⟩]).stored = .string "[\x222024-02-29 12:00:00 UTC\x22]" ∧
    ¬ BindAlike [dateTimeTz ⟨leapNoon⟩] := by
  have hText : ∀ v ∈ [dateTimeTz ⟨leapNoon⟩], v.isText = true := by simp [isText]
  have hAlone : (⟨leapNoon⟩ : Instant).offsetText = "2024-02-29T12:00:00+00:00" := by decide
  have hList : (Json.arr [.str (⟨leapNoon⟩ : Instant).text]).compact =
      "[\x222024-02-29 12:00:00 UTC\x22]" := by decide +kernel
  refine ⟨congrArg string hAlone, ?_, ?_⟩
  · rw [stored_list_of_isText hText]
    exact congrArg string hList
  · rw [bindAlike_iff_stored hText, List.forall_mem_singleton, stored_eq_itemText_iff rfl]
    decide

end Value

end SqlPlan
