import SqlPlan.Proofs.Calendar
import SqlPlan.Proofs.Json.Settled
import SqlPlan.Proofs.Json.Shortened
import SqlPlan.Proofs.Uuid
import SqlPlan.Value.Printer
import SqlPlan.Value.Reader

/-!
# SqlPlan — values are read back

A value is read from its tagged object, also where the object is shortened: the two
members of a tagged object are no fields with a default, and a document inside a value is
never shortened.

* `Value.legible_toJson` — the text of a value can be read;
* `Value.recovers_scalar` — a value other than a list is found if its payload is;
* `Value.recovers_toJson`, `Value.recovers_toJsons` — every value is found, in any nesting
  of lists.
-/

namespace SqlPlan

open Json (Shortened AllShortened Recovers)

-- ---------------------------------------------------------------------------
-- Numbers of a fixed width
-- ---------------------------------------------------------------------------

namespace Json

theorem int64?_toInt (n : Int64) : int64? (.int n.toInt) = some n := by
  have hLeast := n.le_toInt
  have hMost := n.toInt_lt
  rw [int64?, if_pos (by omega), Int64.ofInt_toInt]

theorem uint64?_toNat (n : UInt64) : uint64? (.int n.toNat) = some n := by
  have hMost := n.toNat_lt
  rw [uint64?, if_pos (by omega), Int.toNat_natCast, UInt64.ofNat_toNat]

theorem byte?_toNat (b : UInt8) : byte? (.int b.toNat) = some b := by
  have hMost := b.toNat_lt
  rw [byte?, if_pos (by omega), Int.toNat_natCast, UInt8.ofNat_toNat]

end Json

namespace Value

-- ---------------------------------------------------------------------------
-- Lists of values
-- ---------------------------------------------------------------------------

theorem toJsons_eq_map (vs : List Value) : toJsons vs = vs.map toJson := by
  induction vs with
  | nil => rfl
  | cons v rest ih => rw [toJsons, ih, List.map_cons]

theorem items?_eq_list? (source : Json.Source) (j : Json) :
    items? source j = j.list? (ofJson? source) := by
  have hAll : ∀ js, ofJsons? source js = js.mapM (ofJson? source) := by
    intro js
    induction js with
    | nil => rfl
    | cons k rest ih =>
      rw [ofJsons?, ih, List.mapM_cons]
      rfl
  cases j with
  | arr js => exact hAll js
  | _ => rfl

-- ---------------------------------------------------------------------------
-- The text of a value
-- ---------------------------------------------------------------------------

/-- Nothing in the tagged object of a value is void or out of range. -/
theorem legible_toJson (v : Value) : v.toJson.Legible := by
  match v with
  | null | bool _ | float _ | string _ | date _ | dateTime _ | dateTimeTz _ | time _ | uuid _ =>
    simp [toJson, tagged, Json.Legible, Json.MembersLegible]
  | int n =>
    have hLeast := n.le_toInt
    have hMost := n.toInt_lt
    exact ⟨trivial, ⟨by omega, by omega⟩, trivial⟩
  | bytes bs =>
    refine ⟨trivial, Json.allLegible_map fun b _ => ?_, trivial⟩
    have hMost := b.toNat_lt
    exact ⟨by omega, by omega⟩
  | json d => exact ⟨trivial, d.settled.legible, trivial⟩
  | list items =>
    refine ⟨trivial, ?_, trivial⟩
    show Json.AllLegible (toJsons items)
    rw [toJsons_eq_map]
    exact Json.allLegible_map fun v hv => legible_toJson v

/-- Values are written as documents that read back. -/
theorem allLegible_toJsons (vs : List Value) : Json.AllLegible (toJsons vs) := by
  rw [toJsons_eq_map]
  exact Json.allLegible_map fun v _ => legible_toJson v

-- ---------------------------------------------------------------------------
-- Reading
-- ---------------------------------------------------------------------------

/-- A tagged object keeps its two members. -/
theorem exists_tagged {type : String} {p k : Json} (h : Shortened (tagged type p) k) :
    ∃ q, k = tagged type q ∧ Shortened p q :=
  h.exists_tagged (by simp [Json.defaults]) (by simp [Json.defaults])

/-- A value of a type other than a list is found if it is found in the payload. -/
theorem recovers_scalar {type : String} {p : Json} {v : Value} (hType : type ≠ "List")
    (hRead : Recovers (fun q => scalar? type (some q)) p v) :
    Recovers (ofJson? .text) (tagged type p) v := by
  intro k h
  obtain ⟨q, rfl, hPayload⟩ := exists_tagged h
  have hScalar : scalar? type (some q) = some v := hRead q hPayload
  rw [tagged, ofJson?, Json.tagged?_payload .text types (by decide)]
  simp [hType, hScalar]

/-- What is written as a string is found if it is read from that string. -/
theorem recovers_of_string {type s : String} {v : Value} (hType : type ≠ "List")
    (hRead : scalar? type (some (.str s)) = some v) :
    Recovers (ofJson? .text) (tagged type (.str s)) v :=
  recovers_scalar hType (Json.recovers_of_isLeaf trivial hRead)

/-- Every value is found in its tagged object, however that is shortened. -/
theorem recovers_toJson (v : Value) : Recovers (ofJson? .text) v.toJson v := by
  match v with
  | null =>
    intro k h
    rw [toJson] at h
    rw [h.eq_of_tag (by simp [Json.defaults]), ofJson?, Json.tagged?_tag .text types (by decide)]
    rfl
  | bool b => exact recovers_scalar (by decide) (Json.recovers_of_isLeaf trivial rfl)
  | int n =>
    refine recovers_scalar (by decide) (Json.recovers_of_isLeaf trivial ?_)
    simp [scalar?, Json.int64?_toInt]
  | float x => exact recovers_scalar (by decide) (Json.recovers_of_isLeaf trivial rfl)
  | string s => exact recovers_of_string (by decide) rfl
  | bytes bs =>
    refine recovers_scalar (by decide) fun q hPayload => ?_
    have hByte : ∀ b ∈ bs, Recovers Json.byte? (.int (UInt8.toNat b)) b := fun b _ =>
      Json.recovers_of_isLeaf trivial (Json.byte?_toNat b)
    have hBytes := Json.recovers_list? bs hByte q hPayload
    simp [scalar?, hBytes]
  | date d => exact recovers_of_string (by decide) (by simp [scalar?, Json.string?, d.parse?_text])
  | dateTime t =>
    exact recovers_of_string (by decide) (by simp [scalar?, Json.string?, t.parse?_isoText])
  | dateTimeTz i =>
    exact recovers_of_string (by decide) (by simp [scalar?, Json.string?, i.parse?_isoText])
  | time t => exact recovers_of_string (by decide) (by simp [scalar?, Json.string?, t.parse?_text])
  | uuid u => exact recovers_of_string (by decide) (by simp [scalar?, Json.string?, u.parse?_text])
  | json d =>
    intro k h
    rw [toJson] at h
    -- a document is no record: nothing in it may be left out
    rw [h.eq_of_holdsDocument ⟨d.json, rfl⟩, ofJson?,
      Json.tagged?_payload .text types (by decide)]
    simp [scalar?, d.ofJson?_json]
  | list items =>
    intro k h
    rw [toJson] at h
    obtain ⟨q, rfl, hPayload⟩ := exists_tagged h
    rw [toJsons_eq_map] at hPayload
    have hItems : items? .text q = some items := by
      rw [items?_eq_list?]
      exact Json.recovers_list? items (fun v hv => recovers_toJson v) q hPayload
    rw [tagged, ofJson?, Json.tagged?_payload .text types (by decide)]
    simp [payload?, hItems]

theorem recovers_toJsons (vs : List Value) : Recovers (items? .text) (.arr (toJsons vs)) vs := by
  intro k h
  rw [toJsons_eq_map] at h
  rw [items?_eq_list?]
  exact Json.recovers_list? vs (fun v _ => recovers_toJson v) k h

end Value

end SqlPlan
