import SqlPlan.Proofs.Json.Text

/-!
# SqlPlan — documents denote themselves

A document is what some text denotes, with the last of several members of one name. The
value of a document holds each name once and in order, so it denotes that document again:

* `Json.settle?_of_settled` — a settled value is its own settled form;
* `Document.ofJson?_json` — so a document is found in its own value;
* `Json.Settled.legible`, `Document.parse?_text` — and its text can be read and denotes it.
-/

namespace SqlPlan

namespace Json

/-- A name after all others is written at the end. -/
theorem put_of_lt {name : String} {value : Json} {members : List (String × Json)}
    (h : ∀ m ∈ members, m.1 < name) : put name value members = members ++ [(name, value)] := by
  induction members with
  | nil => rfl
  | cons m rest ih =>
    have hHead : m.1 < name := h m List.mem_cons_self
    have hRest := ih fun n hn => h n (List.mem_cons_of_mem _ hn)
    have hAfter : ¬ name < m.1 := String.lt_asymm hHead
    have hNe : name ≠ m.1 := fun hName => String.lt_irrefl name (hName ▸ hHead)
    rw [put, if_neg hAfter, if_neg hNe, hRest]
    rfl

mutual

/-- A settled value is its own settled form. -/
theorem settle?_of_settled {j : Json} (h : j.Settled) : j.settle? = some j := by
  match j with
  | .null | .bool _ | .str _ => rfl
  | .int n => exact if_pos h
  | .float x => exact if_pos h
  | .arr items => rw [settle?, settleAll?_of_allSettled h, Option.map_some]
  | .obj members =>
    have hMembers := settleMembers?_of_membersSettled [] members h.1 h.2
    rw [settle?, hMembers, Option.map_some, List.nil_append]
  | .void => exact h.elim

/-- Settled items stay as they are when they are settled again. -/
theorem settleAll?_of_allSettled {items : List Json} (h : AllSettled items) :
    settleAll? items = some items := by
  match items with
  | [] => rfl
  | j :: rest =>
    simp [settleAll?, settle?_of_settled h.1, settleAll?_of_allSettled h.2]

/-- Members in order go one after another to the end of those before them. -/
theorem settleMembers?_of_membersSettled (done members : List (String × Json))
    (hAscending : Ascending (done ++ members)) (h : MembersSettled members) :
    settleMembers? done members = some (done ++ members) := by
  match members with
  | [] => simp [settleMembers?]
  | (name, j) :: rest =>
    have hBefore : ∀ m ∈ done, m.1 < name := fun m hm =>
      (List.pairwise_append.mp hAscending).2.2 m hm (name, j) List.mem_cons_self
    have hRest := settleMembers?_of_membersSettled (done ++ [(name, j)]) rest
      (by simpa using hAscending) h.2
    simp only [settleMembers?, settle?_of_settled h.1, Option.bind_eq_bind, Option.bind_some,
      put_of_lt hBefore, hRest]
    simp

end

mutual

/-- A settled document is one that a reader accepts. -/
theorem Settled.legible {j : Json} (h : j.Settled) : j.Legible := by
  match j with
  | .null | .bool _ | .str _ | .float _ => trivial
  | .int n => exact h
  | .arr items => exact AllSettled.legible h
  | .obj members => exact MembersSettled.legible h.2
  | .void => exact h.elim

theorem AllSettled.legible {items : List Json} (h : AllSettled items) : AllLegible items := by
  match items with
  | [] => trivial
  | j :: rest => exact ⟨Settled.legible h.1, AllSettled.legible h.2⟩

theorem MembersSettled.legible {members : List (String × Json)} (h : MembersSettled members) :
    MembersLegible members := by
  match members with
  | [] => trivial
  | (_, j) :: rest => exact ⟨Settled.legible h.1, MembersSettled.legible h.2⟩

end

end Json

/-- A document is found in its own value. -/
theorem Document.ofJson?_json (d : Document) : Document.ofJson? d.json = some d := by
  have hSelf := Json.settle?_of_settled d.settled
  unfold Document.ofJson?
  split
  · rename_i k hSettled
    obtain rfl : d.json = k := by
      rw [hSelf] at hSettled
      exact Option.some.inj hSettled
    rfl
  · rename_i hNone
    rw [hSelf] at hNone
    cases hNone

/-- A document that is not nested too deep is denoted by its text, as long as its doubles are
read back. -/
theorem Document.parse?_text {d : Document} (hFloats : ∀ x ∈ d.json.floats, Json.ReadsBack x)
    (hDepth : d.json.depth ≤ Json.depthLimit) : Document.parse? d.text = some d := by
  have hParse : Json.parse? d.text = some d.json :=
    Json.parse?_compact d.settled.legible hFloats hDepth
  rw [Document.parse?, hParse]
  exact d.ofJson?_json

end SqlPlan
