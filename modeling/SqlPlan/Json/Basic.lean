/-!
# SqlPlan — JSON values

`Json` is a JSON text as it was written: the members of an object keep their
order and their repeated names, which matters where a text is read as a plan
or a settings file. The leaf `void` stands where a text is well formed but
denotes no value (a number beyond the range of doubles, half of a surrogate
pair, a container nested too deep); reading such a text succeeds as long as
nobody asks for that part.

A `Document` is a JSON value in its own right. Its objects list their members
by name, each name once, and it holds no `void`:

* `Json.put` — writes one member into an ordered list of members;
* `Json.settle?` — the document a text denotes, where the last of several
  members of one name counts;
* `Json.Settled` — what makes a value a document.
-/

namespace SqlPlan

/-- A JSON text as written. -/
inductive Json where
  | null
  | bool (b : Bool)
  | int (n : Int)
  | float (x : Float)
  | str (s : String)
  | arr (items : List Json)
  | obj (members : List (String × Json))
  /-- A well-formed text that denotes no value. -/
  | void
  deriving Inhabited

namespace Json

-- ---------------------------------------------------------------------------
-- Members in the order of their names
-- ---------------------------------------------------------------------------

/-- Names ascend strictly, by code point. -/
def Ascending (members : List (String × Json)) : Prop :=
  members.Pairwise fun a b => a.1 < b.1

/-- Writes a member into an ascending list, over the one of that name. -/
def put (name : String) (value : Json) : List (String × Json) → List (String × Json)
  | [] => [(name, value)]
  | (other, old) :: rest =>
    if name < other then (name, value) :: (other, old) :: rest
    else if name = other then (name, value) :: rest
    else (other, old) :: put name value rest

theorem mem_put {name : String} {value : Json} {members : List (String × Json)}
    {m : String × Json} (h : m ∈ put name value members) :
    m = (name, value) ∨ m ∈ members := by
  induction members with
  | nil => simpa [put] using h
  | cons head rest ih =>
    simp only [put] at h
    split at h
    · simpa using h
    · split at h
      · rcases List.mem_cons.mp h with h | h
        · exact .inl h
        · exact .inr (List.mem_cons_of_mem _ h)
      · rcases List.mem_cons.mp h with h | h
        · exact .inr (h ▸ List.mem_cons_self ..)
        · exact (ih h).imp_right (List.mem_cons_of_mem _)

theorem ascending_put {name : String} {value : Json} {members : List (String × Json)}
    (h : Ascending members) : Ascending (put name value members) := by
  induction members with
  | nil => simp [put, Ascending]
  | cons head rest ih =>
    obtain ⟨hHead, hRest⟩ := List.pairwise_cons.mp h
    simp only [put]
    split
    · rename_i hlt
      refine List.pairwise_cons.mpr ⟨fun m hm => ?_, h⟩
      rcases List.mem_cons.mp hm with rfl | hm
      · exact hlt
      · exact String.lt_trans hlt (hHead m hm)
    · split
      · rename_i heq
        exact List.pairwise_cons.mpr ⟨fun m hm => heq ▸ hHead m hm, hRest⟩
      · rename_i hnlt hne
        refine List.pairwise_cons.mpr ⟨fun m hm => ?_, ih hRest⟩
        rcases mem_put hm with rfl | hm
        · have hle : head.1 ≤ name := hnlt
          exact Decidable.byContradiction fun hge => hne (String.le_antisymm hge hle)
        · exact hHead m hm

-- ---------------------------------------------------------------------------
-- Settled values
-- ---------------------------------------------------------------------------

mutual

/-- Numbers are in range, names ascend, and nothing is void. -/
def Settled : Json → Prop
  | .int n => -0x8000000000000000 ≤ n ∧ n < 0x10000000000000000
  | .float x => x.isFinite = true
  | .arr items => AllSettled items
  | .obj members => Ascending members ∧ MembersSettled members
  | .void => False
  | _ => True

/-- Each of the items is settled. -/
def AllSettled : List Json → Prop
  | [] => True
  | j :: rest => Settled j ∧ AllSettled rest

/-- The value of each of the members is settled. -/
def MembersSettled : List (String × Json) → Prop
  | [] => True
  | (_, j) :: rest => Settled j ∧ MembersSettled rest

end

theorem allSettled_iff {items : List Json} : AllSettled items ↔ ∀ j ∈ items, Settled j := by
  induction items with
  | nil => simp [AllSettled]
  | cons j rest ih => simp [AllSettled, ih]

theorem membersSettled_iff {members : List (String × Json)} :
    MembersSettled members ↔ ∀ m ∈ members, Settled m.2 := by
  induction members with
  | nil => simp [MembersSettled]
  | cons m rest ih => obtain ⟨k, j⟩ := m; simp [MembersSettled, ih]

theorem membersSettled_put {name : String} {value : Json} {members : List (String × Json)}
    (hv : Settled value) (h : MembersSettled members) :
    MembersSettled (put name value members) := by
  rw [membersSettled_iff] at h ⊢
  intro m hm
  rcases mem_put hm with rfl | hm
  · exact hv
  · exact h m hm

mutual

/-- The settled value that a text denotes. -/
def settle? : Json → Option Json
  | .int n => if -0x8000000000000000 ≤ n ∧ n < 0x10000000000000000 then some (.int n) else none
  | .float x => if x.isFinite then some (.float x) else none
  | .arr items => (settleAll? items).map .arr
  | .obj members => (settleMembers? [] members).map .obj
  | .void => none
  | j => some j

/-- The settled values of a list of items. -/
def settleAll? : List Json → Option (List Json)
  | [] => some []
  | j :: rest => do
    let k ← settle? j
    let ks ← settleAll? rest
    some (k :: ks)

/-- Writes members one after another over those already settled. -/
def settleMembers? (done : List (String × Json)) :
    List (String × Json) → Option (List (String × Json))
  | [] => some done
  | (name, j) :: rest => do
    let k ← settle? j
    settleMembers? (put name k done) rest

end

mutual

theorem settled_of_settle? {j k : Json} (h : settle? j = some k) : Settled k := by
  match j with
  | .null | .bool _ | .str _ =>
    simp only [settle?, Option.some.injEq] at h
    subst h
    simp [Settled]
  | .int n =>
    simp only [settle?] at h
    split at h
    · simp only [Option.some.injEq] at h
      subst h
      simpa [Settled]
    · simp at h
  | .float x =>
    simp only [settle?] at h
    split at h
    · simp only [Option.some.injEq] at h
      subst h
      simpa [Settled]
    · simp at h
  | .arr items =>
    simp only [settle?, Option.map_eq_some_iff] at h
    obtain ⟨ks, hks, rfl⟩ := h
    simpa [Settled] using allSettled_of_settleAll? hks
  | .obj members =>
    simp only [settle?, Option.map_eq_some_iff] at h
    obtain ⟨ms, hms, rfl⟩ := h
    simpa [Settled] using
      settledMembers_of_settleMembers? (List.Pairwise.nil) (by simp [MembersSettled]) hms
  | .void => simp [settle?] at h

theorem allSettled_of_settleAll? {items ks : List Json} (h : settleAll? items = some ks) :
    AllSettled ks := by
  match items with
  | [] =>
    simp only [settleAll?, Option.some.injEq] at h
    subst h
    simp [AllSettled]
  | j :: rest =>
    simp only [settleAll?, Option.bind_eq_bind, Option.bind_eq_some_iff, Option.some.injEq] at h
    obtain ⟨k, hk, ks, hks, rfl⟩ := h
    exact ⟨settled_of_settle? hk, allSettled_of_settleAll? hks⟩

theorem settledMembers_of_settleMembers? {done members ms : List (String × Json)}
    (hAsc : Ascending done) (hDone : MembersSettled done)
    (h : settleMembers? done members = some ms) :
    Ascending ms ∧ MembersSettled ms := by
  match members with
  | [] =>
    simp only [settleMembers?, Option.some.injEq] at h
    subst h
    exact ⟨hAsc, hDone⟩
  | (name, j) :: rest =>
    simp only [settleMembers?, Option.bind_eq_bind, Option.bind_eq_some_iff] at h
    obtain ⟨k, hk, hrest⟩ := h
    exact settledMembers_of_settleMembers? (ascending_put hAsc)
      (membersSettled_put (settled_of_settle? hk) hDone) hrest

end

end Json

-- ---------------------------------------------------------------------------
-- Documents
-- ---------------------------------------------------------------------------

/-- A JSON value: its objects list each name once, in order. -/
structure Document where
  json : Json
  settled : json.Settled

namespace Document

/-- The document a text denotes, if it denotes one. -/
def ofJson? (j : Json) : Option Document :=
  match h : j.settle? with
  | some k => some ⟨k, Json.settled_of_settle? h⟩
  | none => none

protected def null : Document := ⟨.null, by simp [Json.Settled]⟩

instance : Inhabited Document := ⟨Document.null⟩

def bool (b : Bool) : Document := ⟨.bool b, by simp [Json.Settled]⟩

def str (s : String) : Document := ⟨.str s, by simp [Json.Settled]⟩

def int (n : Int64) : Document :=
  ⟨.int n.toInt, by
    have h₁ := n.le_toInt
    have h₂ := n.toInt_lt
    simp only [Json.Settled]
    omega⟩

def byte (b : UInt8) : Document :=
  ⟨.int b.toNat, by
    have h := b.toNat_lt
    simp only [Json.Settled]
    omega⟩

/-- A number, or null where a double is no number. -/
def float (x : Float) : Document :=
  if h : x.isFinite = true then ⟨.float x, by simpa [Json.Settled]⟩ else Document.null

def arr (items : List Document) : Document :=
  ⟨.arr (items.map json), by
    rw [Json.Settled, Json.allSettled_iff]
    intro j hj
    obtain ⟨d, -, rfl⟩ := List.mem_map.mp hj
    exact d.settled⟩

/-- Members in ascending order, each name once. -/
structure Members where
  list : List (String × Json)
  ascending : Json.Ascending list
  settled : Json.MembersSettled list

namespace Members

protected def empty : Members := ⟨[], List.Pairwise.nil, by simp [Json.MembersSettled]⟩

instance : Inhabited Members := ⟨Members.empty⟩

/-- Writes a member, over the one of that name. -/
def put (ms : Members) (name : String) (value : Document) : Members :=
  ⟨Json.put name value.json ms.list, Json.ascending_put ms.ascending,
    Json.membersSettled_put value.settled ms.settled⟩

/-- Writes members one after another. -/
def ofList (members : List (String × Document)) : Members :=
  members.foldl (fun ms m => ms.put m.1 m.2) Members.empty

end Members

def obj (ms : Members) : Document :=
  ⟨.obj ms.list, by simpa [Json.Settled] using ⟨ms.ascending, ms.settled⟩⟩

/-- The members of an object. -/
def members? : Document → Option Members
  | ⟨.obj list, h⟩ =>
    some ⟨list, by simp only [Json.Settled] at h; exact h.1,
      by simp only [Json.Settled] at h; exact h.2⟩
  | _ => none

@[simp] theorem members?_obj (ms : Members) : (obj ms).members? = some ms := rfl

end Document

end SqlPlan
