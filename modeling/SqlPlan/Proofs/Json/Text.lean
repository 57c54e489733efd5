import SqlPlan.Proofs.Json.Token

/-!
# SqlPlan — reading a written value

The text of a value is read as that value. The tokens are taken one at a time, so each
lemma says what the machine has become once all the tokens of a part are taken, whatever
containers are open around the part:

* `Json.depth` — how deep containers nest in a value;
* `Json.run?_toTokens` — the tokens of a value put that value into the innermost container;
* `Json.parse?_compact` — the text of a value that is not nested too deep is read as the
  value.
-/

namespace SqlPlan.Json

mutual

/-- How deep containers nest. -/
def depth : Json → Nat
  | .arr items => 1 + itemDepth items
  | .obj members => 1 + memberDepth members
  | _ => 0

def itemDepth : List Json → Nat
  | [] => 0
  | j :: rest => max (depth j) (itemDepth rest)

def memberDepth : List (String × Json) → Nat
  | [] => 0
  | (_, j) :: rest => max (depth j) (memberDepth rest)

end

-- ---------------------------------------------------------------------------
-- One token
-- ---------------------------------------------------------------------------

theorem run?_cons {r next : Reading} {t : Token} (ts : List Token) (h : r.step? t = some next) :
    r.run? (t :: ts) = next.run? ts := by
  cases r with
  | done j => simp [Reading.step?] at h
  | within frames expect => simp [Reading.run?, h]

/-- Members as an open object keeps them. -/
def keptMembers (members : List (String × Json)) : List (Option String × Json) :=
  members.map fun m => (some m.1, m.2)

theorem namedMembers?_keptMembers (members : List (String × Json)) :
    namedMembers? (keptMembers members) = some members := by
  induction members with
  | nil => rfl
  | cons m rest ih =>
    have hRest : namedMembers? (rest.map fun m => (some m.1, m.2)) = some rest := ih
    simp [keptMembers, namedMembers?, hRest]

/-- A value may begin. -/
def Expect.TakesValue (e : Expect) : Prop := e = .item ∨ e = .firstItem

/-- A member may begin. -/
def Expect.TakesName (e : Expect) : Prop := e = .name ∨ e = .firstName

-- ---------------------------------------------------------------------------
-- All tokens of a value
-- ---------------------------------------------------------------------------

mutual

/-- The tokens of a value put it into the innermost open container. -/
theorem run?_toTokens (j : Json) {frames : List Frame} {expect : Expect} (ts : List Token)
    (hExpect : expect.TakesValue) (hDepth : frames.length + j.depth ≤ depthLimit) :
    (Reading.within frames expect).run? (toTokens j ++ ts) = (complete j frames).run? ts := by
  match j with
  | .null | .bool _ | .int _ | .float _ | .str _ | .void =>
    rcases hExpect with rfl | rfl <;> exact run?_cons ts rfl
  | .arr items =>
    have hInner : (frames.length + 1) + itemDepth items ≤ depthLimit := by
      simp only [depth] at hDepth
      omega
    -- an array is opened, read in reverse, and closed at a depth that is allowed
    have hClose : close frames.length (.arr items.reverse) = .arr items := by
      simp only [close, List.reverse_reverse]
      rw [if_pos (by omega)]
    have hOpen : (Reading.within frames expect).step? .openArr =
        some (.within (.arr [] :: frames) .firstItem) := by
      rcases hExpect with rfl | rfl <;> rfl
    rw [toTokens, List.cons_append, List.append_assoc, List.singleton_append, run?_cons _ hOpen]
    match items with
    | [] =>
      rw [itemTokens, List.nil_append, run?_cons ts rfl, ← hClose]
      rfl
    | k :: more =>
      rw [run?_itemTokens k more _ (.inr rfl) hInner, List.append_nil, run?_cons ts rfl, hClose]
  | .obj members =>
    have hInner : (frames.length + 1) + memberDepth members ≤ depthLimit := by
      simp only [depth] at hDepth
      omega
    -- so is an object, whose members are kept with their names
    have hClose : close frames.length (.obj (keptMembers members).reverse none) =
        .obj members := by
      simp only [close, List.reverse_reverse, namedMembers?_keptMembers]
      rw [if_pos (by omega)]
    have hOpen : (Reading.within frames expect).step? .openObj =
        some (.within (.obj [] none :: frames) .firstName) := by
      rcases hExpect with rfl | rfl <;> rfl
    rw [toTokens, List.cons_append, List.append_assoc, List.singleton_append, run?_cons _ hOpen]
    match members with
    | [] =>
      rw [memberTokens, List.nil_append, run?_cons ts rfl, ← hClose]
      rfl
    | (name, k) :: more =>
      rw [run?_memberTokens name k more _ (.inr rfl) hInner, List.append_nil, run?_cons ts rfl,
        hClose]
termination_by sizeOf j

/-- The tokens of items put them into the open array. -/
theorem run?_itemTokens (j : Json) (items : List Json) {done : List Json} {frames : List Frame}
    {expect : Expect} (ts : List Token) (hExpect : expect.TakesValue)
    (hDepth : (frames.length + 1) + itemDepth (j :: items) ≤ depthLimit) :
    (Reading.within (.arr done :: frames) expect).run? (itemTokens (j :: items) ++ ts) =
      (Reading.within (.arr ((j :: items).reverse ++ done) :: frames) .separator).run? ts := by
  simp only [itemDepth] at hDepth
  match items with
  | [] =>
    rw [itemTokens, run?_toTokens j ts hExpect (by simp only [List.length_cons]; omega)]
    rfl
  | k :: more =>
    have hMore : (frames.length + 1) + itemDepth (k :: more) ≤ depthLimit := by omega
    rw [itemTokens, List.append_assoc,
      run?_toTokens j _ hExpect (by simp only [List.length_cons]; omega), List.cons_append]
    show (Reading.within (.arr (j :: done) :: frames) .separator).run? _ = _
    rw [run?_cons _ rfl, run?_itemTokens k more ts (.inl rfl) hMore]
    simp
termination_by sizeOf (j :: items)

/-- The tokens of members put them into the open object. -/
theorem run?_memberTokens (name : String) (j : Json) (members : List (String × Json))
    {done : List (Option String × Json)} {frames : List Frame} {expect : Expect}
    (ts : List Token) (hExpect : expect.TakesName)
    (hDepth : (frames.length + 1) + memberDepth ((name, j) :: members) ≤ depthLimit) :
    (Reading.within (.obj done none :: frames) expect).run?
        (memberTokens ((name, j) :: members) ++ ts) =
      (Reading.within (.obj ((keptMembers ((name, j) :: members)).reverse ++ done) none :: frames)
        .separator).run? ts := by
  have hName : (Reading.within (.obj done none :: frames) expect).step? (.text (some name)) =
      some (.within (.obj done (some name) :: frames) .colon) := by
    rcases hExpect with rfl | rfl <;> rfl
  simp only [memberDepth] at hDepth
  -- after the last member nothing follows, after any other a comma and the next name
  match members with
  | [] =>
    rw [memberTokens, List.cons_append, run?_cons _ hName, List.cons_append, run?_cons _ rfl,
      run?_toTokens j ts (.inl rfl) (by simp only [List.length_cons]; omega)]
    rfl
  | (other, k) :: more =>
    have hMore : (frames.length + 1) + memberDepth ((other, k) :: more) ≤ depthLimit := by omega
    rw [memberTokens, List.cons_append, run?_cons _ hName, List.cons_append, run?_cons _ rfl,
      List.append_assoc, run?_toTokens j _ (.inl rfl) (by simp only [List.length_cons]; omega),
      List.cons_append]
    show (Reading.within (.obj ((some name, j) :: done) none :: frames) .separator).run? _ = _
    rw [run?_cons _ rfl, run?_memberTokens other k more ts (.inl rfl) hMore]
    simp [keptMembers]
termination_by sizeOf ((name, j) :: members)

end

/-- A text of the tokens of a value that is not nested too deep denotes that value, however
its tokens are laid out. -/
theorem parse?_of_tokens? {text : String} {j : Json} (hTokens : tokens? text = some (toTokens j))
    (hDepth : j.depth ≤ depthLimit) : parse? text = some j := by
  have hRun : (Reading.within [] .item).run? (toTokens j ++ []) = (complete j []).run? [] :=
    run?_toTokens j [] (.inl rfl) (by simpa using hDepth)
  rw [List.append_nil] at hRun
  rw [parse?, hTokens]
  exact hRun

/-- The compact text of a document reads back, if its floats do and it does not
nest too deep. -/
theorem parse?_compact {j : Json} (hLegible : j.Legible) (hFloats : ∀ x ∈ j.floats, ReadsBack x)
    (hDepth : j.depth ≤ depthLimit) : parse? j.compact = some j :=
  parse?_of_tokens? (tokens?_compact hLegible hFloats) hDepth

end SqlPlan.Json
