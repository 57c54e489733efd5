import Mathlib.Data.Option.Basic
import SqlPlan.Proofs.Json.Members

/-!
# SqlPlan — merged documents along their paths

One document is merged over another member by member, each over what stands under its
name by then, and both may hold anything at any depth. Two gaps lie between this and what
a reader of the merged document finds in it:

* **Lists of members vs documents** — merging is done on lists of members, whose lookups
  are known from `Json.lookup_mergeMembers`. `Document.member?` gives what stands under a
  name as a document again, and `member?_merge_obj` says it of a merged document.
* **One name vs a path** — `Document.at?` follows a path of names into a document.
  `at?_merge` says where a path leads that leads somewhere in the upper document: to what
  stands there, laid over what stands at the same place in the lower one.

`Overlaid` collects what this comes to for every path, and `merge_overlaid` is the main
statement. Merging the same document once more changes nothing (`merge_merge_self`), by
induction on what stands in the upper document (`Document.induction`).
-/

namespace SqlPlan

namespace Document

theorem eq_of_json_eq {d e : Document} (h : d.json = e.json) : d = e := by
  cases d
  cases e
  cases h
  rfl

theorem json_injective : Function.Injective Document.json :=
  fun _ _ h => eq_of_json_eq h

-- ---------------------------------------------------------------------------
-- What stands under a name
-- ---------------------------------------------------------------------------

namespace Members

/-- The names of the members. -/
def names (ms : Members) : List String := ms.list.map Prod.fst

/-- What stands under a name. -/
def get? (ms : Members) (name : String) : Option Document :=
  (ms.list.lookup name).pmap Document.mk fun _ h => Json.settled_of_lookup ms.settled h

theorem map_json_get? (ms : Members) (name : String) :
    (ms.get? name).map json = ms.list.lookup name := by
  rw [get?, Option.map_pmap, Option.pmap_eq_map, Option.map_id']

/-- What is found under a name is what the list of members has there. -/
theorem lookup_of_get? {ms : Members} {name : String} {d : Document}
    (h : ms.get? name = some d) : ms.list.lookup name = some d.json := by
  rw [← map_json_get?, h, Option.map_some]

theorem mem_names_iff {ms : Members} {name : String} :
    name ∈ ms.names ↔ (ms.get? name).isSome := by
  have hLookup : (ms.list.lookup name).isSome = (ms.get? name).isSome := by
    rw [← map_json_get?, Option.isSome_map]
  rw [← hLookup, List.lookup_isSome_iff, names, List.mem_map]
  simp only [beq_iff_eq, eq_comm (a := name)]

theorem get?_eq_none_iff {ms : Members} {name : String} :
    ms.get? name = none ↔ name ∉ ms.names := by
  rw [mem_names_iff, Option.not_isSome_iff_eq_none]

/-- Members are known by what stands under each name. -/
theorem eq_of_get? {ms ns : Members} (h : ∀ name, ms.get? name = ns.get? name) : ms = ns := by
  have hList : ms.list = ns.list := by
    refine ms.ascending.eq_of_lookup ns.ascending fun name => ?_
    rw [← map_json_get?, ← map_json_get?, h name]
  cases ms
  cases ns
  cases hList
  rfl

/-- Members laid over those of another object. -/
def merge (lower upper : Members) : Members :=
  have h := Json.settled_mergeMembers lower.ascending lower.settled upper.settled
  ⟨Json.mergeMembers lower.list upper.list, h.1, h.2⟩

end Members

/-- What stands under a name, if the document is an object that has it. -/
def member? (d : Document) (name : String) : Option Document :=
  d.members?.bind fun ms => ms.get? name

theorem member?_obj (ms : Members) (name : String) : (obj ms).member? name = ms.get? name := rfl

theorem member?_of_members?_eq_none {d : Document} (h : d.members? = none) (name : String) :
    d.member? name = none := by
  rw [member?, h, Option.bind_none]

theorem eq_obj_of_members? {d : Document} {ms : Members} (h : d.members? = some ms) :
    d = obj ms := by
  obtain ⟨j, hj⟩ := d
  cases j with
  | obj list =>
    obtain rfl := Option.some.inj h
    rfl
  | _ => exact nomatch h

/-- Only an object has a member under a name. -/
theorem exists_obj_of_member? {d e : Document} {name : String} (h : d.member? name = some e) :
    ∃ ms, d = obj ms ∧ ms.get? name = some e := by
  obtain ⟨ms, hms, he⟩ := Option.bind_eq_some_iff.mp h
  exact ⟨ms, eq_obj_of_members? hms, he⟩

-- ---------------------------------------------------------------------------
-- Induction
-- ---------------------------------------------------------------------------

/-- A member is smaller than its object, so a recursion may go into it. -/
theorem sizeOf_lt_of_get? {ms : Members} {name : String} {d : Document}
    (h : ms.get? name = some d) : sizeOf d.json < sizeOf (obj ms).json := by
  obtain ⟨before, after, hList, -⟩ := List.lookup_eq_some_iff.mp (Members.lookup_of_get? h)
  have hMem : (name, d.json) ∈ ms.list := by
    rw [hList]
    exact List.mem_append_right before List.mem_cons_self
  have hMember : sizeOf (name, d.json) < sizeOf ms.list := List.sizeOf_lt_of_mem hMem
  rw [Prod.mk.sizeOf_spec] at hMember
  show sizeOf d.json < sizeOf (Json.obj ms.list)
  rw [Json.obj.sizeOf_spec]
  omega

/-- What is true of every document that is no object, and of an object once it is true of
what stands under its names, is true of every document. -/
@[elab_as_elim]
theorem induction {motive : Document → Prop} (leaf : ∀ d, d.members? = none → motive d)
    (obj : ∀ ms, (∀ name d, ms.get? name = some d → motive d) → motive (obj ms))
    (d : Document) : motive d := by
  cases h : d.members? with
  | none => exact leaf d h
  | some ms =>
    rw [eq_obj_of_members? h]
    exact obj ms fun name inner hInner => induction leaf obj inner
termination_by sizeOf d.json
decreasing_by
  rw [eq_obj_of_members? h]
  exact sizeOf_lt_of_get? hInner

-- ---------------------------------------------------------------------------
-- One name of a merged document
-- ---------------------------------------------------------------------------

/-- A document laid over what stands at its place, if anything does. -/
def mergeOnto : Option Document → Document → Document
  | some lower, upper => lower.merge upper
  | none, upper => upper

/-- Two objects are merged member by member. -/
theorem merge_obj (ms ns : Members) : (obj ms).merge (obj ns) = obj (ms.merge ns) := by
  apply eq_of_json_eq
  show Json.merge (.obj ms.list) (.obj ns.list) = .obj (Json.mergeMembers ms.list ns.list)
  rw [Json.merge]

/-- Unless both are objects, nothing is left of the lower document. -/
theorem merge_of_members?_eq_none {lower upper : Document}
    (h : lower.members? = none ∨ upper.members? = none) : lower.merge upper = upper := by
  apply eq_of_json_eq
  show lower.json.merge upper.json = upper.json
  rw [Json.merge]
  intro ms ns hLower hUpper
  obtain ⟨lowerJson, hLowerSettled⟩ := lower
  obtain ⟨upperJson, hUpperSettled⟩ := upper
  subst hLower hUpper
  rcases h with h | h <;> exact nomatch h

/-- Under each name stands the merge of what both have there, or what one of
them has. -/
theorem Members.get?_merge (ms ns : Members) (name : String) :
    (ms.merge ns).get? name =
      ((ns.get? name).map (mergeOnto (ms.get? name))).or (ms.get? name) := by
  apply Option.map_injective json_injective
  have hMerged := Json.lookup_mergeMembers ns.ascending ms.list name
  rw [← map_json_get? ms, ← map_json_get? ns] at hMerged
  rw [map_json_get?, merge, hMerged]
  cases ms.get? name <;> cases ns.get? name <;> rfl

/-- What stands under a name once an object has been laid over a document. -/
theorem member?_merge_obj (lower : Document) (ns : Members) (name : String) :
    (lower.merge (obj ns)).member? name =
      ((ns.get? name).map (mergeOnto (lower.member? name))).or (lower.member? name) := by
  cases h : lower.members? with
  | none =>
    rw [merge_of_members?_eq_none (.inl h), member?_of_members?_eq_none h, member?_obj]
    cases ns.get? name <;> rfl
  | some ms =>
    rw [eq_obj_of_members? h, merge_obj, member?_obj, member?_obj, Members.get?_merge]

/-- Merged objects have the names of both. -/
theorem Members.mem_names_merge {ms ns : Members} {name : String} :
    name ∈ (ms.merge ns).names ↔ name ∈ ms.names ∨ name ∈ ns.names := by
  rw [mem_names_iff, mem_names_iff, mem_names_iff, get?_merge]
  cases ms.get? name <;> cases ns.get? name <;> simp

/-- A document counts alone at its place unless it is an object over an object. -/
theorem mergeOnto_eq {lower : Option Document} {upper : Document}
    (h : ∀ d, lower = some d → d.members? = none ∨ upper.members? = none) :
    mergeOnto lower upper = upper := by
  cases lower with
  | none => rfl
  | some d => exact merge_of_members?_eq_none (h d rfl)

-- ---------------------------------------------------------------------------
-- Paths
-- ---------------------------------------------------------------------------

/-- Where a path of names leads, each to be found in the object that the ones before it
lead to. -/
def at? : Document → List String → Option Document
  | d, [] => some d
  | d, name :: rest => (d.member? name).bind fun inner => at? inner rest

theorem at?_cons (d : Document) (name : String) (rest : List String) :
    d.at? (name :: rest) = (d.member? name).bind fun inner => inner.at? rest := rfl

/-- A path is followed in two parts. -/
theorem at?_append (d : Document) (path rest : List String) :
    d.at? (path ++ rest) = (d.at? path).bind fun inner => inner.at? rest := by
  induction path generalizing d with
  | nil => rfl
  | cons name path ih =>
    rw [List.cons_append, at?_cons, at?_cons]
    cases d.member? name with
    | none => rfl
    | some inner => exact ih inner

/-- What stands at a place of the upper document is found there, laid over what stands at
the same place of the lower one. -/
theorem at?_merge {lower upper d : Document} {path : List String} (h : upper.at? path = some d) :
    (lower.merge upper).at? path = some (mergeOnto (lower.at? path) d) := by
  induction path generalizing lower upper with
  | nil =>
    obtain rfl : upper = d := Option.some.inj h
    rfl
  | cons name rest ih =>
    rw [at?_cons] at h
    obtain ⟨inner, hInner, hRest⟩ := Option.bind_eq_some_iff.mp h
    obtain ⟨ns, rfl, hGet⟩ := exists_obj_of_member? hInner
    have hMember : (lower.merge (obj ns)).member? name =
        some (mergeOnto (lower.member? name) inner) := by
      rw [member?_merge_obj, hGet]
      rfl
    rw [at?_cons, at?_cons, hMember, Option.bind_some]
    -- from where the lower document has nothing, the upper one is followed alone
    cases lower.member? name with
    | none => exact hRest
    | some below => exact ih hRest

/-- Behind a name that an object does not have, there is what the lower one has there. -/
theorem at?_merge_of_not_mem {ms ns : Members} {name : String} (h : name ∉ ns.names)
    (rest : List String) :
    ((obj ms).merge (obj ns)).at? (name :: rest) = (obj ms).at? (name :: rest) := by
  have hMember : ((obj ms).merge (obj ns)).member? name = (obj ms).member? name := by
    rw [member?_merge_obj, Members.get?_eq_none_iff.mpr h, Option.map_none, Option.none_or]
  rw [at?_cons, at?_cons, hMember]

-- ---------------------------------------------------------------------------
-- Merged once more
-- ---------------------------------------------------------------------------

/-- Whatever is laid over nothing stays as it is. -/
theorem null_merge (d : Document) : Document.null.merge d = d :=
  merge_of_members?_eq_none (.inl rfl)

/-- Whatever an object is laid over, an object comes out. -/
theorem exists_merge_obj (lower : Document) (ns : Members) :
    ∃ os, lower.merge (obj ns) = obj os := by
  cases h : lower.members? with
  | none => exact ⟨ns, merge_of_members?_eq_none (.inl h)⟩
  | some ms =>
    rw [eq_obj_of_members? h]
    exact ⟨ms.merge ns, merge_obj ms ns⟩

/-- A document that changes nothing where it has been laid over another changes nothing over
itself either. -/
theorem merge_self_of_merge_merge {upper : Document}
    (h : ∀ lower : Document, (lower.merge upper).merge upper = lower.merge upper) :
    upper.merge upper = upper := by
  have hNull := h Document.null
  rw [null_merge] at hNull
  exact hNull

/-- Laying a document over something twice is laying it once, if this holds of
all documents below. -/
theorem mergeOnto_mergeOnto {upper : Document}
    (h : ∀ lower : Document, (lower.merge upper).merge upper = lower.merge upper)
    (lower : Option Document) :
    mergeOnto (some (mergeOnto lower upper)) upper = mergeOnto lower upper := by
  cases lower with
  | none => exact merge_self_of_merge_merge h
  | some d => exact h d

/-- A document that has been laid over another changes nothing if it is laid over it once
more. -/
theorem merge_merge_self (lower upper : Document) :
    (lower.merge upper).merge upper = lower.merge upper := by
  induction upper using Document.induction generalizing lower with
  | leaf d h => rw [merge_of_members?_eq_none (.inr h), merge_of_members?_eq_none (.inr h)]
  | obj ns ih =>
    obtain ⟨os, hOnce⟩ := exists_merge_obj lower ns
    -- the merge is an object again, and what it has under each name is known
    have hGet (name : String) : os.get? name =
        ((ns.get? name).map (mergeOnto (lower.member? name))).or (lower.member? name) := by
      rw [← member?_merge_obj, hOnce, member?_obj]
    rw [hOnce, merge_obj]
    refine congrArg obj (Members.eq_of_get? fun name => ?_)
    rw [Members.get?_merge]
    cases hUpper : ns.get? name with
    | none => rw [Option.map_none, Option.none_or]
    | some inner =>
      have hInner : os.get? name = some (mergeOnto (lower.member? name) inner) := by
        rw [hGet, hUpper, Option.map_some, Option.some_or]
      have hAgain := mergeOnto_mergeOnto (fun below => ih name inner hUpper below)
        (lower.member? name)
      rw [hInner, Option.map_some, Option.some_or, hAgain]

theorem merge_self (d : Document) : d.merge d = d :=
  merge_self_of_merge_merge fun lower => merge_merge_self lower d

-- ---------------------------------------------------------------------------
-- Every path
-- ---------------------------------------------------------------------------

/-- Where paths lead in a document that is one laid over another. The proper beginnings of
a path that leads anywhere lead to objects. -/
structure Overlaid (lower upper merged : Document) : Prop where
  /-- What is no object in the upper document is found there. -/
  value : ∀ path d, upper.at? path = some d → d.members? = none → merged.at? path = some d
  /-- Two objects at one place are merged, and the names are those of both. -/
  objects : ∀ path ms ns, lower.at? path = some (obj ms) → upper.at? path = some (obj ns) →
    ∃ os, (obj ms).merge (obj ns) = obj os ∧ merged.at? path = some (obj os) ∧
      ∀ name, name ∈ os.names ↔ name ∈ ms.names ∨ name ∈ ns.names
  /-- An object of the upper document is found as it is where the lower one has none. -/
  upperAlone : ∀ path ns, upper.at? path = some (obj ns) →
    (∀ ms, lower.at? path ≠ some (obj ms)) → merged.at? path = some (obj ns)
  /-- From a name on that the upper of two objects does not have, paths lead where they do
  in the lower document. -/
  lowerAlone : ∀ path name rest ms ns, lower.at? path = some (obj ms) →
    upper.at? path = some (obj ns) → name ∉ ns.names →
    merged.at? (path ++ name :: rest) = lower.at? (path ++ name :: rest)

/--
**Documents are merged at every depth.** Along every path of names the merged document
holds what the upper one holds there, except that objects of both are merged in turn and
that the lower one counts where the upper one, an object over an object, does not have the
name. A document merged over itself is that document, and merging it in a second time
changes nothing.
-/
theorem merge_overlaid (lower upper : Document) :
    Overlaid lower upper (lower.merge upper) ∧ lower.merge lower = lower ∧
      (lower.merge upper).merge upper = lower.merge upper := by
  refine ⟨?_, merge_self lower, merge_merge_self lower upper⟩
  constructor
  case value =>
    intro path d hUpper hLeaf
    rw [at?_merge hUpper, mergeOnto_eq fun _ _ => .inr hLeaf]
  case objects =>
    intro path ms ns hLower hUpper
    refine ⟨ms.merge ns, merge_obj ms ns, ?_, fun name => Members.mem_names_merge⟩
    rw [at?_merge hUpper, hLower, mergeOnto, merge_obj]
  case upperAlone =>
    intro path ns hUpper hLower
    have hAlone : ∀ d, lower.at? path = some d → d.members? = none ∨ (obj ns).members? = none := by
      intro d hd
      refine .inl (Option.eq_none_iff_forall_ne_some.mpr fun ms hms => ?_)
      exact hLower ms (hd.trans (congrArg some (eq_obj_of_members? hms)))
    rw [at?_merge hUpper, mergeOnto_eq hAlone]
  case lowerAlone =>
    intro path name rest ms ns hLower hUpper hName
    -- the path is cut where the upper document ends
    rw [at?_append, at?_append, at?_merge hUpper, hLower]
    exact at?_merge_of_not_mem hName rest

/-- Settings as they come, with what an application keeps there. -/
def shipped : Document :=
  .obj (.ofList [("debug", .bool true), ("extra", .obj (.ofList [("limit", .int 7),
    ("rows", .int 50), ("theme", .obj (.ofList [("dark", .bool true)]))]))])

/-- What is changed about them: a number becomes an object, and an object one value. -/
def adjusted : Document :=
  .obj (.ofList [("extra", .obj (.ofList [("limit", .obj (.ofList [("rows", .int 10)])),
    ("theme", .obj (.ofList [("dark", .bool false)]))]))])

/-- Shipped settings under a user's: one subtree is overridden at a leaf,
another is extended, a third is left alone. -/
theorem merge_overlaid_shipped :
    (shipped.merge adjusted).at? ["extra", "theme", "dark"] = some (.bool false) ∧
    (shipped.merge adjusted).at? ["extra", "limit", "rows"] = some (.int 10) ∧
    (shipped.merge adjusted).at? ["extra", "limit"] =
      some (.obj (.ofList [("rows", .int 10)])) ∧
    (shipped.merge adjusted).at? ["extra", "rows"] = some (.int 50) ∧
    ∃ os, (shipped.merge adjusted).at? ["extra"] = some (.obj os) ∧
      ∀ name, name ∈ os.names ↔
        name ∈ ["limit", "rows", "theme"] ∨ name ∈ ["limit", "theme"] := by
  have hOverlaid := (merge_overlaid shipped adjusted).1
  have hLimit : ∀ ms, shipped.at? ["extra", "limit"] ≠ some (.obj ms) := by
    intro ms h
    have hSeven : (.int 7 : Document) = .obj ms := Option.some.inj h
    exact nomatch congrArg members? hSeven
  obtain ⟨os, -, hExtra, hNames⟩ := hOverlaid.objects ["extra"] _ _ rfl rfl
  exact ⟨hOverlaid.value ["extra", "theme", "dark"] _ rfl rfl,
    hOverlaid.value ["extra", "limit", "rows"] _ rfl rfl,
    hOverlaid.upperAlone ["extra", "limit"] _ rfl hLimit,
    hOverlaid.lowerAlone ["extra"] "rows" [] _ _ rfl rfl (by decide), os, hExtra, hNames⟩

end Document

end SqlPlan
