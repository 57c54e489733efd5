import SqlPlan.Json.Basic

/-!
# SqlPlan — the shapes that data takes in JSON

Plans and settings are read from JSON texts in a few shapes:

* a *record* lists named fields: an object with each field at most once and
  any other members, or an array of the fields in order (`Json.record?`);
* a *variant* is named by a string, or by an object of the name and a null
  (`Json.variant?`);
* a *tagged* value is a variant with a payload: an object of the two, or an
  array of exactly the two, the name as a string (`Json.tagged?`).

Parts that no field asks for may denote nothing (`Json.void`). A payload that
stands before its tag is kept until the tag is known, so there every part must
denote something (`Json.isSound`). What was kept is read less strictly than
the text itself, and so is all that it holds (`Json.Source`): the object that
names a variant may hold an empty object for the null, and an array may begin
with the number of a name for the name.
-/

namespace SqlPlan

namespace Json

-- ---------------------------------------------------------------------------
-- Leaves
-- ---------------------------------------------------------------------------

def bool? : Json → Option Bool
  | .bool b => some b
  | _ => none

def string? : Json → Option String
  | .str s => some s
  | _ => none

/-- A signed integer of 64 bits. -/
def int64? : Json → Option Int64
  | .int n =>
    if -0x8000000000000000 ≤ n ∧ n < 0x8000000000000000 then some (Int64.ofInt n) else none
  | _ => none

/-- An unsigned integer of 64 bits. -/
def uint64? : Json → Option UInt64
  | .int n => if 0 ≤ n ∧ n < 0x10000000000000000 then some (UInt64.ofNat n.toNat) else none
  | _ => none

/-- An unsigned integer of 8 bits. -/
def byte? : Json → Option UInt8
  | .int n => if 0 ≤ n ∧ n < 256 then some (UInt8.ofNat n.toNat) else none
  | _ => none

/-- A number of any form, as a double. -/
def float? : Json → Option Float
  | .float x => some x
  | .int n => some (Float.ofInt n)
  | _ => none

/-- A value that may be null. -/
def nullable? {α : Type} (read : Json → Option α) : Json → Option (Option α)
  | .null => some none
  | j => (read j).map some

/-- Reads each of the items of an array. -/
def list? {α : Type} (read : Json → Option α) : Json → Option (List α)
  | .arr items => items.mapM read
  | _ => none

/-- An array of strings. -/
def strings? : Json → Option (List String) := list? string?

-- ---------------------------------------------------------------------------
-- Records
-- ---------------------------------------------------------------------------

/-- The name is that of at most one member. -/
def atMostOnce (members : List (String × Json)) (name : String) : Bool :=
  (members.filter fun m => m.1 = name).length ≤ 1

/-- The members of an object that names none of the fields twice. -/
def fields? (names : List String) : Json → Option (List (String × Json))
  | .obj members => if names.all (atMostOnce members) then some members else none
  | _ => none

/-- The fields of a record, as members. -/
def record? (names : List String) : Json → Option (List (String × Json))
  | .arr items => if items.length ≤ names.length then some (names.zip items) else none
  | j => fields? names j

/-- A field that must be there. -/
def required? {α : Type} (members : List (String × Json)) (name : String)
    (read : Json → Option α) : Option α :=
  (members.lookup name).bind read

/-- A field that has a default. -/
def defaulted? {α : Type} (members : List (String × Json)) (name : String) (default : α)
    (read : Json → Option α) : Option α :=
  match members.lookup name with
  | some j => read j
  | none => some default

-- ---------------------------------------------------------------------------
-- Variants
-- ---------------------------------------------------------------------------

mutual

/-- Every part denotes something. -/
def isSound : Json → Bool
  | .arr items => allSound items
  | .obj members => membersSound members
  | .void => false
  | _ => true

/-- Every part of each of the items denotes something. -/
def allSound : List Json → Bool
  | [] => true
  | j :: rest => isSound j && allSound rest

/-- Every part of each of the members denotes something. -/
def membersSound : List (String × Json) → Bool
  | [] => true
  | (_, j) :: rest => isSound j && membersSound rest

end

/-- Where a value is read from. -/
inductive Source where
  /-- The text itself. -/
  | text
  /-- A payload that was kept until the tag after it was known. -/
  | kept
  deriving DecidableEq, Inhabited

/-- The name of a variant. What was kept may hold an empty object for the
null. -/
def variant? (source : Source) : Json → Option String
  | .str s => some s
  | .obj [(name, .null)] => some name
  | .obj [(name, .obj [])] => if source = .kept then some name else none
  | _ => none

/-- The name at the head of an array. What was kept may number `names` from
zero. -/
def headName? (source : Source) (names : List String) : Json → Option String
  | .str s => some s
  | .int n => if source = .kept ∧ 0 ≤ n then names[n.toNat]? else none
  | _ => none

/-- A tagged value: its name, its payload unless there is none, and where the
payload is read from. -/
structure Tagged where
  name : String
  payload : Option Json
  source : Source

/-- The parts of a tagged value. Its names have the order of `names`. -/
def tagged? (source : Source) (tag content : String) (names : List String) :
    Json → Option Tagged
  | .arr [name, payload] =>
    (headName? source names name).map fun name => { name, payload := some payload, source }
  | .obj members => do
    let first ← members.find? fun m => m.1 = tag || m.1 = content
    let members ← fields? [tag, content] (.obj members)
    let name ← required? members tag (variant? source)
    let payload := members.lookup content
    if first.1 = content then
      if payload.all isSound then some { name, payload, source := .kept } else none
    else some { name, payload, source }
  | _ => none

/-- A missing payload or a null. -/
def isUnit : Option Json → Bool
  | none | some .null => true
  | _ => false

end Json

end SqlPlan
