import SqlPlan.Json.Token

/-!
# SqlPlan — reading JSON

Tokens become a value by a machine that keeps the containers still open. It
reads one token at a time and needs no lookahead:

* `Json.Frame` — an open array or object, its parts last first;
* `Json.Expect` — what may come next;
* `Json.Reading` — the open containers and what may come next, or the value read;
* `Json.parse?` — the value a text denotes: one value and nothing after it.

A container nested deeper than `depthLimit` denotes nothing.
-/

namespace SqlPlan

namespace Json

/-- Containers nested deeper than this denote nothing. -/
def depthLimit : Nat := 127

/-- An open container. An object also keeps the name whose value comes next;
a name that denotes no text is kept as none. -/
inductive Frame where
  | arr (items : List Json)
  | obj (members : List (Option String × Json)) (name : Option String)
  deriving Inhabited

/-- What may come next. -/
inductive Expect where
  /-- A value. -/
  | item
  /-- A value, or the end of the array. -/
  | firstItem
  /-- A member name. -/
  | name
  /-- A member name, or the end of the object. -/
  | firstName
  | colon
  /-- A comma, or the end of the container. -/
  | separator
  deriving DecidableEq, Inhabited

/-- The state of reading one value. -/
inductive Reading where
  | within (frames : List Frame) (expect : Expect)
  | done (value : Json)
  deriving Inhabited

/-- A complete value goes into the innermost open container. -/
def complete (value : Json) : List Frame → Reading
  | [] => .done value
  | .arr items :: frames => .within (.arr (value :: items) :: frames) .separator
  | .obj members name :: frames =>
    .within (.obj ((name, value) :: members) none :: frames) .separator

/-- The members of an object, if each of their names denotes a text. -/
def namedMembers? : List (Option String × Json) → Option (List (String × Json))
  | [] => some []
  | (some name, j) :: rest => (namedMembers? rest).map ((name, j) :: ·)
  | (none, _) :: _ => none

/-- The value of a container that ends inside `depth` others. -/
def close (depth : Nat) : Frame → Json
  | .arr items => if depth < depthLimit then .arr items.reverse else .void
  | .obj members _ =>
    if depth < depthLimit then
      match namedMembers? members.reverse with
      | some ms => .obj ms
      | none => .void
    else .void

/-- Reads one more token. -/
def Reading.step? : Reading → Token → Option Reading
  | .done _, _ => none
  | .within frames expect, token =>
    match expect, token with
    | .item, .openArr | .firstItem, .openArr => some (.within (.arr [] :: frames) .firstItem)
    | .item, .openObj | .firstItem, .openObj =>
      some (.within (.obj [] none :: frames) .firstName)
    | .item, .text s | .firstItem, .text s =>
      some (complete (match s with | some s => .str s | none => .void) frames)
    | .item, .atom j | .firstItem, .atom j => some (complete j frames)
    | .name, .text s | .firstName, .text s =>
      match frames with
      | .obj members _ :: frames => some (.within (.obj members s :: frames) .colon)
      | _ => none
    | .colon, .colon => some (.within frames .item)
    | .separator, .comma =>
      match frames with
      | .arr _ :: _ => some (.within frames .item)
      | .obj _ _ :: _ => some (.within frames .name)
      | [] => none
    | .firstItem, .closeArr | .separator, .closeArr =>
      match frames with
      | .arr items :: frames => some (complete (close frames.length (.arr items)) frames)
      | _ => none
    | .firstName, .closeObj | .separator, .closeObj =>
      match frames with
      | .obj members name :: frames =>
        some (complete (close frames.length (.obj members name)) frames)
      | _ => none
    | _, _ => none

/-- Reads tokens to their end. -/
def Reading.run? : Reading → List Token → Option Json
  | .done j, [] => some j
  | .within _ _, [] => none
  | r, t :: rest => do (← r.step? t).run? rest

/-- The value that a JSON text writes. -/
def parse? (text : String) : Option Json := do
  (Reading.within [] .item).run? (← tokens? text)

end Json

/-- The document that a JSON text denotes. -/
def Document.parse? (text : String) : Option Document := do
  Document.ofJson? (← Json.parse? text)

end SqlPlan
