import SqlPlan.Calendar.Reader
import SqlPlan.Json.Shape
import SqlPlan.Value.Basic

/-!
# SqlPlan — reading values

`Value.ofJson?` reads a value from the tagged object that `Value.toJson`
writes. The payload of a list holds tagged values in turn, read from where the
list is read from.
-/

namespace SqlPlan

namespace Value

/-- The types of values. -/
def types : List String :=
  ["Null", "Bool", "Int", "Float", "String", "Bytes", "Date", "DateTime", "DateTimeTz", "Time",
    "Uuid", "Json", "List"]

/-- The value of a type other than a list. -/
def scalar? (type : String) (payload : Option Json) : Option Value :=
  if type = "Null" then (if Json.isUnit payload then some null else none)
  else do
    let j ← payload
    match type with
    | "Bool" => j.bool?.map bool
    | "Int" => j.int64?.map int
    | "Float" => j.float?.map float
    | "String" => j.string?.map string
    | "Bytes" => (j.list? Json.byte?).map bytes
    | "Date" => (j.string?.bind Date.parse?).map date
    | "DateTime" => (j.string?.bind Timestamp.parse?).map dateTime
    | "DateTimeTz" => (j.string?.bind Instant.parse?).map dateTimeTz
    | "Time" => (j.string?.bind TimeOfDay.parse?).map time
    | "Uuid" => (j.string?.bind Uuid.parse?).map uuid
    | "Json" => (Document.ofJson? j).map json
    | _ => none

mutual

/-- The value that a tagged object or pair writes. -/
def ofJson? (source : Json.Source) : Json → Option Value
  | .obj members => do
    let found ← Json.tagged? source "type" "value" types (.obj members)
    if found.name = "List" then (payload? found.source members).map list
    else scalar? found.name found.payload
  | .arr [type, payload] => do
    let type ← type.headName? source types
    if type = "List" then (items? source payload).map list else scalar? type (some payload)
  | _ => none

/-- The items under the name of the payload. -/
def payload? (source : Json.Source) : List (String × Json) → Option (List Value)
  | [] => none
  | (name, j) :: rest => if name = "value" then items? source j else payload? source rest

/-- The values of the items of an array. -/
def items? (source : Json.Source) : Json → Option (List Value)
  | .arr items => ofJsons? source items
  | _ => none

/-- Several values. -/
def ofJsons? (source : Json.Source) : List Json → Option (List Value)
  | [] => some []
  | j :: rest => do
    let v ← ofJson? source j
    let vs ← ofJsons? source rest
    some (v :: vs)

end

end Value

end SqlPlan
