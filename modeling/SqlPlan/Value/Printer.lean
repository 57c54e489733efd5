import SqlPlan.Calendar.Printer
import SqlPlan.Text.Quoted
import SqlPlan.Value.Basic

/-!
# SqlPlan — writing values

Three forms of a value:

* `Value.text` — for people;
* `Value.toDocument` — as a plain JSON document, without the type of the value;
* `Value.toJson` — as a JSON object of the type and the payload, which
  `Value.ofJson?` reads back.
-/

namespace SqlPlan

namespace Value

/-- For people, doubles are written positionally and without a useless point. -/
def floatStyle : FloatStyle where
  positional _ := true
  point := false
  halfway := .up
  infinity := "inf"
  notANumber := "NaN"

mutual

/-- The text of a value for people. -/
def text : Value → String
  | null => "NULL"
  | bool b => if b then "true" else "false"
  | int n => toString n.toInt
  | float x => floatStyle.write x
  | string s => Text.quoted s
  | bytes bs => "<" ++ toString bs.length ++ " bytes>"
  | date d => d.text
  | dateTime t => t.text
  | dateTimeTz i => i.text
  | time t => t.text
  | uuid u => u.text
  | json d => d.text
  | list items => "[" ++ ", ".intercalate (texts items) ++ "]"

/-- The texts of several values. -/
def texts : List Value → List String
  | [] => []
  | v :: rest => text v :: texts rest

end

mutual

/-- A value as a plain document. Times and UUIDs become their texts. -/
def toDocument : Value → Document
  | null => .null
  | bool b => .bool b
  | int n => .int n
  | float x => .float x
  | string s => .str s
  | bytes bs => .arr (bs.map .byte)
  | date d => .str d.text
  | dateTime t => .str t.text
  | dateTimeTz i => .str i.text
  | time t => .str t.text
  | uuid u => .str u.text
  | json d => d
  | list items => .arr (toDocuments items)

/-- Several values as plain documents. -/
def toDocuments : List Value → List Document
  | [] => []
  | v :: rest => toDocument v :: toDocuments rest

end

/-- The name of the type of a value. -/
def typeName : Value → String
  | null => "Null"
  | bool _ => "Bool"
  | int _ => "Int"
  | float _ => "Float"
  | string _ => "String"
  | bytes _ => "Bytes"
  | date _ => "Date"
  | dateTime _ => "DateTime"
  | dateTimeTz _ => "DateTimeTz"
  | time _ => "Time"
  | uuid _ => "Uuid"
  | json _ => "Json"
  | list _ => "List"

/-- A tagged object with a payload. -/
def tagged (type : String) (payload : Json) : Json :=
  .obj [("type", .str type), ("value", payload)]

mutual

/-- A value as an object of its type and its payload. -/
def toJson : Value → Json
  | null => .obj [("type", .str "Null")]
  | bool b => tagged "Bool" (.bool b)
  | int n => tagged "Int" (.int n.toInt)
  | float x => tagged "Float" (.float x)
  | string s => tagged "String" (.str s)
  | bytes bs => tagged "Bytes" (.arr (bs.map fun b => .int b.toNat))
  | date d => tagged "Date" (.str d.text)
  | dateTime t => tagged "DateTime" (.str t.isoText)
  | dateTimeTz i => tagged "DateTimeTz" (.str i.isoText)
  | time t => tagged "Time" (.str t.text)
  | uuid u => tagged "Uuid" (.str u.text)
  | json d => tagged "Json" d.json
  | list items => tagged "List" (.arr (toJsons items))

/-- Several values as tagged objects. -/
def toJsons : List Value → List Json
  | [] => []
  | v :: rest => toJson v :: toJsons rest

end

end Value

end SqlPlan
