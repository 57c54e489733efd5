import SqlPlan.Calendar.Basic
import SqlPlan.Json.Printer
import SqlPlan.Uuid

/-!
# SqlPlan — values bound to placeholders

A `Value` is what a placeholder of a SQL text is bound to. `ToValue` says how
the plain types of a program become values; an index or a count does so by
`Value.ofIndex`, which stays within the integers of a database.
-/

namespace SqlPlan

/-- A value bound to a placeholder. -/
inductive Value where
  | null
  | bool (b : Bool)
  | int (n : Int64)
  | float (x : Float)
  | string (s : String)
  | bytes (bs : List UInt8)
  | date (d : Date)
  | dateTime (t : Timestamp)
  | dateTimeTz (i : Instant)
  | time (t : TimeOfDay)
  | uuid (u : Uuid)
  | json (d : Document)
  /-- An array bound as one value. -/
  | list (items : List Value)

instance : Inhabited Value := ⟨.null⟩

namespace Value

def isNull : Value → Bool
  | null => true
  | _ => false

def asInt? : Value → Option Int64
  | int n => some n
  | _ => none

def asString? : Value → Option String
  | string s => some s
  | _ => none

def asList? : Value → Option (List Value)
  | list items => some items
  | _ => none

/-- An index or count as an integer, the greatest one where it is greater. -/
def ofIndex (n : Nat) : Value :=
  int (Int64.ofNat (min n 0x7FFFFFFFFFFFFFFF))

end Value

-- ---------------------------------------------------------------------------
-- Plain types
-- ---------------------------------------------------------------------------

/-- How a type of plain data becomes a value. -/
class ToValue (α : Type) where
  toValue : α → Value

export ToValue (toValue)

instance : ToValue Value := ⟨id⟩
instance : ToValue Bool := ⟨.bool⟩
instance : ToValue Int64 := ⟨.int⟩
instance : ToValue Int32 := ⟨fun n => .int n.toInt64⟩
instance : ToValue Int16 := ⟨fun n => .int n.toInt64⟩
instance : ToValue UInt32 := ⟨fun n => .int n.toUInt64.toInt64⟩
instance : ToValue Float := ⟨.float⟩
instance : ToValue Float32 := ⟨fun x => .float x.toFloat⟩
instance : ToValue String := ⟨.string⟩
instance : ToValue (List UInt8) := ⟨.bytes⟩
instance : ToValue Date := ⟨.date⟩
instance : ToValue Timestamp := ⟨.dateTime⟩
instance : ToValue Instant := ⟨.dateTimeTz⟩
instance : ToValue TimeOfDay := ⟨.time⟩
instance : ToValue Uuid := ⟨.uuid⟩
instance : ToValue Document := ⟨.json⟩

/-- What is absent becomes null. -/
instance {α : Type} [ToValue α] : ToValue (Option α) :=
  ⟨fun a => match a with | some a => toValue a | none => .null⟩

/-- A list whose items become values, as one value. -/
def Value.ofList {α : Type} [ToValue α] (items : List α) : Value :=
  .list (items.map toValue)

end SqlPlan
