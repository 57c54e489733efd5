import SqlPlan.Calendar.Printer
import SqlPlan.Error
import SqlPlan.Json.Printer
import SqlPlan.Sql.Basic
import SqlPlan.Value.Printer

/-!
# SqlPlan — binding values

The embedded database stores five kinds of values: null, integers, doubles,
texts and bytes. Every value becomes one of them when it is bound:

* `Value.stored` — what a bound value is stored as;
* `Row` — the columns of a row that the database returns;
* `selectBound` — the row of a query that selects nothing but placeholders.
-/

namespace SqlPlan

/-- What the embedded database stores a bound value as. Times and UUIDs are
texts, and so are documents and lists, as JSON. A double that is no number is
null. -/
def Value.stored : Value → Value
  | .null => .null
  | .bool b => .int (if b then 1 else 0)
  | .int n => .int n
  | .float x => if x.isNaN then .null else .float x
  | .string s => .string s
  | .bytes bs => .bytes bs
  | .date d => .string d.text
  | .dateTime t => .string t.text
  | .dateTimeTz i => .string i.offsetText
  | .time t => .string t.text
  | .uuid u => .string u.text
  | .json d => .string d.text
  | .list items => .string (Value.list items).toDocument.text

/-- A row: values under the names of their columns. -/
structure Row where
  columns : List (String × Value)

namespace Row

def names (r : Row) : List String := r.columns.map Prod.fst

def values (r : Row) : List Value := r.columns.map Prod.snd

/-- The value of the first column of a name. -/
def get? (r : Row) (name : String) : Option Value := r.columns.lookup name

/-- The integer that a row of a count query begins with. -/
def count (r : Row) : Except Error Int64 :=
  match r.values.head?.bind Value.asInt? with
  | some n => .ok n
  | none => .error .noCount

end Row

/-- The most columns that a row may have. -/
def columnLimit : Nat := 2000

/-- The row of a query that selects so many placeholders, or a zero if there
are none. -/
def selectBound (placeholders : Nat) (params : List Value) : Except Error Row :=
  if columnLimit < placeholders then .error (.unprepared "too many columns in result set")
  else if params.length ≠ placeholders then
    .error (.misaligned .prepared placeholders params.length)
  else if placeholders = 0 then .ok ⟨[("0", .int 0)]⟩
  else .ok ⟨params.map fun v => ("?", v.stored)⟩

end SqlPlan
