import SqlPlan.Toml.Basic

/-!
# SqlPlan — tables of a TOML text

The expressions of a TOML text write into tables that are open while the text
is read. How a table came to be decides who may still write into it:

* `Entry` — what stands under a name: a finished value, a table, or the tables
  of an array;
* `insertAt?` — a key and its value. The key may go through tables that headers
  or other keys implied, but ends in a table made by such keys only;
* `changeAt?` — the way of a header. It goes through every table;
* `Entries.openTable?`, `Entries.openItem?` — what a header makes of the name it
  ends with.
-/

namespace SqlPlan

namespace Toml

/-- How a table came to be. -/
inductive Origin where
  /-- A header goes through it. -/
  | implied
  /-- A key with dots goes through it. -/
  | dotted
  /-- It has a header of its own. -/
  | header
  deriving DecidableEq, Inhabited

/-- What stands under a name. The tables of an array are last first. -/
inductive Entry where
  | value (v : Toml)
  | table (origin : Origin) (entries : List (String × Entry))
  | tables (items : List (List (String × Entry)))

abbrev Entries := List (String × Entry)

namespace Entries

/-- Writes the entry of a name, in place of the one that is there. -/
def set (name : String) (e : Entry) : Entries → Entries
  | [] => [(name, e)]
  | (other, old) :: rest =>
    if other = name then (name, e) :: rest else (other, old) :: set name e rest

/-- Writes a value under a name that has nothing yet. -/
def insert? (es : Entries) (name : String) (v : Toml) : Option Entries :=
  match es.lookup name with
  | none => some (es.set name (.value v))
  | some _ => none

/-- Writes a value under a name in the table that a path of keys with dots
leads to. -/
def insertAt? (path : List String) (name : String) (v : Toml) (es : Entries) : Option Entries :=
  match path with
  | [] => es.insert? name v
  | first :: rest =>
    match es.lookup first with
    | none => (insertAt? rest name v []).map fun inner => es.set first (.table .dotted inner)
    | some (.table origin inner) =>
      if origin = .dotted ∨ (origin = .implied ∧ rest ≠ []) then
        (insertAt? rest name v inner).map fun inner => es.set first (.table origin inner)
      else none
    | some (.tables (last :: before)) =>
      if rest = [] then none
      else (insertAt? rest name v last).map fun last => es.set first (.tables (last :: before))
    | _ => none

/-- Changes the table that the path of a header leads to. -/
def changeAt? (change : Entries → Option Entries) (path : List String) (es : Entries) :
    Option Entries :=
  match path with
  | [] => change es
  | first :: rest =>
    match es.lookup first with
    | none => (changeAt? change rest []).map fun inner => es.set first (.table .implied inner)
    | some (.table origin inner) =>
      (changeAt? change rest inner).map fun inner => es.set first (.table origin inner)
    | some (.tables (last :: before)) =>
      (changeAt? change rest last).map fun last => es.set first (.tables (last :: before))
    | _ => none

/-- Gives the table of a name its header. The table becomes the last of its
neighbours. -/
def openTable? (name : String) (es : Entries) : Option Entries :=
  match es.lookup name with
  | none => some (es ++ [(name, .table .header [])])
  | some (.table .implied inner) =>
    some (es.filter (fun e => e.1 ≠ name) ++ [(name, .table .header inner)])
  | _ => none

/-- Begins one more table of the array of a name. -/
def openItem? (name : String) (es : Entries) : Option Entries :=
  match es.lookup name with
  | none => some (es.set name (.tables [[]]))
  | some (.tables items) => some (es.set name (.tables ([] :: items)))
  | _ => none

mutual

/-- The finished members of a table. -/
def finish : List (String × Entry) → List (String × Toml)
  | [] => []
  | (name, e) :: rest => (name, finishEntry e) :: finish rest

/-- The finished value of an entry. -/
def finishEntry : Entry → Toml
  | .value v => v
  | .table _ entries => .table (finish entries)
  | .tables items => .array (finishAll items).reverse

/-- The finished tables of an array. -/
def finishAll : List (List (String × Entry)) → List Toml
  | [] => []
  | entries :: rest => .table (finish entries) :: finishAll rest

end

end Entries

-- ---------------------------------------------------------------------------
-- Expressions
-- ---------------------------------------------------------------------------

/-- A key: names with dots between them. -/
structure Key where
  path : List String
  name : String
  deriving DecidableEq, Inhabited

/-- All names of a key. -/
def Key.names (k : Key) : List String := k.path ++ [k.name]

/-- An expression of a TOML text. -/
inductive Expression where
  /-- The header of a table. -/
  | table (key : Key)
  /-- The header of one more table of an array. -/
  | item (key : Key)
  /-- A key and its value. -/
  | pair (key : Key) (v : Toml)

/-- The tables written so far, and the names of the header that keys come
under. -/
structure Writing where
  root : Entries := []
  header : List String := []

/-- Writes one more expression. -/
def Writing.step? (w : Writing) : Expression → Option Writing
  | .table key => do
    let root ← w.root.changeAt? (Entries.openTable? key.name) key.path
    some ⟨root, key.names⟩
  | .item key => do
    let root ← w.root.changeAt? (Entries.openItem? key.name) key.path
    some ⟨root, key.names⟩
  | .pair key v => do
    let root ← w.root.changeAt? (Entries.insertAt? key.path key.name v) w.header
    some { w with root }

/-- The members that the expressions of a text write. -/
def ofExpressions? (expressions : List Expression) : Option (List (String × Toml)) := do
  let w ← expressions.foldlM Writing.step? {}
  some (Entries.finish w.root)

/-- The table that keys and values between braces write. -/
def ofPairs? (pairs : List (Key × Toml)) : Option Toml := do
  let es ← pairs.foldlM (fun es (key, v) => Entries.insertAt? key.path key.name v es) []
  some (.table (Entries.finish es))

end Toml

end SqlPlan
