import SqlPlan.Instruction

/-!
# SqlPlan — phrases

A phrase is a list of instructions that belong together; a query is built by
putting phrases one after another:

* keywords and punctuation, such as `Phrase.filter` and `Phrase.opening`;
* `Operator`, `Target` — comparisons of a column or the primary key;
* `Target.isIn`, `Target.inArray` — membership, spelled out or left to the
  dialect. Nothing is a member of an empty list.
-/

namespace SqlPlan

/-- Instructions that belong together. -/
abbrev Phrase := List Instruction

namespace Phrase

/-- Text as it is. -/
def ofText (text : String) : Phrase := [.text text]

def filter : Phrase := ofText " WHERE "
def conjunction : Phrase := ofText " AND "
def disjunction : Phrase := ofText " OR "
def negation : Phrase := ofText "NOT "
def opening : Phrase := ofText "("
def closing : Phrase := ofText ")"

/-- The order of a query that is no page. -/
def order : Phrase := ofText " ORDER BY "

def comma : Phrase := ofText ", "

/-- A predicate that nothing meets. -/
def never : Phrase := ofText "1 = 0"

end Phrase

/-- An operator that compares two values. -/
inductive Operator where
  | eq
  | ne
  | lt
  | le
  | gt
  | ge
  deriving DecidableEq, Inhabited

def Operator.symbol : Operator → String
  | eq => "="
  | ne => "<>"
  | lt => "<"
  | le => "<="
  | gt => ">"
  | ge => ">="

/-- A column, or the primary key, that a predicate is about. -/
structure Target where
  /-- The name of the column; none for the primary key. -/
  column : Option String
  comparison : Comparison := .asIs

namespace Target

/-- The instruction that refers to the target. -/
def instruction (t : Target) : Instruction :=
  match t.column with
  | some name => .column name t.comparison
  | none => .idColumn t.comparison

def caseSensitive (t : Target) : Target := { t with comparison := .caseSensitive }

def caseInsensitive (t : Target) : Target := { t with comparison := .caseInsensitive }

/-- The target alone. -/
def phrase (t : Target) : Phrase := [t.instruction]

/-- The target and a text after it. -/
def followedBy (t : Target) (text : String) : Phrase := [t.instruction, .text text]

/-- A comparison with a value. -/
def compare (t : Target) (op : Operator) (v : Value) : Phrase :=
  [t.instruction, .text (" " ++ op.symbol ++ " "), .param v]

/-- A match with a pattern. -/
def like (t : Target) (pattern : String) : Phrase :=
  [t.instruction, .text " LIKE ", .stringParam pattern]

def isNull (t : Target) : Phrase := t.followedBy " IS NULL"

def isNotNull (t : Target) : Phrase := t.followedBy " IS NOT NULL"

def ascending (t : Target) : Phrase := t.followedBy " ASC"

def descending (t : Target) : Phrase := t.followedBy " DESC"

/-- The target equals one of the values. -/
def equalsOneOf (t : Target) : List Value → Phrase
  | [] => []
  | [v] => t.compare .eq v
  | v :: rest => t.compare .eq v ++ Phrase.disjunction ++ equalsOneOf t rest

/-- Membership in a list, spelled out. Without a list there are no members. -/
def isIn (t : Target) (values : Option (List Value)) : Phrase :=
  match values.getD [] with
  | [] => Phrase.never
  | vs => Phrase.opening ++ t.equalsOneOf vs ++ Phrase.closing

/-- Membership in a list, bound as one value. -/
def inArray (t : Target) : List Value → Phrase
  | [] => Phrase.never
  | vs => [t.instruction, .arrayParam vs]

end Target

end SqlPlan
