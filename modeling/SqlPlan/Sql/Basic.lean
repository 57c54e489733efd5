import SqlPlan.Sql.Placeholder
import SqlPlan.Text.Blank
import SqlPlan.Value.Basic

/-!
# SqlPlan — SQL with parameters

`Sql` is a SQL text together with the values that its placeholders bind, first
to last. It grows at its end in two ways:

* `Sql.append` — text verbatim, right after what is there;
* `Sql.splice` — a fragment without the blanks at its ends, one space after
  what is there; a blank fragment leaves the text as it is.

Either way the parameters go after those already there.
-/

namespace SqlPlan

/-- A SQL text and the values its placeholders bind. -/
structure Sql where
  text : String := ""
  params : List Value := []
  deriving Inhabited

namespace Sql

/-- A text that binds nothing. -/
def ofText (text : String) : Sql := ⟨text, []⟩

/-- A placeholder and its value. -/
def bound (v : Value) : Sql := ⟨"?", [v]⟩

/-- The number of placeholders of the text. -/
def placeholders (q : Sql) : Nat := countPlaceholders q.text

/-- The text with numbered placeholders. -/
def numbered (q : Sql) : String := numberPlaceholders q.text

/-- There are as many placeholders as parameters. -/
def isAligned (q : Sql) : Bool := q.placeholders = q.params.length

/-- A fragment, already trimmed, set after a text. -/
def joinText (text fragment : String) : String :=
  if fragment = "" then text
  else if text = "" ∨ Text.endsBlank text then text ++ fragment
  else text ++ " " ++ fragment

/-- Adds a text and its parameters as they are. -/
def append (q more : Sql) : Sql :=
  ⟨q.text ++ more.text, q.params ++ more.params⟩

/-- Adds a trimmed fragment and its parameters. -/
def splice (q more : Sql) : Sql :=
  ⟨joinText q.text (Text.trim more.text), q.params ++ more.params⟩

/-- The text without the blanks at its ends. -/
def trimmed (q : Sql) : Sql := { q with text := Text.trim q.text }

@[simp] theorem params_append (q more : Sql) :
    (q.append more).params = q.params ++ more.params := rfl

@[simp] theorem params_splice (q more : Sql) :
    (q.splice more).params = q.params ++ more.params := rfl

@[simp] theorem text_append (q more : Sql) : (q.append more).text = q.text ++ more.text := rfl

/-- A text is aligned if its placeholders and parameters are equally many. -/
theorem isAligned_iff {q : Sql} : q.isAligned = true ↔ q.placeholders = q.params.length :=
  decide_eq_true_iff

theorem text_splice (q more : Sql) :
    (q.splice more).text = joinText q.text (Text.trim more.text) := rfl

end Sql

end SqlPlan
