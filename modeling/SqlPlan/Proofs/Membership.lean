import Mathlib.Data.List.Basic
import SqlPlan.Phrase
import SqlPlan.Proofs.Compile.Reading

/-!
# SqlPlan — membership in a list

A column is looked for in a list by one comparison with each of the values, in
parentheses and with `OR` between them; nothing is looked for in an empty list. That
the SQL which is written does mean membership is said apart from the phrases that
write it, by reading it as a formula:

* `Predicate`, `Predicate.Holds` — a formula over comparisons of one column, and when
  it is true;
* `Predicate.read?`, `Predicate.ofSql?` — the formula that an SQL text writes, where
  `AND` binds more closely than `OR` and every placeholder takes the next value;
* `membership` — the text of a membership, and `ofSql?_membership` — the formula that
  it writes;
* `State.Adds` — what a phrase writes and does not change, put together phrase by
  phrase (`State.adds_isIn`).
-/

namespace SqlPlan

-- ---------------------------------------------------------------------------
-- Predicates
-- ---------------------------------------------------------------------------

/-- What a predicate says about a column. -/
inductive Predicate where
  | never
  | equals (v : Value)
  | both (p q : Predicate)
  | either (p q : Predicate)

namespace Predicate

/-- The predicate is true of a column, where `equal v` says that the column equals `v`.
A comparison with what is unknown is not true. -/
def Holds (equal : Value → Prop) : Predicate → Prop
  | never => False
  | equals v => equal v
  | both p q => p.Holds equal ∧ q.Holds equal
  | either p q => p.Holds equal ∨ q.Holds equal

/-- One of the values is that of the column. -/
def anyOf : List Value → Predicate
  | [] => never
  | [v] => equals v
  | v :: rest => either (equals v) (anyOf rest)

/-- One of the equalities holds exactly if one of the values is equal. -/
theorem holds_anyOf (equal : Value → Prop) (vs : List Value) :
    (anyOf vs).Holds equal ↔ ∃ v ∈ vs, equal v := by
  induction vs with
  | nil => simp [anyOf, Holds]
  | cons v rest ih =>
    cases rest with
    | nil => simp [anyOf, Holds]
    | cons w rest =>
      show equal v ∨ (anyOf (w :: rest)).Holds equal ↔ ∃ x ∈ v :: w :: rest, equal x
      rw [ih]
      simp only [List.mem_cons, exists_eq_or_imp]

-- ---------------------------------------------------------------------------
-- Reading predicates
-- ---------------------------------------------------------------------------

/-- What is looked for in a text, from what binds loosely to what binds closely. -/
inductive Rank where
  | disjunction
  | conjunction
  | factor

/-- A predicate about `column`, the text after it, and the values that are left for the
placeholders there. No more than `bound` parts stand inside each other. -/
def read? (column : String) : Nat → Rank → List Char → List Value →
    Option (Predicate × List Char × List Value)
  | 0, _, _, _ => none
  | bound + 1, .disjunction, cs, vs => do
    let (p, cs, vs) ← read? column bound .conjunction cs vs
    match cs.dropPrefix? " OR ".toList with
    | none => some (p, cs, vs)
    | some cs => do
      let (q, cs, vs) ← read? column bound .disjunction cs vs
      some (either p q, cs, vs)
  | bound + 1, .conjunction, cs, vs => do
    let (p, cs, vs) ← read? column bound .factor cs vs
    match cs.dropPrefix? " AND ".toList with
    | none => some (p, cs, vs)
    | some cs => do
      let (q, cs, vs) ← read? column bound .conjunction cs vs
      some (both p q, cs, vs)
  | bound + 1, .factor, cs, vs =>
    match cs.dropPrefix? (column ++ " = ?").toList with
    | some cs =>
      match vs with
      | [] => none
      | v :: vs => some (equals v, cs, vs)
    | none =>
      match cs.dropPrefix? "1 = 0".toList with
      | some cs => some (never, cs, vs)
      | none => do
        let cs ← cs.dropPrefix? ['(']
        let (p, cs, vs) ← read? column bound .disjunction cs vs
        let cs ← cs.dropPrefix? [')']
        some (p, cs, vs)

/-- The predicate about `column` that a text writes with its parameters, all of it and all of
them. -/
def ofSql? (column : String) (q : Sql) : Option Predicate :=
  match read? column (3 * q.text.length + 3) .disjunction q.text.toList q.params with
  | some (p, [], []) => some p
  | _ => none

end Predicate

-- ---------------------------------------------------------------------------
-- The text of a membership
-- ---------------------------------------------------------------------------

/-- A column compared with one placeholder for each of the values. -/
def comparisons (column : String) (vs : List Value) : String :=
  " OR ".intercalate (vs.map fun _ => column ++ " = ?")

/-- The SQL that says that a column has one of the values. -/
def membership (column : String) : List Value → Sql
  | [] => .ofText "1 = 0"
  | vs => ⟨"(" ++ comparisons column vs ++ ")", vs⟩

example : (membership "o.id" [.int 7, .null]).text = "(o.id = ? OR o.id = ?)" := by
  decide +kernel

section Text

variable (column : String)

theorem comparisons_singleton (v : Value) : comparisons column [v] = column ++ " = ?" :=
  String.intercalate_singleton

theorem comparisons_cons_cons (v w : Value) (rest : List Value) :
    comparisons column (v :: w :: rest) =
      column ++ " = ?" ++ " OR " ++ comparisons column (w :: rest) :=
  String.intercalate_cons_cons

/-- A comparison comes first. -/
theorem exists_toList_comparisons (v : Value) (rest : List Value) :
    ∃ more, (comparisons column (v :: rest)).toList = (column ++ " = ?").toList ++ more := by
  cases rest with
  | nil => exact ⟨[], by rw [comparisons_singleton, List.append_nil]⟩
  | cons w rest =>
    exact ⟨(" OR " ++ comparisons column (w :: rest)).toList, by
      rw [comparisons_cons_cons, String.append_assoc, String.toList_append]⟩

/-- Each comparison takes some text, so there is fuel for all of them. -/
theorem length_le_length_comparisons (vs : List Value) :
    vs.length ≤ (comparisons column vs).length := by
  induction vs with
  | nil => exact Nat.zero_le _
  | cons v rest ih =>
    cases rest with
    | nil =>
      rw [comparisons_singleton, String.length_append]
      exact Nat.le_add_left 1 _
    | cons w rest =>
      rw [comparisons_cons_cons, String.length_append, String.length_append, List.length_cons]
      have hMark : " OR ".length = 4 := rfl
      omega

end Text

-- ---------------------------------------------------------------------------
-- Reading a membership
-- ---------------------------------------------------------------------------

namespace Predicate

section Reading

variable (column : String)

theorem dropPrefix?_append (cs rest : List Char) : (cs ++ rest).dropPrefix? cs = some rest :=
  List.dropPrefix?_append_of_beq rest (beq_self_eq_true cs)

theorem dropPrefix?_eq_none {cs mark : List Char} (h : ¬ mark <+: cs) :
    cs.dropPrefix? mark = none := by
  rw [Option.eq_none_iff_forall_ne_some]
  intro rest hSome
  obtain ⟨mark', rfl, hMark⟩ := List.dropPrefix?_eq_some_iff.mp hSome
  rw [eq_of_beq hMark] at h
  exact h (List.prefix_append ..)

/-- No comparison begins with a parenthesis before another one of the same column. -/
theorem not_comparison_prefix_paren (rest : List Char) :
    ¬ (column ++ " = ?").toList <+: '(' :: ((column ++ " = ?").toList ++ rest) := by
  rintro ⟨tail, hEq⟩
  have hSplit : (column.toList ++ [' ']) ++ ("= ?".toList ++ tail) =
      ('(' :: column.toList) ++ (" = ?".toList ++ rest) := by
    simpa using hEq
  have hShift : column.toList ++ [' '] = '(' :: column.toList :=
    List.append_inj_left hSplit (by simp)
  -- there would be as many blanks in the column as in the column and a blank
  have hBlanks := congrArg (List.count ' ') hShift
  simp at hBlanks

theorem not_comparison_prefix_never : ¬ (column ++ " = ?").toList <+: "1 = 0".toList := by
  intro h
  have hMark : '?' ∈ (column ++ " = ?").toList := by simp
  exact absurd (h.subset hMark) (by decide)

/-- A comparison takes the next value. -/
theorem read?_comparison {rest : List Char} (h : ¬ " AND ".toList <+: rest) (bound : Nat)
    (v : Value) (vs : List Value) :
    read? column (bound + 2) .conjunction ((column ++ " = ?").toList ++ rest) (v :: vs) =
      some (equals v, rest, vs) := by
  have hFactor : read? column (bound + 1) .factor ((column ++ " = ?").toList ++ rest) (v :: vs) =
      some (equals v, rest, vs) := by
    rw [read?, dropPrefix?_append]
  rw [read?, hFactor]
  simp only [Option.bind_eq_bind, Option.bind_some, dropPrefix?_eq_none h]

/-- Comparisons in parentheses take the values one after another. -/
theorem read?_comparisons (v : Value) (rest : List Value) (bound : Nat) (tail : List Char) :
    read? column (bound + rest.length + 3) .disjunction
      ((comparisons column (v :: rest)).toList ++ ')' :: tail) (v :: rest) =
        some (anyOf (v :: rest), ')' :: tail, []) := by
  induction rest generalizing v with
  | nil =>
    have hAnd : ¬ " AND ".toList <+: ')' :: tail := by simp
    have hOr : ¬ " OR ".toList <+: ')' :: tail := by simp
    rw [comparisons_singleton, List.length_nil, read?, read?_comparison column hAnd]
    simp only [Option.bind_eq_bind, Option.bind_some, dropPrefix?_eq_none hOr]
    rfl
  -- every further comparison takes one more of the fuel
  | cons w rest ih =>
    have hAnd : ¬ " AND ".toList <+:
        " OR ".toList ++ ((comparisons column (w :: rest)).toList ++ ')' :: tail) := by simp
    rw [comparisons_cons_cons, String.toList_append, String.toList_append, List.append_assoc,
      List.append_assoc, List.length_cons, ← Nat.add_assoc, read?,
      read?_comparison column hAnd]
    simp only [Option.bind_eq_bind, Option.bind_some, dropPrefix?_append, ih]
    rfl

/-- A factor that nothing follows is the whole predicate. -/
theorem read?_of_factor {bound : Nat} {cs : List Char} {vs : List Value} {p : Predicate}
    (h : read? column bound .factor cs vs = some (p, [], [])) :
    read? column (bound + 2) .disjunction cs vs = some (p, [], []) := by
  rw [read?, read?, h]
  rfl

/-- A membership is read as it is meant. -/
theorem ofSql?_membership (vs : List Value) :
    ofSql? column (membership column vs) = some (anyOf vs) := by
  cases vs with
  | nil =>
    have hFactor : read? column 16 .factor "1 = 0".toList [] = some (never, [], []) := by
      rw [read?, dropPrefix?_eq_none (not_comparison_prefix_never column)]
      rfl
    have hRead : read? column (3 * "1 = 0".length + 3) .disjunction "1 = 0".toList [] =
        some (never, [], []) := read?_of_factor column hFactor
    rw [ofSql?, membership, Sql.ofText, hRead]
    rfl
  | cons v rest =>
    have hText : (membership column (v :: rest)).text.toList =
        '(' :: ((comparisons column (v :: rest)).toList ++ [')']) := by
      simp [membership]
    obtain ⟨more, hFirst⟩ := exists_toList_comparisons column v rest
    -- the text is longer than the list, so its length is fuel enough
    obtain ⟨n, hBound⟩ : ∃ n, 3 * (membership column (v :: rest)).text.length + 3 =
        n + rest.length + 3 + 1 + 2 := by
      have hValues := length_le_length_comparisons column (v :: rest)
      have hLength : (membership column (v :: rest)).text.length =
          (comparisons column (v :: rest)).length + 2 := by
        rw [← String.length_toList, hText]
        simp [String.length_toList]
      rw [List.length_cons] at hValues
      exact ⟨3 * (comparisons column (v :: rest)).length - rest.length + 3, by omega⟩
    have hFactor : read? column (n + rest.length + 3 + 1) .factor
        (membership column (v :: rest)).text.toList (v :: rest) =
          some (anyOf (v :: rest), [], []) := by
      -- with a bracket in front it is neither a comparison nor what never holds
      have hNone := not_comparison_prefix_paren column (more ++ [')'])
      rw [← List.append_assoc, ← hFirst, ← hText] at hNone
      have hNever : ¬ "1 = 0".toList <+:
          '(' :: ((comparisons column (v :: rest)).toList ++ [')']) := by simp
      have hOpen : ('(' :: ((comparisons column (v :: rest)).toList ++ [')'])).dropPrefix? ['('] =
          some ((comparisons column (v :: rest)).toList ++ [')']) := dropPrefix?_append ['('] _
      have hClose : [')'].dropPrefix? [')'] = some [] := rfl
      rw [read?, dropPrefix?_eq_none hNone, hText]
      simp only [dropPrefix?_eq_none hNever, hOpen, Option.bind_eq_bind, Option.bind_some,
        read?_comparisons, hClose]
    have hParams : (membership column (v :: rest)).params = v :: rest := rfl
    rw [ofSql?, hBound, hParams, read?_of_factor column hFactor]

end Reading

end Predicate

-- ---------------------------------------------------------------------------
-- What phrases write
-- ---------------------------------------------------------------------------

namespace State

variable {t : Tree} {d : Dialect} {s : State}

/-- How the target of a predicate is referred to. -/
def refers (s : State) (d : Dialect) (target : Target) : String :=
  s.reference d (target.column.getD s.node.entity.primaryKey) target.comparison

theorem write_id (s : State) : s.write id = s := by
  have hModify : s.written.modify id s.current = s.written := by cases s.current <;> rfl
  rw [write, hModify]

/-- Two writes to the same accumulator are one. -/
theorem write_write (s : State) (f g : Sql → Sql) :
    (s.write f).write g = s.write fun q => g (f q) := by
  unfold write
  cases s.current <;> rfl

/-- Whatever has been written, a phrase writes its SQL right after it and changes nothing
else. -/
def Adds (t : Tree) (d : Dialect) (s : State) (phrase : Phrase) (q : Sql) : Prop :=
  ∀ f, (s.write f).run t d phrase = .ok (s.write fun before => (f before).append q)

namespace Adds

variable {first second : Phrase} {q r : Sql}

theorem run_eq (h : Adds t d s first q) : s.run t d first = .ok (s.write (·.append q)) := by
  have hRun := h id
  rw [write_id] at hRun
  exact hRun

/-- Phrases one after another write one after another. -/
theorem append (h : Adds t d s first q) (h' : Adds t d s second r) :
    Adds t d s (first ++ second) (q.append r) := by
  intro f
  rw [run_append, h f]
  show (s.write fun before => (f before).append q).run t d second = _
  rw [h']
  simp only [Sql.append, String.append_assoc, List.append_assoc]

end Adds

theorem adds_text (text : String) : Adds t d s [.text text] (.ofText text) := fun f =>
  congrArg Except.ok (s.write_write f _)

theorem adds_param (v : Value) : Adds t d s [.param v] (.bound v) := fun f =>
  congrArg Except.ok (s.write_write f _)

theorem adds_target (target : Target) :
    Adds t d s [target.instruction] (.ofText (s.refers d target)) := by
  intro f
  unfold Target.instruction refers
  cases target.column with
  | none => exact congrArg Except.ok (s.write_write f _)
  | some name => exact congrArg Except.ok (s.write_write f _)

/-- A target and a value add a comparison. -/
theorem adds_equals (target : Target) (v : Value) :
    Adds t d s (target.compare .eq v) ⟨s.refers d target ++ " = ?", [v]⟩ := by
  have hParts : ((Sql.ofText (s.refers d target)).append (.ofText " = ")).append (.bound v) =
      ⟨s.refers d target ++ " = ?", [v]⟩ := by
    have hMark : " = ?" = " = " ++ "?" := by decide
    rw [hMark, ← String.append_assoc]
    rfl
  rw [← hParts]
  exact ((adds_target target).append (adds_text " = ")).append (adds_param v)

/-- A target and some values add a comparison for each, joined by `OR`. -/
theorem adds_equalsOneOf (target : Target) (v : Value) (rest : List Value) :
    Adds t d s (target.equalsOneOf (v :: rest))
      ⟨comparisons (s.refers d target) (v :: rest), v :: rest⟩ := by
  induction rest generalizing v with
  | nil =>
    rw [comparisons_singleton]
    exact adds_equals target v
  | cons w rest ih =>
    have h := ((adds_equals target v).append (adds_text " OR ")).append (ih w)
    rw [comparisons_cons_cons]
    exact h

/-- A membership in a list is written as one comparison for each of its values. -/
theorem adds_isIn (target : Target) (values : Option (List Value)) :
    Adds t d s (target.isIn values) (membership (s.refers d target) (values.getD [])) := by
  unfold Target.isIn
  cases values.getD [] with
  | nil => exact adds_text "1 = 0"
  | cons v rest =>
    have hParts : ((Sql.ofText "(").append
        ⟨comparisons (s.refers d target) (v :: rest), v :: rest⟩).append (.ofText ")") =
          membership (s.refers d target) (v :: rest) := by
      simp only [Sql.append, Sql.ofText, List.nil_append, List.append_nil]
      rfl
    show Adds t d s (Phrase.opening ++ target.equalsOneOf (v :: rest) ++ Phrase.closing) _
    rw [← hParts]
    exact ((adds_text "(").append (adds_equalsOneOf target v rest)).append (adds_text ")")

/-- A membership in an array is written as the dialect spells it. -/
theorem run_inArray (target : Target) (v : Value) (rest : List Value) :
    s.run t d (target.inArray (v :: rest)) =
      .ok (s.write fun q => (q.append (.ofText (s.refers d target))).splice
        ⟨d.inArray, [.list (v :: rest)]⟩) := by
  show s.run t d ([target.instruction] ++ [.arrayParam (v :: rest)]) = _
  rw [run_append, (adds_target target).run_eq]
  exact congrArg Except.ok (s.write_write _ _)

end State

-- ---------------------------------------------------------------------------
-- Membership
-- ---------------------------------------------------------------------------

/-- What is there with a membership in an array after it: the column as the dialect
compares it with an array, which is bound as one value. -/
def Sql.withArrayMembership (column inArray : String) (before : Sql) : List Value → Sql
  | [] => ⟨before.text ++ "1 = 0", before.params⟩
  | vs =>
    ⟨joinText (before.text ++ column) (Text.trim inArray), before.params ++ [.list vs]⟩

namespace State

variable {t : Tree} {d : Dialect}

/-- A membership in a list is written after what is there and binds its values. -/
theorem exists_run_isIn (s : State) (target : Target) (values : Option (List Value)) :
    ∃ s', s.run t d (target.isIn values) = .ok s' ∧
      s.Writes s'
        ⟨(s.written.get s.current).text ++
            (membership (s.refers d target) (values.getD [])).text,
          (s.written.get s.current).params ++ values.getD []⟩ := by
  have hParams : ∀ (column : String) vs, (membership column vs).params = vs := by
    intro column vs
    cases vs <;> rfl
  have hWrites := s.writes_write
    (·.append (membership (s.refers d target) (values.getD [])))
  rw [Sql.append, hParams] at hWrites
  exact ⟨_, (adds_isIn target values).run_eq, hWrites⟩

/-- So is a membership in an array, which is bound as one value. -/
theorem exists_run_inArray (s : State) (target : Target) (items : List Value) :
    ∃ s', s.run t d (target.inArray items) = .ok s' ∧
      s.Writes s' ((s.written.get s.current).withArrayMembership (s.refers d target) d.inArray
        items) := by
  cases items with
  -- nothing is in an empty array, which is not even bound
  | nil => exact ⟨_, (adds_text "1 = 0").run_eq, s.writes_writeText "1 = 0"⟩
  | cons v rest =>
    have hSql : ∀ q : Sql,
        (q.append (.ofText (s.refers d target))).splice ⟨d.inArray, [.list (v :: rest)]⟩ =
          q.withArrayMembership (s.refers d target) d.inArray (v :: rest) := by
      intro q
      simp only [Sql.splice, Sql.append, Sql.ofText, List.append_nil]
      rfl
    have hWrites := s.writes_write fun q =>
      (q.append (.ofText (s.refers d target))).splice ⟨d.inArray, [.list (v :: rest)]⟩
    rw [hSql] at hWrites
    exact ⟨_, run_inArray target v rest, hWrites⟩

end State

/--
**To be one of the values is to be a member.** A predicate that looks for a column in a
list adds one comparison for each of the values to the text that has been written, in
parentheses and with `OR` between them, and binds these values in their order; no list and
an empty list add a predicate that nothing meets and bind nothing. Read as a formula, what
is added is true of a column exactly if it equals one of the values. Looking for the column
in an array binds the list as one value, and an empty one not at all. Neither changes
anything but the current accumulator, and what has failed before still fails.
-/
theorem Target.isIn_membership (t : Tree) (d : Dialect) (before : List Instruction)
    (target : Target) (values : Option (List Value)) (items : List Value) :
    (∀ s, (State.start t).run t d before = .ok s →
      (∃ s', (State.start t).run t d (before ++ target.isIn values) = .ok s' ∧
        s.Writes s'
          ⟨(s.written.get s.current).text ++
              (membership (s.refers d target) (values.getD [])).text,
            (s.written.get s.current).params ++ values.getD []⟩) ∧
      ∃ s', (State.start t).run t d (before ++ target.inArray items) = .ok s' ∧
        s.Writes s' ((s.written.get s.current).withArrayMembership (s.refers d target) d.inArray
          items)) ∧
    (∀ e, (State.start t).run t d before = .error e →
      (State.start t).run t d (before ++ target.isIn values) = .error e ∧
      (State.start t).run t d (before ++ target.inArray items) = .error e) ∧
    ∀ column, ∃ p, Predicate.ofSql? column (membership column (values.getD [])) = some p ∧
      ∀ equal, p.Holds equal ↔ ∃ v ∈ values.getD [], equal v := by
  refine ⟨fun s hBefore => ?_, fun e hBefore => ?_, fun column => ?_⟩
  · rw [State.run_append, State.run_append, hBefore]
    exact ⟨s.exists_run_isIn target values, s.exists_run_inArray target items⟩
  · rw [State.run_append, State.run_append, hBefore]
    exact ⟨rfl, rfl⟩
  · exact ⟨_, Predicate.ofSql?_membership column _, fun equal => Predicate.holds_anyOf equal _⟩

end SqlPlan
