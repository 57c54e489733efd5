import SqlPlan.Proofs.Compile.Outcome
import SqlPlan.Proofs.Paging

/-!
# SqlPlan — fragments that stand for themselves

A fragment of SQL comes with its own placeholders and parameters, which are
counted before it is written. It is written trimmed, and what follows it should
be read as if it followed any other text. Whether it is hangs on the blanks
that trimming takes away: a line comment is closed by one.

* `IsSelfContained` — a text that ends outside quotes and comments;
* `isSelfContained_trim_iff` — trimming opens nothing but a line comment;
* `isSelfContained_splice_iff` — spliced, a fragment ends as it does trimmed;
* `placeholders_append_bound` — which decides whether a placeholder after it
  counts;
* `Sql.StaysSelfContained` — what follows a fragment is read outside quotes and
  comments, wherever a fragment may be written.
-/

namespace SqlPlan

-- ---------------------------------------------------------------------------
-- Regions and blanks
-- ---------------------------------------------------------------------------

namespace Region

/-- From code, only a quote opens a quoted text. -/
theorem isQuote_of_afterCode {c mark : Char} (h : afterCode c = quoted mark) :
    isQuote mark = true := by
  unfold afterCode at h
  split at h
  · rename_i hQuote
    rwa [← quoted.inj h]
  · split at h
    · exact Region.noConfusion h
    · split at h <;> exact Region.noConfusion h

/-- Only a quote opens quoted text. -/
theorem isQuote_of_next {r : Region} {c mark : Char} (h : r.next c = quoted mark) :
    r = quoted mark ∨ isQuote mark = true := by
  cases r with
  | code => exact Or.inr (isQuote_of_afterCode h)
  | minus | slash =>
    rw [next] at h
    split at h
    · exact Region.noConfusion h
    · exact Or.inr (isQuote_of_afterCode h)
  | quoted other =>
    rw [next] at h
    split at h
    · exact Region.noConfusion h
    · exact Or.inl h
  | lineComment | blockComment =>
    rw [next] at h
    split at h <;> exact Region.noConfusion h
  | blockStar =>
    rw [next] at h
    split at h
    · exact Region.noConfusion h
    · split at h <;> exact Region.noConfusion h

/-- Whatever is quoted was opened by a quote. -/
theorem isQuote_of_after {text : List Char} {mark : Char} (h : code.after text = quoted mark) :
    isQuote mark = true := by
  induction text using List.reverseRecOn generalizing mark with
  | nil => exact Region.noConfusion h
  | append_singleton text c ih =>
    rw [after_append] at h
    rcases isQuote_of_next h with hBefore | hQuote
    · exact ih hBefore
    · exact hQuote

theorem not_isQuote_of_isBlank {c : Char} (h : Text.isBlank c = true) : isQuote c ≠ true := by
  intro hQuote
  simp only [isQuote, Bool.or_eq_true, decide_eq_true_eq] at hQuote
  rcases hQuote with (rfl | rfl) | rfl <;> exact absurd h (by decide)

/-- Of what may be open, a blank closes a line comment only. -/
theorem isCode_or_lineComment_of_next {text : List Char} {c : Char} (hc : Text.isBlank c = true)
    (h : ((code.after text).next c).isCode = true ∨ (code.after text).next c = lineComment) :
    (code.after text).isCode = true ∨ code.after text = lineComment := by
  have hStar : c ≠ '*' := Text.ne_of_isBlank hc (by decide)
  have hSlash : c ≠ '/' := Text.ne_of_isBlank hc (by decide)
  cases hRegion : code.after text with
  | code | minus | slash => exact Or.inl rfl
  | lineComment => exact Or.inr rfl
  -- a blank closes neither a quote nor a block comment
  | quoted mark =>
    have hMark : c ≠ mark := by
      rintro rfl
      exact not_isQuote_of_isBlank hc (isQuote_of_after hRegion)
    rw [hRegion, next, if_neg hMark] at h
    simp [isCode] at h
  | blockComment =>
    rw [hRegion, next, if_neg hStar] at h
    simp [isCode] at h
  | blockStar =>
    rw [hRegion, next, if_neg hSlash, if_neg hStar] at h
    simp [isCode] at h

/-- So do several. -/
theorem isCode_or_lineComment_of_blanks {text blanks : List Char}
    (hBlank : ∀ c ∈ blanks, Text.isBlank c = true)
    (h : (code.after (text ++ blanks)).isCode = true ∨
      code.after (text ++ blanks) = lineComment) :
    (code.after text).isCode = true ∨ code.after text = lineComment := by
  induction blanks using List.reverseRecOn with
  | nil => rwa [List.append_nil] at h
  | append_singleton blanks c ih =>
    rw [← List.append_assoc, after_append] at h
    have hc := hBlank c (List.mem_append_right _ (List.mem_singleton_self c))
    exact ih (fun x hx => hBlank x (List.mem_append_left _ hx))
      (isCode_or_lineComment_of_next hc h)

/-- After a blank, what is outside quotes and comments has no mark open. -/
theorem after_eq_code_of_blank {text : List Char} {c : Char} (hc : Text.isBlank c = true)
    (h : (code.after (text ++ [c])).isCode = true) : code.after (text ++ [c]) = code := by
  rw [after_append] at h ⊢
  rcases isCode_or_lineComment_of_next hc (Or.inl h) with hCode | hLine
  · exact next_of_isBlank hCode hc
  · rw [hLine] at h ⊢
    by_cases hNewline : c = '\n'
    · exact if_pos hNewline
    · simp [next, hNewline, isCode] at h

end Region

-- ---------------------------------------------------------------------------
-- Self-contained texts
-- ---------------------------------------------------------------------------

/-- Read from outside quotes and comments, the text ends outside of them. -/
def IsSelfContained (text : String) : Prop := (Region.code.after text.toList).isCode = true

instance (text : String) : Decidable (IsSelfContained text) := instDecidableEqBool _ _

/-- Read from outside quotes and comments, the text ends in a line comment. -/
def EndsInLineComment (text : String) : Prop := Region.code.after text.toList = .lineComment

instance (text : String) : Decidable (EndsInLineComment text) := instDecidableEqRegion _ _

/-- A self-contained text ends outside, after its own placeholders. -/
theorem IsSelfContained.endsOutside {text : String} (h : IsSelfContained text) :
    EndsOutside text (countPlaceholders text) :=
  ⟨h, rfl⟩

theorem EndsOutside.isSelfContained {text : String} {n : Nat} (h : EndsOutside text n) :
    IsSelfContained text :=
  h.outside

/-- Trimming takes away the blank that closes a line comment, and opens nothing
else. -/
theorem isSelfContained_trim_iff {text : String} (h : IsSelfContained text) :
    IsSelfContained (Text.trim text) ↔ ¬ EndsInLineComment (Text.trim text) := by
  constructor
  · intro hTrim hLine
    rw [IsSelfContained, hLine] at hTrim
    exact Bool.noConfusion hTrim
  · intro hLine
    obtain ⟨lead, tail, hText, hLead, hTail⟩ := Text.exists_blanks_trimBlanks text.toList
    have hTrimmed : (Text.trim text).toList = Text.trimBlanks text.toList := String.toList_ofList
    rw [EndsInLineComment, hTrimmed] at hLine
    rw [IsSelfContained, hText, List.append_assoc, Region.after_append,
      Region.after_blanks hLead] at h
    rw [IsSelfContained, hTrimmed]
    exact (Region.isCode_or_lineComment_of_blanks hTail (Or.inl h)).resolve_right hLine

/-- Before a fragment, a self-contained text leaves no mark open. -/
theorem after_joinText {text fragment : String} (h : IsSelfContained text)
    (hFragment : fragment ≠ "") :
    Region.code.after (Sql.joinText text fragment).toList =
      Region.code.after fragment.toList := by
  rw [Sql.joinText, if_neg hFragment]
  split
  · rename_i hBlank
    -- the text is empty or ends in a blank, which has closed whatever was open
    have hCode : Region.code.after text.toList = .code := by
      rcases hBlank with rfl | hBlank
      · rfl
      · rw [Text.endsBlank, Option.any_eq_true] at hBlank
        obtain ⟨c, hLast, hc⟩ := hBlank
        obtain ⟨before, hText⟩ := List.getLast?_eq_some_iff.mp hLast
        rw [IsSelfContained, hText] at h
        rw [hText]
        exact Region.after_eq_code_of_blank hc h
    rw [String.toList_append, Region.after_append, hCode]
  -- else the space that is put between them does
  · have hSpace : Region.code.after (text ++ " ").toList = .code := by
      rw [String.toList_append, Region.after_append]
      exact Region.next_of_isBlank h (by decide)
    rw [String.toList_append, Region.after_append, hSpace]

/-- Spliced after a self-contained text, a fragment ends as it does trimmed. -/
theorem isSelfContained_splice_iff {q fragment : Sql} (h : IsSelfContained q.text) :
    IsSelfContained (q.splice fragment).text ↔ IsSelfContained (Text.trim fragment.text) := by
  rw [Sql.text_splice]
  by_cases hEmpty : Text.trim fragment.text = ""
  · have hNothing : IsSelfContained "" := by decide
    rw [hEmpty, Sql.joinText, if_pos rfl]
    exact iff_of_true h hNothing
  · rw [IsSelfContained, after_joinText h hEmpty]
    exact Iff.rfl

/-- If it ends in a line comment trimmed, so does the text. -/
theorem endsInLineComment_splice {q fragment : Sql} (h : IsSelfContained q.text)
    (hTrim : EndsInLineComment (Text.trim fragment.text)) :
    EndsInLineComment (q.splice fragment).text := by
  have hText : Text.trim fragment.text ≠ "" := by
    intro hEmpty
    rw [hEmpty] at hTrim
    exact absurd hTrim (by decide)
  rw [EndsInLineComment, Sql.text_splice, after_joinText h hText]
  exact hTrim

/-- After a self-contained text a placeholder counts. -/
theorem placeholders_append_bound {q : Sql} (h : IsSelfContained q.text) (v : Value) :
    (q.append (.bound v)).placeholders = q.placeholders + 1 := by
  have hMark : EndsOutside "?" 1 := ⟨by decide, by decide⟩
  exact (h.endsOutside.append hMark (by decide)).count

/-- In a line comment it does not. -/
theorem placeholders_append_bound_of_lineComment {q : Sql} (h : EndsInLineComment q.text)
    (v : Value) : (q.append (.bound v)).placeholders = q.placeholders := by
  show countPlaceholders (q.text ++ "?") = countPlaceholders q.text
  rw [countPlaceholders_eq, String.toList_append, placeholdersFrom_append, h, countPlaceholders_eq]
  rfl

/-- A clause around a self-contained fragment is closed before what follows it. -/
theorem isSelfContained_clause {before opening fragment : String} (hBefore : IsSelfContained before)
    (hOpening : EndsInCode opening 0) (hFresh : startsFresh opening = true) (hText : opening ≠ "")
    (hFragment : IsSelfContained fragment) :
    IsSelfContained (before ++ Criteria.clause opening fragment ")") ∧
      IsSelfContained (before ++ Criteria.clause opening fragment "") := by
  have hBracket : EndsInCode ")" 0 := by decide
  have hClosed := Criteria.endsInCode_clause hOpening hFragment.endsOutside hBracket (by decide)
    (by decide)
  have hOpen := Criteria.endsOutside_clause hOpening hFragment.endsOutside
  exact
    ⟨(hBefore.endsOutside.append hClosed.endsOutside
        (Criteria.startsFresh_clause hFresh hText fragment ")")).isSelfContained,
      (hBefore.endsOutside.append hOpen
        (Criteria.startsFresh_clause hFresh hText fragment "")).isSelfContained⟩

-- ---------------------------------------------------------------------------
-- Fragments
-- ---------------------------------------------------------------------------

/-- Wherever a fragment may be written after a self-contained text, what
follows it is read outside quotes and comments. -/
structure Sql.StaysSelfContained (fragment : Sql) : Prop where
  trimmed    : IsSelfContained fragment.trimmed.text
  spliced    : ∀ q : Sql, IsSelfContained q.text → IsSelfContained (q.splice fragment).text
  /-- A parameter right after the fragment has its placeholder. -/
  param      : ∀ (t : Tree) (d : Dialect) (s s' : State) (v : Value),
    IsSelfContained (s.written.get s.current).text → s.step t d (.sql fragment) = .ok s' →
      ∃ s'', s'.step t d (.param v) = .ok s'' ∧
        (s''.written.get s''.current).placeholders =
          (s'.written.get s'.current).placeholders + 1
  filter     : ∀ (c : Criteria) (before : String), c.filter = fragment.text →
    IsSelfContained before →
      IsSelfContained (before ++ Criteria.clause " WHERE (" c.trimmed.filter ")")
  having     : ∀ (c : Criteria) (before : String), c.having = fragment.text →
    IsSelfContained before →
      IsSelfContained (before ++ Criteria.clause " HAVING " c.trimmed.having "")
  order      : ∀ (c : Criteria) (before : String), c.order = fragment.text →
    IsSelfContained before → IsSelfContained (before ++ c.trimmed.orderClause)
  pageFilter : ∀ (c : Criteria) (before : String), c.pageFilter = fragment.text →
    IsSelfContained before →
      IsSelfContained (before ++ Criteria.clause " WHERE (" c.trimmed.pageFilter ")")
  /-- The condition of a join stands in brackets after the columns it joins. -/
  condition  : ∀ (t : Tree) (n : Node) (l : Link) (q : Sql), n.link = some l →
    l.join.condition = some fragment.text → t.joinOf? n = some q →
      ∃ on, q.text = on ++ " AND (" ++ Text.trim fragment.text ++ ")" ∧
        (IsSelfContained on → IsSelfContained q.text)

namespace State

variable {t : Tree} {d : Dialect} {s s' : State}

/-- An accepted fragment is spliced into the current accumulator. -/
theorem get_of_step_sql {fragment : Sql} (h : s.step t d (.sql fragment) = .ok s') :
    s'.written.get s'.current = (s.written.get s.current).splice fragment := by
  rw [step_eq] at h
  split at h
  · cases h
  · rw [← Except.ok.inj h]
    exact Accumulators.get_modify_self s.written (Piece.fragment fragment).onto s.current

/-- A parameter is written at the end of the current accumulator. -/
theorem exists_step_param (t : Tree) (d : Dialect) (s : State) (v : Value) :
    ∃ s', s.step t d (.param v) = .ok s' ∧
      s'.written.get s'.current = (s.written.get s.current).append (.bound v) := by
  refine ⟨s.advance t d (.param v), by rw [step_eq]; rfl, ?_⟩
  exact Accumulators.get_modify_self s.written (Piece.verbatim (.bound v)).onto s.current

end State

/-- The condition of a join stands in brackets at its end. -/
theorem Tree.exists_text_joinOf? {t : Tree} {n : Node} {l : Link} {x : String} {q : Sql}
    (hLink : n.link = some l) (hCondition : l.join.condition = some x) (h : t.joinOf? n = some q) :
    ∃ on, q.text = on ++ " AND (" ++ Text.trim x ++ ")" := by
  unfold Tree.joinOf? at h
  rw [hLink, Option.bind_eq_bind, Option.bind_some, Option.bind_eq_bind,
    Option.bind_eq_some_iff] at h
  obtain ⟨p, -, h⟩ := h
  simp only [hCondition, Option.some.injEq] at h
  rw [← h]
  exact ⟨_, rfl⟩

namespace Sql

variable {fragment : Sql}

/-- All depends on the fragment in its trimmed form. -/
theorem staysSelfContained_of_trim (h : IsSelfContained (Text.trim fragment.text)) :
    fragment.StaysSelfContained where
  trimmed := h
  spliced q hq := (isSelfContained_splice_iff hq).mpr h
  -- a parameter is counted if the scanner is in code before its placeholder
  param t d s s' v hs hStep := by
    have hWritten := State.get_of_step_sql hStep
    obtain ⟨s'', hParam, hBound⟩ := State.exists_step_param t d s' v
    have hEnd : IsSelfContained (s'.written.get s'.current).text := by
      rw [hWritten]
      exact (isSelfContained_splice_iff hs).mpr h
    exact ⟨s'', hParam, by rw [hBound, placeholders_append_bound hEnd]⟩
  -- the clauses of a page close what they open around a fragment
  filter c before hText hBefore := by
    have hFragment : c.trimmed.filter = Text.trim fragment.text := congrArg Text.trim hText
    rw [hFragment]
    exact (isSelfContained_clause hBefore (by decide) (by decide) (by decide) h).1
  having c before hText hBefore := by
    have hFragment : c.trimmed.having = Text.trim fragment.text := congrArg Text.trim hText
    rw [hFragment]
    exact (isSelfContained_clause hBefore (by decide) (by decide) (by decide) h).2
  order c before hText hBefore := by
    have hFragment : c.trimmed.order = Text.trim fragment.text := congrArg Text.trim hText
    rw [Criteria.orderClause, hFragment]
    exact (isSelfContained_clause hBefore (by decide) (by decide) (by decide) h).2
  pageFilter c before hText hBefore := by
    have hFragment : c.trimmed.pageFilter = Text.trim fragment.text := congrArg Text.trim hText
    rw [hFragment]
    exact (isSelfContained_clause hBefore (by decide) (by decide) (by decide) h).1
  condition t n l q hLink hCondition hJoin := by
    obtain ⟨on, hText⟩ := Tree.exists_text_joinOf? hLink hCondition hJoin
    refine ⟨on, hText, fun hOn => ?_⟩
    have hAnd : EndsInCode " AND (" 0 := by decide
    have hBracket : EndsInCode ")" 0 := by decide
    have hOpen := hOn.endsOutside.append_code hAnd (by decide) (by decide)
    rw [hText]
    exact ((hOpen.append_outside h.endsOutside).append hBracket.endsOutside
      (by decide)).isSelfContained

end Sql

/--
**A fragment stays self-contained unless trimming opens a line comment.** What
follows a self-contained fragment in an accumulator, a clause or a join is read
outside quotes and comments, and a parameter after it has its placeholder, if
and only if no line comment of the fragment is closed by the blanks at its end.
If one is, no placeholder right after the fragment counts anywhere.
-/
theorem staysSelfContained_iff {fragment : Sql} (h : IsSelfContained fragment.text) :
    (fragment.StaysSelfContained ↔ ¬ EndsInLineComment (Text.trim fragment.text)) ∧
    (EndsInLineComment (Text.trim fragment.text) → ∀ (q : Sql) (v : Value),
      IsSelfContained q.text → ((q.splice fragment).append (.bound v)).placeholders =
        (q.splice fragment).placeholders) := by
  constructor
  · rw [← isSelfContained_trim_iff h]
    exact ⟨fun hStays => hStays.trimmed, Sql.staysSelfContained_of_trim⟩
  · intro hTrim q v hq
    exact placeholders_append_bound_of_lineComment (endsInLineComment_splice hq hTrim) v

/-- A condition on the primary key below a remark that has a line of its own. -/
def keyBelowRemark : Sql := ⟨"WHERE -- by key\no.id = ?\n", [.int 7]⟩

/-- A condition on the primary key that ends with a remark, and its line. -/
def keyBeforeRemark : Sql := ⟨"WHERE o.id = -- by key\n", []⟩

/-- A remark that a line break ends after the key, and one that only the line
break trimmed away would have ended: the value bound after the second has no
placeholder. -/
theorem staysSelfContained_remarks :
    IsSelfContained keyBelowRemark.text ∧ keyBelowRemark.StaysSelfContained ∧
      IsSelfContained keyBeforeRemark.text ∧ IsSelfContained "FROM orders o" ∧
      (((Sql.ofText "FROM orders o").splice keyBeforeRemark).append
          (.bound (.int 7))).placeholders =
        ((Sql.ofText "FROM orders o").splice keyBeforeRemark).placeholders := by
  have hBelow : IsSelfContained keyBelowRemark.text := by decide
  have hBefore : IsSelfContained keyBeforeRemark.text := by decide
  have hKept : ¬ EndsInLineComment (Text.trim keyBelowRemark.text) := by decide
  have hLost : EndsInLineComment (Text.trim keyBeforeRemark.text) := by decide
  have hFrom : IsSelfContained "FROM orders o" := by decide
  exact ⟨hBelow, (staysSelfContained_iff hBelow).1.mpr hKept, hBefore, hFrom,
    (staysSelfContained_iff hBefore).2 hLost (.ofText "FROM orders o") (.int 7) hFrom⟩

/-- Orders with nothing below them. -/
def Tree.ordersAlone : Tree := ⟨.ofDefinition "_" none 0 (.of "Order" "orders" "o"), []⟩

/-- A query for one order, whose key is written after the remark. -/
def queryAfterRemark : List Instruction := [.initialQuery, .sql keyBeforeRemark, .param (.int 7)]

/-- The newline that ends the remark is trimmed away, and the placeholder of
the parameter after it becomes part of the remark. -/
theorem not_staysSelfContained_keyBeforeRemark :
    ∃ q, IsSelfContained keyBeforeRemark.text ∧ ¬ keyBeforeRemark.StaysSelfContained ∧
      Tree.ofDefinition (.of "Order" "orders" "o") "_" = .ok .ordersAlone ∧
      compile .ordersAlone DialectKind.sqlite.dialect false queryAfterRemark = .ok (.plain q) ∧
      q.placeholders = 0 ∧ q.params.length = 1 := by
  have hTrim : ¬ IsSelfContained (Text.trim keyBeforeRemark.text) := by decide
  refine ⟨(reading .ordersAlone DialectKind.sqlite.dialect queryAfterRemark).written.main.trimmed,
    by decide, fun h => hTrim h.trimmed, rfl, ?_, by decide +kernel, rfl⟩
  rw [compile_eq]
  rfl

end SqlPlan
