import SqlPlan.Proofs.Compile.Outcome
import SqlPlan.Proofs.Sql.Closed

/-!
# SqlPlan — a dialect that shows what it is handed

A dialect that builds queries in a way of its own is handed the whole tree for them,
with the values that its joins bind and the entities that are fetched lazily. What
the usual queries do not show, its queries may. The simplest such dialect builds all
of them as usual and ends each with a comment on the tree:

* `Dialect.noting` — the dialect, for any comment;
* `compile_noting_initialQuery`, `compile_noting_fromQuery`, `compile_noting_page` —
  the comment ends whatever is compiled, for no trimming goes past it;
* `compile_noting_ne` — so trees that are queried alike as usual are told apart by it.
-/

namespace SqlPlan

-- ---------------------------------------------------------------------------
-- Texts that are trimmed already
-- ---------------------------------------------------------------------------

namespace Text

/-- Trimming stops at a first and a last character that are not blank. -/
theorem trimBlanks_eq_self {text : List Char} (hFirst : ∀ c ∈ text.head?, isBlank c = false)
    (hLast : ∀ c ∈ text.getLast?, isBlank c = false) : trimBlanks text = text := by
  have hDrop : ∀ cs : List Char, (∀ c ∈ cs.head?, isBlank c = false) →
      cs.dropWhile isBlank = cs := by
    intro cs h
    cases cs with
    | nil => rfl
    | cons c rest => exact List.dropWhile_cons_of_neg (by simp [h c rfl])
  rw [trimBlanks, hDrop text hFirst, trimEnd, hDrop, List.reverse_reverse]
  rwa [List.head?_reverse]

end Text

/-- A fragment that is trimmed already is all of a query that nothing else is written to. -/
theorem Sql.trimmed_splice_empty {q : Sql} (h : Text.trim q.text = q.text) :
    (({} : Sql).splice q).trimmed = q := by
  have hJoin : joinText "" q.text = q.text := by
    unfold joinText
    split
    · rename_i hEmpty
      exact hEmpty.symm
    · rw [if_pos (Or.inl rfl), String.empty_append]
  rw [splice, trimmed, h, hJoin, h, List.nil_append]

-- ---------------------------------------------------------------------------
-- The dialect
-- ---------------------------------------------------------------------------

/-- A comment with a note in it. -/
def comment (note : String) : String := " /* " ++ note ++ " */"

/-- A dialect that ends each of its queries with a note on the tree. -/
def Dialect.noting (note : Tree → String) : Dialect :=
  { Dialect.sqlite with
    baseQuery := fun t => t.select.append (.ofText (comment (note t)))
    fromQuery := fun t => t.fromClause.append (.ofText (comment (note t)))
    pageQuery := fun c =>
      { c.pageQuery Dialect.sqlite.range with
        text := (c.pageQuery Dialect.sqlite.range).text ++ comment (note c.tree) }
    countQuery := fun c => c.countQuery.append (.ofText (comment (note c.tree))) }

/-- A comment ends a text for good, if it does not begin with a blank. -/
theorem trim_append_comment {text : String} {first : Char}
    (hHead : text.toList.head? = some first) (hFirst : Text.isBlank first = false)
    (note : String) : Text.trim (text ++ comment note) = text ++ comment note := by
  have hLast : (text ++ comment note).toList.getLast? = some '/' := by
    simp only [comment, String.toList_append, List.getLast?_append]
    rfl
  rw [Text.trim, Text.trimBlanks_eq_self, String.ofList_toList]
  · rw [String.toList_append, List.head?_append, hHead]
    rintro c ⟨⟩
    exact hFirst
  · rw [hLast]
    rintro c ⟨⟩
    rfl

theorem Tree.head?_fromClause (t : Tree) : t.fromClause.text.toList.head? = some 'F' := by
  rw [fromClause]
  unfold followedBy
  split <;> simp only [String.toList_append, List.head?_append] <;> rfl

theorem Tree.head?_select (t : Tree) : t.select.text.toList.head? = some 'S' := by
  rw [select]
  simp only [String.toList_append, List.head?_append]
  rfl

/-- A query that is trimmed already is all that an instruction to begin with it writes. -/
theorem compile_begun_alone {t : Tree} {d : Dialect} {i : Instruction} {q : Sql}
    (hBegun : i = .initialQuery ∧ d.baseQuery t = q ∨ i = .fromQuery ∧ d.fromQuery t = q)
    (hTrim : Text.trim q.text = q.text) : compile t d false [i] = .ok (.plain q) := by
  have hResult : compile t d false [i] = .ok (.plain (({} : Sql).splice q).trimmed) := by
    rw [compile_eq]
    rcases hBegun with ⟨rfl, rfl⟩ | ⟨rfl, rfl⟩ <;> rfl
  rw [hResult, Sql.trimmed_splice_empty hTrim]

section Compiling

variable (note : Tree → String) (t : Tree)

/-- The whole query for a tree ends in the comment. -/
theorem compile_noting_initialQuery :
    compile t (.noting note) false [.initialQuery] =
      .ok (.plain (t.select.append (.ofText (comment (note t))))) :=
  compile_begun_alone (.inl ⟨rfl, rfl⟩) (trim_append_comment t.head?_select (by decide) _)

/-- So does the FROM clause. -/
theorem compile_noting_fromQuery :
    compile t (.noting note) false [.fromQuery] =
      .ok (.plain (t.fromClause.append (.ofText (comment (note t))))) :=
  compile_begun_alone (.inr ⟨rfl, rfl⟩) (trim_append_comment t.head?_fromClause (by decide) _)

/-- So do the two queries of a page. -/
theorem compile_noting_page {w : Window} (h : w.start ≤ w.stop) :
    ∃ page count, compile t (.noting note) false [.pagedInitialQuery w] =
        .ok (.paged page count w) ∧
      page.text = (Criteria.pageQuery { tree := t } Dialect.sqlite.range).text ++
        comment (note t) ∧
      count.text = (Criteria.countQuery { tree := t }).text ++ comment (note t) := by
  -- the one rule that a page alone can break is that of its bounds
  have hFault : firstFault? t [.pagedInitialQuery w] = none := by
    have hOrder : ¬ w.stop < w.start := UInt64.not_lt.mpr h
    rw [← List.nil_append [Instruction.pagedInitialQuery w], firstFault?_concat]
    simp [Site.fault?, Instruction.fault?, firstFault?, hOrder]
  have hRefusal : refusal? t [.pagedInitialQuery w] = none := by
    rw [refusal?, hFault]
    rfl
  have hWindow : (reading t (.noting note) [.pagedInitialQuery w]).window = some w := rfl
  have hCriteria : (reading t (.noting note) [.pagedInitialQuery w]).criteria t =
      { tree := t } := rfl
  rw [compile_eq, hRefusal]
  simp only [State.result, hWindow, hCriteria]
  exact ⟨_, _, rfl, rfl, rfl⟩

end Compiling

/-- Texts that are the same up to a comment differ if their notes do. -/
theorem append_comment_ne {text text' note note' : String} (hText : text = text')
    (hNote : note ≠ note') : text ++ comment note ≠ text' ++ comment note' := by
  intro hSame
  have hChars := congrArg String.toList hSame
  simp only [hText, comment, String.toList_append, List.append_assoc,
    List.append_cancel_left_eq, List.append_cancel_right_eq] at hChars
  exact hNote (String.toList_injective hChars)

/-- Trees that are queried alike as usual are told apart by a note in which they
differ, however the query begins. -/
theorem compile_noting_ne {note : Tree → String} {t t' : Tree} (hNote : note t ≠ note t')
    (hSelect : t.select.text = t'.select.text)
    (hFrom : t.fromClause.text = t'.fromClause.text)
    (hPage : (Criteria.pageQuery { tree := t } Dialect.sqlite.range).text =
      (Criteria.pageQuery { tree := t' } Dialect.sqlite.range).text)
    (hCount : (Criteria.countQuery { tree := t }).text =
      (Criteria.countQuery { tree := t' }).text) :
    (∀ i ∈ [Instruction.initialQuery, .fromQuery], ∃ q q',
      compile t (.noting note) false [i] = .ok (.plain q) ∧
      compile t' (.noting note) false [i] = .ok (.plain q') ∧ q.text ≠ q'.text) ∧
    ∃ page page' count count' w,
      compile t (.noting note) false [.pagedInitialQuery w] = .ok (.paged page count w) ∧
      compile t' (.noting note) false [.pagedInitialQuery w] = .ok (.paged page' count' w) ∧
      page.text ≠ page'.text ∧ count.text ≠ count'.text := by
  constructor
  · intro i hi
    rcases List.mem_pair.mp hi with rfl | rfl
    · exact ⟨_, _, compile_noting_initialQuery note t, compile_noting_initialQuery note t',
        append_comment_ne hSelect hNote⟩
    · exact ⟨_, _, compile_noting_fromQuery note t, compile_noting_fromQuery note t',
        append_comment_ne hFrom hNote⟩
  · have hBounds : (⟨0, 0⟩ : Window).start ≤ (⟨0, 0⟩ : Window).stop := by decide
    obtain ⟨page, count, hc, hPageText, hCountText⟩ := compile_noting_page note t hBounds
    obtain ⟨page', count', hc', hPageText', hCountText'⟩ := compile_noting_page note t' hBounds
    refine ⟨page, page', count, count', _, hc, hc', ?_, ?_⟩
    · rw [hPageText, hPageText']
      exact append_comment_ne hPage hNote
    · rw [hCountText, hCountText']
      exact append_comment_ne hCount hNote

end SqlPlan
