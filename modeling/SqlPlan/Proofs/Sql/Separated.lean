import SqlPlan.Proofs.Sql.Lexeme

/-!
# SqlPlan — texts that may be set side by side

Two texts of SQL set side by side are not always read as each of them alone: the
first may leave a quote or a comment open, or end in a `-` that makes a comment of a
`-` after it. A text that does neither is separated from whatever follows it. What
counts is how the text ends as a whole, so this is said of its last lexeme, and found
again in the machine that reads it:

* `Separated` — the text ends outside quotes and comments, and not in a single `-` or
  `/`;
* `Lexeme.after_text`, `Cutting.after_eq` — the machine stands at the end of a text
  where its last lexeme alone would have left it;
* `separated_iff` — so a text is separated exactly if the machine is back in code;
* `Region.probe` — a text that is read differently from any other place, so no weaker
  condition would do.
-/

namespace SqlPlan

-- ---------------------------------------------------------------------------
-- Where lexemes lead
-- ---------------------------------------------------------------------------

namespace Lexeme

open Region

/-- The machine leaves quoted text at a doubled quote and comes back. -/
theorem after_quotedBody {mark : Char} (hMark : mark ∈ quotes) {body : List Char}
    (h : IsQuotedBody mark body) : (Region.quoted mark).after body = .quoted mark := by
  induction h with
  | nil => rfl
  | other hOther _ ih => rw [after_cons, next, if_neg hOther, ih]
  | doubled _ ih => rw [after_cons, after_cons, next, if_pos rfl, (read_quote hMark).1, ih]

theorem after_lineBody {body : List Char} (h : '\n' ∉ body) :
    Region.lineComment.after body = .lineComment := by
  induction body with
  | nil => rfl
  | cons c body ih =>
    rw [List.mem_cons, not_or] at h
    rw [after_cons, next, if_neg (Ne.symm h.1), ih h.2]

/-- A closed lexeme leads back to code. An open one does not, but nothing follows it.
A single character leads where it leads. -/
theorem after_text {l : Lexeme} {rest : List Char} (h : l.StandsBefore rest) :
    Region.code.after l.text = .code ∨
      (rest = [] ∧ (Region.code.after l.text).isCode = false) ∨ ∃ c, l = single c := by
  cases l with
  | quoted mark body closed =>
    obtain ⟨hMark, hBody, -, hOpen⟩ := h
    have hText : Region.code.after (quoted mark body closed).text =
        (Region.quoted mark).after (ending [mark] closed) := by
      rw [text, after_cons, (read_quote hMark).1, after_append, after_quotedBody hMark hBody]
    rw [hText]
    cases closed with
    | true => exact Or.inl (if_pos rfl)
    | false => exact Or.inr (Or.inl ⟨hOpen rfl, rfl⟩)
  | lineComment body closed =>
    obtain ⟨hBody, hOpen⟩ := h
    have hText : Region.code.after (lineComment body closed).text =
        Region.lineComment.after (ending ['\n'] closed) := by
      show Region.lineComment.after (body ++ ending ['\n'] closed) = _
      rw [after_append, after_lineBody hBody]
    rw [hText]
    cases closed with
    | true => exact Or.inl rfl
    | false => exact Or.inr (Or.inl ⟨hOpen rfl, rfl⟩)
  | blockComment body closed =>
    obtain ⟨hBody, hOpen⟩ := h
    have hInside := (tokensFrom_blockBody (Or.inl rfl) hBody []).1
    have hText : Region.code.after (blockComment body closed).text =
        (Region.blockComment.after body).after (ending ['*', '/'] closed) := by
      show Region.blockComment.after (body ++ ending ['*', '/'] closed) = _
      rw [after_append]
    rw [hText]
    cases closed with
    | true => exact Or.inl (by rcases hInside with hInside | hInside <;> rw [hInside] <;> rfl)
    | false =>
      refine Or.inr (Or.inl ⟨hOpen rfl, ?_⟩)
      rcases hInside with hInside | hInside <;> rw [hInside] <;> rfl
  | single c => exact Or.inr (Or.inr ⟨c, rfl⟩)

/-- A single character that opens no quoted text leaves a mark open at most. -/
theorem after_single {c : Char} {rest : List Char} (h : (single c).StandsBefore rest) :
    Region.code.after (single c).text =
      if c = '-' then .minus else if c = '/' then .slash else .code := by
  obtain ⟨hQuote, -, -⟩ := h
  exact if_neg fun hMark => hQuote (isQuote_iff.mp hMark)

/-- What follows a lexeme is read as if it stood alone. -/
theorem after_append_of_standsBefore {l : Lexeme} {rest : List Char} (h : l.StandsBefore rest)
    (hRest : rest ≠ []) : Region.code.after (l.text ++ rest) = Region.code.after rest := by
  rw [after_append]
  rcases after_text h with hCode | ⟨hNil, -⟩ | ⟨c, rfl⟩
  · rw [hCode]
  · exact absurd hNil hRest
  · obtain ⟨x, more, rfl⟩ := List.exists_cons_of_ne_nil hRest
    -- a single mark is remembered, but with this character it opens nothing
    have hFirst := after_single h
    obtain ⟨-, hDash, hSlash⟩ := h
    rw [hFirst, after_cons, after_cons]
    split
    · rename_i hc
      have hSame : Region.minus.next x = Region.code.next x :=
        if_neg fun hx => hDash ⟨hc, congrArg some hx⟩
      rw [hSame]
    · split
      · rename_i hc
        have hSame : Region.slash.next x = Region.code.next x :=
          if_neg fun hx => hSlash ⟨hc, congrArg some hx⟩
        rw [hSame]
      · rfl

end Lexeme

/-- At the end of a text the machine stands where the last lexeme alone would have
left it. -/
theorem Cutting.after_eq {text : List Char} {lexemes : List Lexeme} (h : Cutting text lexemes)
    (hText : text ≠ []) :
    ∃ l, lexemes.getLast? = some l ∧ l.StandsBefore [] ∧
      Region.code.after text = Region.code.after l.text := by
  induction h with
  | nil => exact absurd rfl hText
  | @cons l rest lexemes hFirst hRest ih =>
    cases hRest with
    | nil => exact ⟨l, rfl, hFirst, by rw [List.append_nil]⟩
    | @cons x more others hNext hMore =>
      have hRest : x.text ++ more ≠ [] := List.append_ne_nil_of_left_ne_nil x.text_ne_nil _
      obtain ⟨last, hLast, hStands, hAfter⟩ := ih hRest
      refine ⟨last, ?_, hStands, ?_⟩
      · rw [List.getLast?_cons_cons, hLast]
      · rw [Lexeme.after_append_of_standsBefore hFirst hRest, hAfter]

-- ---------------------------------------------------------------------------
-- Separated texts
-- ---------------------------------------------------------------------------

/-- Read from outside quotes and comments, the text ends outside of them, and its last
lexeme is not a single `-` or `/`. -/
structure Separated (text : String) : Prop where
  outside : (Region.code.after text.toList).isCode = true
  noDash  : ∀ lexemes, Cutting text.toList lexemes → lexemes.getLast? ≠ some (.single '-')
  noSlash : ∀ lexemes, Cutting text.toList lexemes → lexemes.getLast? ≠ some (.single '/')

/-- To the machine a text is separated if it leaves nothing open. -/
theorem separated_iff {text : String} :
    Separated text ↔ Region.code.after text.toList = .code := by
  constructor
  · intro h
    obtain ⟨lexemes, hCutting⟩ := exists_cutting text.toList
    by_cases hEmpty : text.toList = []
    · rw [hEmpty]
      rfl
    · obtain ⟨l, hLast, hStands, hAfter⟩ := hCutting.after_eq hEmpty
      have hOutside := h.outside
      rw [hAfter] at hOutside ⊢
      rcases Lexeme.after_text hStands with hCode | ⟨-, hOpen⟩ | ⟨c, rfl⟩
      · exact hCode
      · rw [hOpen] at hOutside
        simp at hOutside
      · have hDash : c ≠ '-' := fun hc => h.noDash _ hCutting (hc ▸ hLast)
        have hSlash : c ≠ '/' := fun hc => h.noSlash _ hCutting (hc ▸ hLast)
        rw [Lexeme.after_single hStands, if_neg hDash, if_neg hSlash]
  · intro h
    -- a text whose last lexeme is a mark stands behind that mark
    have hNot : ∀ c, Region.code.after [c] ≠ .code → ∀ lexemes, Cutting text.toList lexemes →
        lexemes.getLast? ≠ some (.single c) := by
      intro c hOpen lexemes hCutting hLast
      have hEmpty : text.toList ≠ [] := by
        intro hNil
        rw [hNil] at hCutting
        rw [hCutting.unique .nil] at hLast
        simp at hLast
      obtain ⟨l, hSame, -, hAfter⟩ := hCutting.after_eq hEmpty
      obtain rfl : l = .single c := Option.some.inj (hSame.symm.trans hLast)
      exact hOpen (hAfter.symm.trans h)
    exact ⟨by rw [h]; rfl, hNot _ (by decide), hNot _ (by decide)⟩

instance (text : String) : Decidable (Separated text) :=
  decidable_of_iff _ separated_iff.symm

-- ---------------------------------------------------------------------------
-- Texts side by side
-- ---------------------------------------------------------------------------

namespace Separated

variable {a b : String}

/-- After a separated text, whatever follows keeps its tokens. -/
theorem tokens_append (h : Separated a) (b : String) :
    tokens (a ++ b) = tokens a ++ tokens b := by
  rw [tokens, String.toList_append, tokensFrom_append, separated_iff.mp h]
  rfl

/-- Texts side by side are separated if the second is. -/
theorem append_iff (h : Separated a) : Separated (a ++ b) ↔ Separated b := by
  rw [separated_iff, separated_iff, String.toList_append, Region.after_append,
    separated_iff.mp h]

end Separated

/-- A text that has a placeholder in code, but none where it follows on what the region
leaves open. -/
def Region.probe : Region → List Char
  | minus => ['-', '?']
  | slash => ['*', '?']
  | _ => ['?']

/-- Each region but code has a probe: a text with a placeholder that the region
swallows. -/
theorem Region.placeholdersFrom_probe {r : Region} (h : r ≠ .code) :
    placeholdersFrom r r.probe = 0 ∧ placeholdersFrom .code r.probe = 1 := by
  cases r with
  | code => exact absurd rfl h
  | minus | slash | quoted | lineComment | blockComment | blockStar => exact ⟨rfl, rfl⟩

/-- Only after a separated text are the placeholders of every text counted as if it
stood alone. -/
theorem separated_of_add {a : String}
    (h : ∀ b, countPlaceholders (a ++ b) = countPlaceholders a + countPlaceholders b) :
    Separated a := by
  by_contra hOpen
  rw [separated_iff] at hOpen
  -- a text after which the scanner is not in code swallows the probe's placeholder
  obtain ⟨hHere, hAlone⟩ := Region.placeholdersFrom_probe hOpen
  have hBoth := h (String.ofList (Region.code.after a.toList).probe)
  rw [countPlaceholders_eq, countPlaceholders_eq a, countPlaceholders_eq (String.ofList _),
    String.toList_append, String.toList_ofList, placeholdersFrom_append, hHere, hAlone] at hBoth
  omega

/--
**Placeholders add up.** Behind a separated text, and only there, every text has the
tokens and so the placeholders that it has alone, and both are separated together if
the second one is. Trimming a text leaves it all its placeholders.
-/
theorem placeholders_add (a s : String) :
    (Separated a ↔ ∀ b, tokens (a ++ b) = tokens a ++ tokens b) ∧
    (Separated a ↔
      ∀ b, countPlaceholders (a ++ b) = countPlaceholders a + countPlaceholders b) ∧
    (Separated a → ∀ b, Separated (a ++ b) ↔ Separated b) ∧
    countPlaceholders (Text.trim s) = countPlaceholders s := by
  have hCount : ∀ b, tokens (a ++ b) = tokens a ++ tokens b →
      countPlaceholders (a ++ b) = countPlaceholders a + countPlaceholders b := by
    intro b h
    rw [countPlaceholders, h, List.count_append]
    rfl
  refine ⟨⟨Separated.tokens_append, fun h => separated_of_add fun b => hCount b (h b)⟩,
    ⟨fun h b => hCount b (h.tokens_append b), separated_of_add⟩, fun h b => h.append_iff,
    countPlaceholders_trim s⟩

/-- A comment ends in a `/` that opens nothing. -/
theorem placeholders_add_remark :
    Separated "'it''s ?' /* - */" ∧
    tokens ("'it''s ?' /* - */" ++ "* ? - ") = tokens "'it''s ?' /* - */" ++ tokens "* ? - " ∧
    Separated ("'it''s ?' /* - */" ++ "* ? - ") := by
  obtain ⟨hTokens, -, hBoth, -⟩ := placeholders_add "'it''s ?' /* - */" ""
  have hRemark : Separated "'it''s ?' /* - */" := separated_iff.mpr (by decide)
  exact ⟨hRemark, hTokens.mp hRemark _, (hBoth hRemark _).mpr (separated_iff.mpr (by decide))⟩

end SqlPlan
