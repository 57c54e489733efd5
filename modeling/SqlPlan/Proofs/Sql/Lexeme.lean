import SqlPlan.Proofs.Sql.Closed

/-!
# SqlPlan — lexemes of SQL

The machine that looks for placeholders sees one character at a time and takes
a doubled quote for the end of one quoted text and the beginning of another.
Here the lexemes of SQL are said without it: whole quoted texts, in which a
doubled quote stands for a quote, whole comments, and single characters. A text
is cut into them from left to right:

* `Lexeme.StandsBefore` — what makes a lexeme the first of a text, by its own
  characters and by what follows it;
* `Cutting` — a text cut into lexemes;
* `exists_cutting`, `Cutting.unique` — every text can be cut, and in one way;
* `tokensFrom_lexeme`, `Cutting.tokensFrom_eq` — the machine reads a lexeme as
  a whole, and a text as its lexemes one after another.
-/

namespace SqlPlan

-- ---------------------------------------------------------------------------
-- Lexemes
-- ---------------------------------------------------------------------------

/-- What a text of SQL is made of. A quoted text or a comment that is not
closed reaches to the end of the text. -/
inductive Lexeme where
  | quoted (mark : Char) (body : List Char) (closed : Bool)
  | lineComment (body : List Char) (closed : Bool)
  | blockComment (body : List Char) (closed : Bool)
  | single (c : Char)
  deriving DecidableEq

namespace Lexeme

/-- The characters that open quoted text. -/
def quotes : List Char := ['\x27', '\x22', '\x60']

/-- What closes a lexeme, if it is closed. -/
def ending (mark : List Char) (closed : Bool) : List Char :=
  if closed then mark else []

/-- The characters of a lexeme. -/
def text : Lexeme → List Char
  | quoted mark body closed => mark :: (body ++ ending [mark] closed)
  | lineComment body closed => '-' :: '-' :: (body ++ ending ['\n'] closed)
  | blockComment body closed => '/' :: '*' :: (body ++ ending ['*', '/'] closed)
  | single c => [c]

/-- What may stand between two quotes: other characters and doubled quotes. -/
inductive IsQuotedBody (mark : Char) : List Char → Prop
  | nil : IsQuotedBody mark []
  | other {c : Char} {body : List Char} (hOther : c ≠ mark) (hBody : IsQuotedBody mark body) :
    IsQuotedBody mark (c :: body)
  | doubled {body : List Char} (hBody : IsQuotedBody mark body) :
    IsQuotedBody mark (mark :: mark :: body)

/-- The lexeme is the first of a text that goes on with `rest`. The quote that
closes a quoted text is not the first of a doubled one, a comment ends with the
first mark that can end it, and a single character opens nothing. -/
def StandsBefore (rest : List Char) : Lexeme → Prop
  | quoted mark body closed =>
    mark ∈ quotes ∧ IsQuotedBody mark body ∧
      (closed = true → rest.head? ≠ some mark) ∧ (closed = false → rest = [])
  | lineComment body closed => '\n' ∉ body ∧ (closed = false → rest = [])
  | blockComment body closed => ¬ ['*', '/'] <:+: body ∧ (closed = false → rest = [])
  | single c =>
    c ∉ quotes ∧ ¬ (c = '-' ∧ rest.head? = some '-') ∧
      ¬ (c = '/' ∧ rest.head? = some '*')

/-- The tokens of a lexeme: a placeholder if it is a single `?`, and else its
characters. -/
def tokens : Lexeme → List Token
  | single c => [if c = '?' then .placeholder else .char c]
  | l => l.text.map .char

/-- No lexeme is empty, so a cutting is never longer than its text. -/
theorem text_ne_nil (l : Lexeme) : l.text ≠ [] := by
  cases l <;> simp [text]

theorem length_tokens (l : Lexeme) : l.tokens.length = l.text.length := by
  cases l <;> simp [tokens, text]

end Lexeme

/-- A text cut into lexemes from left to right. -/
inductive Cutting : List Char → List Lexeme → Prop
  | nil : Cutting [] []
  | cons {l : Lexeme} {rest : List Char} {lexemes : List Lexeme} (h : l.StandsBefore rest)
    (hRest : Cutting rest lexemes) : Cutting (l.text ++ rest) (l :: lexemes)

namespace Lexeme

-- ---------------------------------------------------------------------------
-- Every text can be cut
-- ---------------------------------------------------------------------------

/-- A quote opens a quoted text. -/
theorem exists_quoted {mark : Char} (hMark : mark ∈ quotes) :
    ∀ text : List Char, ∃ body closed rest, (quoted mark body closed).StandsBefore rest ∧
      text = body ++ ending [mark] closed ++ rest
  | [] => ⟨[], false, [], ⟨hMark, .nil, nofun, fun _ => rfl⟩, rfl⟩
  | c :: text => by
    by_cases hOther : c = mark
    · subst hOther
      cases text with
      | nil => exact ⟨[], true, [], ⟨hMark, .nil, nofun, nofun⟩, rfl⟩
      | cons d text =>
        -- a mark that is doubled belongs to the body, any other ends it
        by_cases hDoubled : d = c
        · subst hDoubled
          obtain ⟨body, closed, rest, ⟨-, hBody, hRest⟩, hText⟩ := exists_quoted hMark text
          exact ⟨d :: d :: body, closed, rest, ⟨hMark, .doubled hBody, hRest⟩, by rw [hText]; rfl⟩
        · refine ⟨[], true, d :: text, ⟨hMark, .nil, fun _ => ?_, nofun⟩, rfl⟩
          rw [List.head?_cons]
          exact fun h => hDoubled (Option.some.inj h)
    · obtain ⟨body, closed, rest, ⟨-, hBody, hRest⟩, hText⟩ := exists_quoted hMark text
      exact ⟨c :: body, closed, rest, ⟨hMark, .other hOther hBody, hRest⟩, by rw [hText]; rfl⟩

/-- A line comment ends with the line. -/
theorem exists_lineComment (text : List Char) :
    ∃ body closed rest, (lineComment body closed).StandsBefore rest ∧
      text = body ++ ending ['\n'] closed ++ rest := by
  induction text with
  | nil => exact ⟨[], false, [], ⟨nofun, fun _ => rfl⟩, rfl⟩
  | cons c text ih =>
    by_cases hEnd : c = '\n'
    · subst hEnd
      exact ⟨[], true, text, ⟨nofun, nofun⟩, rfl⟩
    · obtain ⟨body, closed, rest, ⟨hBody, hRest⟩, hText⟩ := ih
      refine ⟨c :: body, closed, rest, ⟨?_, hRest⟩, by rw [hText]; rfl⟩
      rw [List.mem_cons, not_or]
      exact ⟨Ne.symm hEnd, hBody⟩

/-- A block comment ends with the first mark that closes it. -/
theorem exists_blockComment (text : List Char) :
    ∃ body closed rest, (blockComment body closed).StandsBefore rest ∧
      text = body ++ ending ['*', '/'] closed ++ rest := by
  induction text with
  | nil => exact ⟨[], false, [], ⟨by simp, fun _ => rfl⟩, rfl⟩
  | cons c text ih =>
    by_cases hEnd : ['*', '/'] <+: c :: text
    · obtain ⟨rest, hText⟩ := hEnd
      exact ⟨[], true, rest, ⟨by simp, nofun⟩, hText.symm⟩
    · obtain ⟨body, closed, rest, ⟨hBody, hRest⟩, hText⟩ := ih
      refine ⟨c :: body, closed, rest, ⟨?_, hRest⟩, by rw [hText]; rfl⟩
      -- the closing mark cannot stand across the first character either
      have hPrefix : c :: body <+: c :: text := by
        rw [hText, List.append_assoc]
        exact List.prefix_append (c :: body) _
      rw [List.infix_cons_iff, not_or]
      exact ⟨fun hFirst => hEnd (hFirst.trans hPrefix), hBody⟩

/-- Something is the first lexeme of a text. -/
theorem exists_first (c : Char) (more : List Char) :
    ∃ l rest, StandsBefore rest l ∧ c :: more = l.text ++ rest := by
  by_cases hQuote : c ∈ quotes
  · obtain ⟨body, closed, rest, h, hMore⟩ := exists_quoted hQuote more
    exact ⟨_, rest, h, by rw [hMore]; rfl⟩
  by_cases hLine : c = '-' ∧ more.head? = some '-'
  · obtain ⟨rfl, hNext⟩ := hLine
    obtain ⟨tail, rfl⟩ := List.head?_eq_some_iff.mp hNext
    obtain ⟨body, closed, rest, h, hTail⟩ := exists_lineComment tail
    exact ⟨_, rest, h, by rw [hTail]; rfl⟩
  by_cases hBlock : c = '/' ∧ more.head? = some '*'
  · obtain ⟨rfl, hNext⟩ := hBlock
    obtain ⟨tail, rfl⟩ := List.head?_eq_some_iff.mp hNext
    obtain ⟨body, closed, rest, h, hTail⟩ := exists_blockComment tail
    exact ⟨_, rest, h, by rw [hTail]; rfl⟩
  · exact ⟨single c, more, ⟨hQuote, hLine, hBlock⟩, rfl⟩

end Lexeme

/-- Every text can be cut into lexemes. -/
theorem exists_cutting (text : List Char) : ∃ lexemes, Cutting text lexemes := by
  induction hLength : text.length using Nat.strongRecOn generalizing text with
  | ind n ih =>
    cases text with
    | nil => exact ⟨[], .nil⟩
    | cons c more =>
      obtain ⟨l, rest, hFirst, hText⟩ := Lexeme.exists_first c more
      -- a lexeme is not empty, so what follows it is shorter
      have hShorter : rest.length < n := by
        have hPositive := List.length_pos_iff.mpr l.text_ne_nil
        rw [← hLength, hText, List.length_append]
        omega
      obtain ⟨lexemes, hRest⟩ := ih rest.length hShorter rest rfl
      rw [hText]
      exact ⟨l :: lexemes, .cons hFirst hRest⟩

-- ---------------------------------------------------------------------------
-- No text can be cut in two ways
-- ---------------------------------------------------------------------------

namespace Lexeme

/-- Two ways to split a text into a body and an end are one if no body goes on
where another one has its end. -/
theorem eq_of_append_eq {IsBody IsEnd : List Char → Prop}
    (hStop : ∀ body more e, IsBody body → IsEnd e → IsBody (body ++ more) → IsEnd (more ++ e) →
      more = [])
    {body body' e e' : List Char} (hBody : IsBody body) (hBody' : IsBody body') (hEnd : IsEnd e)
    (hEnd' : IsEnd e') (h : body ++ e = body' ++ e') : body = body' ∧ e = e' := by
  rcases List.append_eq_append_iff.mp h with ⟨more, rfl, rfl⟩ | ⟨more, rfl, rfl⟩
  · obtain rfl := hStop body more e' hBody hEnd' hBody' hEnd
    exact ⟨(List.append_nil body).symm, rfl⟩
  · obtain rfl := hStop body' more e hBody' hEnd hBody hEnd'
    exact ⟨List.append_nil body', rfl⟩

/-- What a closed or unclosed lexeme ends with is seen from the text. -/
theorem ending_append_inj {mark : List Char} (hMark : mark ≠ []) {closed closed' : Bool}
    {rest rest' : List Char} (h : closed = false → rest = []) (h' : closed' = false → rest' = [])
    (hEq : ending mark closed ++ rest = ending mark closed' ++ rest') :
    closed = closed' ∧ rest = rest' := by
  cases closed with
  | false =>
    cases closed' with
    | false => exact ⟨rfl, hEq⟩
    -- an open end is the end of the text, where no mark can stand
    | true =>
      rw [h rfl] at hEq
      exact absurd (List.append_eq_nil_iff.mp hEq.symm).1 hMark
  | true =>
    cases closed' with
    | false =>
      rw [h' rfl] at hEq
      exact absurd (List.append_eq_nil_iff.mp hEq).1 hMark
    | true => exact ⟨rfl, List.append_cancel_left hEq⟩

/-- A quoted text ends with its quote, and not with a doubled one. -/
def IsQuotedEnd (mark : Char) (e : List Char) : Prop :=
  ∀ c tail, e = c :: tail → c = mark ∧ tail.head? ≠ some mark

/-- A comment ends with the mark that closes it. -/
def IsCommentEnd (mark e : List Char) : Prop := e = [] ∨ mark <+: e

/-- What a quoted text ends with is an end: its mark, not doubled, or the end
of the text. -/
theorem isQuotedEnd_ending {mark : Char} {closed : Bool} {rest : List Char}
    (hClosed : closed = true → rest.head? ≠ some mark) (hOpen : closed = false → rest = []) :
    IsQuotedEnd mark (ending [mark] closed ++ rest) := by
  intro c tail hEq
  cases closed with
  | false =>
    rw [hOpen rfl] at hEq
    exact absurd hEq (by simp [ending])
  | true =>
    obtain ⟨rfl, rfl⟩ := List.cons.inj hEq
    exact ⟨rfl, hClosed rfl⟩

theorem isCommentEnd_ending {mark : List Char} {closed : Bool} {rest : List Char}
    (hOpen : closed = false → rest = []) : IsCommentEnd mark (ending mark closed ++ rest) := by
  cases closed with
  | false => exact Or.inl (hOpen rfl)
  | true => exact Or.inr (List.prefix_append mark rest)

theorem IsQuotedBody.of_other {mark c : Char} {body : List Char} (hOther : c ≠ mark)
    (h : IsQuotedBody mark (c :: body)) : IsQuotedBody mark body := by
  cases h with
  | other _ hBody => exact hBody
  | doubled => exact absurd rfl hOther

theorem IsQuotedBody.of_doubled {mark : Char} {body : List Char}
    (h : IsQuotedBody mark (mark :: mark :: body)) : IsQuotedBody mark body := by
  cases h with
  | other hOther _ => exact absurd rfl hOther
  | doubled hBody => exact hBody

/-- What follows a body in a longer body is a body. -/
theorem IsQuotedBody.of_append {mark : Char} {body more : List Char} (h : IsQuotedBody mark body)
    (hMore : IsQuotedBody mark (body ++ more)) : IsQuotedBody mark more := by
  induction h with
  | nil => exact hMore
  | other hOther _ ih => exact ih (hMore.of_other hOther)
  | doubled _ ih => exact ih hMore.of_doubled

/-- A quoted body cannot go on past an end: its mark would have to be doubled
there. -/
theorem quotedBody_stops {mark : Char} (body more e : List Char) (hBody : IsQuotedBody mark body)
    (_ : IsQuotedEnd mark e) (hLong : IsQuotedBody mark (body ++ more))
    (hMore : IsQuotedEnd mark (more ++ e)) : more = [] := by
  cases hBody.of_append hLong with
  | nil => rfl
  | other hOther _ => exact absurd (hMore _ _ rfl).1 hOther
  | doubled _ => exact absurd rfl (hMore _ _ rfl).2

/-- Nor can a line comment: it would hold a line break. -/
theorem lineBody_stops (body more e : List Char) (_ : '\n' ∉ body) (_ : IsCommentEnd ['\n'] e)
    (hLong : '\n' ∉ body ++ more) (hMore : IsCommentEnd ['\n'] (more ++ e)) : more = [] := by
  rcases hMore with hNone | hFirst
  · exact (List.append_eq_nil_iff.mp hNone).1
  cases more with
  | nil => rfl
  | cons c more =>
    obtain ⟨rfl, -⟩ := List.cons_prefix_cons.mp hFirst
    exact absurd (List.mem_append_right body (List.mem_cons_self ..)) hLong

/-- Nor can a block comment: it would hold its own closing mark. -/
theorem blockBody_stops (body more e : List Char) (_ : ¬ ['*', '/'] <:+: body)
    (hEnd : IsCommentEnd ['*', '/'] e) (hLong : ¬ ['*', '/'] <:+: body ++ more)
    (hMore : IsCommentEnd ['*', '/'] (more ++ e)) : more = [] := by
  rcases hMore with hNone | hFirst
  · exact (List.append_eq_nil_iff.mp hNone).1
  cases more with
  | nil => rfl
  | cons c more =>
    obtain ⟨rfl, hSecond⟩ := List.cons_prefix_cons.mp hFirst
    cases more with
    | nil =>
      -- the end would have to begin with the second half of the mark
      rcases hEnd with rfl | ⟨tail, rfl⟩
      · exact absurd hSecond (by simp)
      · exact absurd (List.cons_prefix_cons.mp hSecond).1 (by decide)
    | cons d more =>
      obtain ⟨rfl, -⟩ := List.cons_prefix_cons.mp hSecond
      exact absurd ⟨body, more, by simp⟩ hLong

section First

variable {l : Lexeme} {rest more : List Char}

/-- A text that opens with a quote begins with a quoted lexeme. -/
theorem eq_quoted {mark : Char} (h : l.StandsBefore rest) (hMark : mark ∈ quotes)
    (hText : l.text ++ rest = mark :: more) : ∃ body closed, l = quoted mark body closed := by
  cases l with
  | quoted mark' body closed =>
    obtain ⟨rfl, -⟩ := List.cons.inj hText
    exact ⟨body, closed, rfl⟩
  | lineComment | blockComment =>
    obtain ⟨rfl, -⟩ := List.cons.inj hText
    exact absurd hMark (by decide)
  | single c =>
    obtain ⟨rfl, -⟩ := List.cons.inj hText
    exact absurd hMark h.1

/-- One that opens with two dashes begins with a line comment. -/
theorem eq_lineComment (h : l.StandsBefore rest) (hText : l.text ++ rest = '-' :: '-' :: more) :
    ∃ body closed, l = lineComment body closed := by
  cases l with
  | quoted =>
    obtain ⟨rfl, -⟩ := List.cons.inj hText
    exact absurd h.1 (by decide)
  | lineComment body closed => exact ⟨body, closed, rfl⟩
  | blockComment => exact absurd (List.cons.inj hText).1 (by decide)
  | single c =>
    obtain ⟨rfl, hRest⟩ := List.cons.inj hText
    exact absurd ⟨rfl, congrArg List.head? hRest⟩ h.2.1

/-- One that opens with a slash and a star begins with a block comment. -/
theorem eq_blockComment (h : l.StandsBefore rest) (hText : l.text ++ rest = '/' :: '*' :: more) :
    ∃ body closed, l = blockComment body closed := by
  cases l with
  | quoted =>
    obtain ⟨rfl, -⟩ := List.cons.inj hText
    exact absurd h.1 (by decide)
  | lineComment => exact absurd (List.cons.inj hText).1 (by decide)
  | blockComment body closed => exact ⟨body, closed, rfl⟩
  | single c =>
    obtain ⟨rfl, hRest⟩ := List.cons.inj hText
    exact absurd ⟨rfl, congrArg List.head? hRest⟩ h.2.2

end First

/-- A text has one first lexeme. -/
theorem StandsBefore.unique {l l' : Lexeme} {rest rest' : List Char} (h : l.StandsBefore rest)
    (h' : l'.StandsBefore rest') (hText : l.text ++ rest = l'.text ++ rest') :
    l = l' ∧ rest = rest' := by
  cases l with
  | quoted mark body closed =>
    obtain ⟨body', closed', rfl⟩ := eq_quoted h' h.1 hText.symm
    obtain ⟨-, hBody, hClosed, hOpen⟩ := h
    obtain ⟨-, hBody', hClosed', hOpen'⟩ := h'
    simp only [text, List.cons_append, List.append_assoc, List.cons.injEq, true_and] at hText
    obtain ⟨rfl, hEnds⟩ := eq_of_append_eq quotedBody_stops hBody hBody'
      (isQuotedEnd_ending hClosed hOpen) (isQuotedEnd_ending hClosed' hOpen') hText
    obtain ⟨rfl, rfl⟩ := ending_append_inj (List.cons_ne_nil _ _) hOpen hOpen' hEnds
    exact ⟨rfl, rfl⟩
  | lineComment body closed =>
    obtain ⟨body', closed', rfl⟩ := eq_lineComment h' hText.symm
    simp only [text, List.cons_append, List.append_assoc, List.cons.injEq, true_and] at hText
    obtain ⟨rfl, hEnds⟩ := eq_of_append_eq lineBody_stops h.1 h'.1 (isCommentEnd_ending h.2)
      (isCommentEnd_ending h'.2) hText
    obtain ⟨rfl, rfl⟩ := ending_append_inj (List.cons_ne_nil _ _) h.2 h'.2 hEnds
    exact ⟨rfl, rfl⟩
  | blockComment body closed =>
    obtain ⟨body', closed', rfl⟩ := eq_blockComment h' hText.symm
    simp only [text, List.cons_append, List.append_assoc, List.cons.injEq, true_and] at hText
    obtain ⟨rfl, hEnds⟩ := eq_of_append_eq blockBody_stops h.1 h'.1 (isCommentEnd_ending h.2)
      (isCommentEnd_ending h'.2) hText
    obtain ⟨rfl, rfl⟩ := ending_append_inj (List.cons_ne_nil _ _) h.2 h'.2 hEnds
    exact ⟨rfl, rfl⟩
  | single c =>
    cases l' with
    | quoted =>
      obtain ⟨_, _, hEq⟩ := eq_quoted h h'.1 hText
      exact Lexeme.noConfusion hEq
    | lineComment =>
      obtain ⟨_, _, hEq⟩ := eq_lineComment h hText
      exact Lexeme.noConfusion hEq
    | blockComment =>
      obtain ⟨_, _, hEq⟩ := eq_blockComment h hText
      exact Lexeme.noConfusion hEq
    | single c' =>
      obtain ⟨rfl, hRest⟩ := List.cons.inj hText
      exact ⟨rfl, hRest⟩

end Lexeme

/-- There is one way to cut a text. -/
theorem Cutting.unique {text : List Char} {lexemes others : List Lexeme}
    (h : Cutting text lexemes) (hOther : Cutting text others) : lexemes = others := by
  induction h generalizing others with
  | nil =>
    generalize hText : ([] : List Char) = text at hOther
    cases hOther with
    | nil => rfl
    | cons hFirst _ => exact absurd (List.append_eq_nil_iff.mp hText.symm).1 (Lexeme.text_ne_nil _)
  | cons hFirst hRest ih =>
    rename_i l rest lexemes
    generalize hText : l.text ++ rest = text at hOther
    cases hOther with
    | nil => exact absurd (List.append_eq_nil_iff.mp hText).1 l.text_ne_nil
    | cons hFirst' hRest' =>
      obtain ⟨rfl, rfl⟩ := hFirst.unique hFirst' hText
      rw [ih hRest']

-- ---------------------------------------------------------------------------
-- Lexemes and the machine
-- ---------------------------------------------------------------------------

/-- Inside quotes and comments every character stands for itself. -/
theorem Token.read_of_not_isCode {r : Region} (h : r.isCode = false) (c : Char) :
    Token.read r c = .char c := by
  simp [Token.read, h]

theorem Region.isQuote_iff {c : Char} : isQuote c = true ↔ c ∈ Lexeme.quotes := by
  simp [isQuote, Lexeme.quotes, or_assoc]

namespace Lexeme

/-- A quote opens quoted text and stands for itself. -/
theorem read_quote {mark : Char} (h : mark ∈ quotes) :
    Region.code.next mark = .quoted mark ∧ Token.read .code mark = .char mark := by
  have hMark : mark ≠ '?' := by
    rintro rfl
    exact absurd h (by decide)
  exact ⟨if_pos (Region.isQuote_iff.mpr h), by simp [Token.read, hMark]⟩

/-- The machine leaves quoted text at a doubled quote and comes back. -/
theorem tokensFrom_quotedBody {mark : Char} (hMark : mark ∈ quotes)
    {body : List Char} (h : IsQuotedBody mark body) (more : List Char) :
    tokensFrom (.quoted mark) (body ++ more) =
      body.map .char ++ tokensFrom (.quoted mark) more := by
  have hInside : ∀ c, Token.read (.quoted mark) c = .char c := Token.read_of_not_isCode rfl
  induction h with
  | nil => rfl
  | @other c body hOther hBody ih =>
    have hNext : (Region.quoted mark).next c = .quoted mark := if_neg hOther
    rw [List.cons_append, tokensFrom_cons, hInside, hNext, ih]
    rfl
  -- the first mark seems to end the text, the second takes the scanner back
  | @doubled body hBody ih =>
    obtain ⟨hBack, hRead⟩ := read_quote hMark
    have hOut : (Region.quoted mark).next mark = .code := if_pos rfl
    rw [List.cons_append, List.cons_append, tokensFrom_cons, tokensFrom_cons, hInside, hOut,
      hRead, hBack, ih]
    rfl

/-- The scanner takes the body of a line comment for characters. -/
theorem tokensFrom_lineBody {body : List Char} (h : '\n' ∉ body) (more : List Char) :
    tokensFrom .lineComment (body ++ more) =
      body.map .char ++ tokensFrom .lineComment more := by
  induction body with
  | nil => rfl
  | cons c body ih =>
    rw [List.mem_cons, not_or] at h
    have hRead : Token.read .lineComment c = .char c := Token.read_of_not_isCode rfl c
    have hNext : Region.lineComment.next c = .lineComment := if_neg (Ne.symm h.1)
    rw [List.cons_append, tokensFrom_cons, hRead, hNext, ih h.2]
    rfl

/-- The machine is inside a block comment, and the text does not close it at
once. -/
def IsInBlock (r : Region) (text : List Char) : Prop :=
  r = .blockComment ∨ r = .blockStar ∧ text.head? ≠ some '/'

/-- A character that does not close the comment leaves the machine inside. -/
theorem IsInBlock.next {r : Region} {c : Char} {body : List Char}
    (hRegion : IsInBlock r (c :: body))
    (h : ¬ ['*', '/'] <+: c :: body) : IsInBlock (r.next c) body := by
  by_cases hStar : c = '*'
  · subst hStar
    refine Or.inr ⟨by rcases hRegion with rfl | ⟨rfl, -⟩ <;> rfl, fun hSlash => h ?_⟩
    obtain ⟨tail, rfl⟩ := List.head?_eq_some_iff.mp hSlash
    exact ⟨tail, rfl⟩
  · refine Or.inl ?_
    rcases hRegion with rfl | ⟨rfl, hSlash⟩
    · exact if_neg hStar
    · have hNot : c ≠ '/' := fun hEq => hSlash (congrArg some hEq)
      simp [Region.next, hNot, hStar]

/-- The machine stays inside a block comment over a body, whose last character
it may have to remember. -/
theorem tokensFrom_blockBody {r : Region} {body : List Char} (hRegion : IsInBlock r body)
    (h : ¬ ['*', '/'] <:+: body) (more : List Char) :
    (r.after body = .blockComment ∨ r.after body = .blockStar) ∧
      tokensFrom r (body ++ more) = body.map .char ++ tokensFrom (r.after body) more := by
  induction body generalizing r with
  | nil => exact ⟨hRegion.imp_right And.left, rfl⟩
  | cons c body ih =>
    rw [List.infix_cons_iff, not_or] at h
    have hCode : r.isCode = false := by
      rcases hRegion with rfl | ⟨rfl, -⟩ <;> rfl
    obtain ⟨hLast, hBody⟩ := ih (hRegion.next h.1) h.2
    refine ⟨hLast, ?_⟩
    rw [List.cons_append, tokensFrom_cons, Token.read_of_not_isCode hCode, hBody]
    rfl

/-- A single character may leave a mark open, but what follows does not take it
up. -/
theorem tokensFrom_single {c : Char} {rest : List Char} (h : (single c).StandsBefore rest) :
    tokensFrom (Region.afterCode c) rest = tokensFrom .code rest := by
  obtain ⟨hQuote, hDash, hSlash⟩ := h
  rw [Region.afterCode, if_neg fun h => hQuote (Region.isQuote_iff.mp h)]
  -- after a dash or a slash the next character decides, and it opens nothing
  split
  · rename_i hc
    refine tokensFrom_of_isCode rfl fun x more hRest => if_neg ?_
    rintro rfl
    exact hDash ⟨hc, by rw [hRest]; rfl⟩
  · split
    · rename_i hc
      refine tokensFrom_of_isCode rfl fun x more hRest => if_neg ?_
      rintro rfl
      exact hSlash ⟨hc, by rw [hRest]; rfl⟩
    · rfl

/-- The mark that closes a lexeme leads back to code; a lexeme that is not
closed has nothing after it. -/
theorem tokensFrom_ending {r : Region} {mark rest : List Char} {closed : Bool}
    (hOpen : closed = false → rest = [])
    (hMark : tokensFrom r (mark ++ rest) = mark.map .char ++ tokensFrom .code rest) :
    tokensFrom r (ending mark closed ++ rest) =
      (ending mark closed).map .char ++ tokensFrom .code rest := by
  cases closed with
  | false =>
    rw [hOpen rfl]
    rfl
  | true => exact hMark

/-- The machine reads the first lexeme of a text as a whole. -/
theorem tokensFrom_lexeme {l : Lexeme} {rest : List Char} (h : l.StandsBefore rest) :
    tokensFrom .code (l.text ++ rest) = l.tokens ++ tokensFrom .code rest := by
  cases l with
  | quoted mark body closed =>
    obtain ⟨hMark, hBody, -, hOpen⟩ := h
    obtain ⟨hFirst, hRead⟩ := read_quote hMark
    have hLast : (Region.quoted mark).next mark = .code := if_pos rfl
    have hEnd : tokensFrom (.quoted mark) (ending [mark] closed ++ rest) =
        (ending [mark] closed).map .char ++ tokensFrom .code rest := by
      refine tokensFrom_ending hOpen ?_
      rw [List.cons_append, tokensFrom_cons, hLast, Token.read_of_not_isCode rfl]
      rfl
    show Token.read .code mark :: tokensFrom (Region.code.next mark)
      (body ++ ending [mark] closed ++ rest) = _
    rw [hRead, hFirst, List.append_assoc, tokensFrom_quotedBody hMark hBody, hEnd]
    simp [tokens, text]
  | lineComment body closed =>
    obtain ⟨hBody, hOpen⟩ := h
    show Token.char '-' :: Token.char '-' :: tokensFrom .lineComment
      (body ++ ending ['\n'] closed ++ rest) = _
    rw [List.append_assoc, tokensFrom_lineBody hBody, tokensFrom_ending hOpen rfl]
    simp [tokens, text]
  | blockComment body closed =>
    obtain ⟨hBody, hOpen⟩ := h
    obtain ⟨hLast, hInside⟩ := tokensFrom_blockBody (Or.inl rfl) hBody
      (ending ['*', '/'] closed ++ rest)
    have hMark : tokensFrom (Region.blockComment.after body) (['*', '/'] ++ rest) =
        ['*', '/'].map .char ++ tokensFrom .code rest := by
      rcases hLast with hLast | hLast <;> rw [hLast] <;> rfl
    show Token.char '/' :: Token.char '*' :: tokensFrom .blockComment
      (body ++ ending ['*', '/'] closed ++ rest) = _
    rw [List.append_assoc, hInside, tokensFrom_ending hOpen hMark]
    simp [tokens, text]
  | single c =>
    have hRead : Token.read .code c = if c = '?' then .placeholder else .char c := by
      by_cases hMark : c = '?' <;> simp [Token.read, Region.isCode, hMark]
    show Token.read .code c :: tokensFrom (Region.afterCode c) rest = _
    rw [hRead, tokensFrom_single h]
    rfl

/-- Only a single `?` has a placeholder, which is then all it has. -/
theorem getElem?_tokens_eq_placeholder {l : Lexeme} {i : Nat} :
    l.tokens[i]? = some .placeholder ↔ l = single '?' ∧ i = 0 := by
  cases l with
  | quoted | lineComment | blockComment => simp [tokens]
  | single c =>
    by_cases hMark : c = '?' <;> cases i <;> simp [tokens, hMark]

/-- Among lexemes, a single question mark is the one placeholder. -/
theorem count_tokens (l : Lexeme) :
    l.tokens.count .placeholder = if l = single '?' then 1 else 0 := by
  cases l with
  | quoted | lineComment | blockComment => simp [tokens, List.count_eq_zero]
  | single c =>
    by_cases hMark : c = '?' <;> simp [tokens, hMark]

end Lexeme

/-- A text is read as its lexemes one after another. -/
theorem Cutting.tokensFrom_eq {text : List Char} {lexemes : List Lexeme}
    (h : Cutting text lexemes) : tokensFrom .code text = lexemes.flatMap Lexeme.tokens := by
  induction h with
  | nil => rfl
  | cons hFirst _ ih => rw [Lexeme.tokensFrom_lexeme hFirst, ih, List.flatMap_cons]

-- ---------------------------------------------------------------------------
-- Placeholders
-- ---------------------------------------------------------------------------

/-- The placeholders of lexemes stand where their single `?` do. -/
theorem getElem?_flatMap_tokens {lexemes : List Lexeme} {i : Nat} :
    (lexemes.flatMap Lexeme.tokens)[i]? = some .placeholder ↔
      ∃ before after, lexemes = before ++ .single '?' :: after ∧
        (before.flatMap Lexeme.text).length = i := by
  induction lexemes generalizing i with
  | nil => simp
  | cons l rest ih =>
    rw [List.flatMap_cons]
    -- the position is one of the first lexeme, or one of the others moved by its length
    by_cases hFirst : i < l.text.length
    · rw [List.getElem?_append_left (by rwa [l.length_tokens]),
        Lexeme.getElem?_tokens_eq_placeholder]
      constructor
      · rintro ⟨rfl, rfl⟩
        exact ⟨[], rest, rfl, rfl⟩
      · rintro ⟨before, after, hSplit, hLength⟩
        cases before with
        | nil => exact ⟨(List.cons.inj hSplit).1, hLength.symm⟩
        | cons x before =>
          rw [← (List.cons.inj hSplit).1, List.flatMap_cons, List.length_append] at hLength
          omega
    · rw [List.getElem?_append_right (by rw [l.length_tokens]; omega), ih]
      constructor
      · rintro ⟨before, after, rfl, hLength⟩
        refine ⟨l :: before, after, rfl, ?_⟩
        rw [List.flatMap_cons, List.length_append, hLength, l.length_tokens]
        omega
      · rintro ⟨before, after, hSplit, hLength⟩
        cases before with
        | nil =>
          have hPositive := List.length_pos_iff.mpr l.text_ne_nil
          rw [List.flatMap_nil, List.length_nil] at hLength
          omega
        | cons x before =>
          obtain ⟨rfl, rfl⟩ := List.cons.inj hSplit
          rw [List.flatMap_cons, List.length_append] at hLength
          refine ⟨before, after, rfl, ?_⟩
          rw [l.length_tokens]
          omega

/-- The placeholders of a cutting are its single question marks. -/
theorem count_flatMap_tokens (lexemes : List Lexeme) :
    (lexemes.flatMap Lexeme.tokens).count .placeholder = lexemes.count (.single '?') := by
  induction lexemes with
  | nil => rfl
  | cons l rest ih =>
    rw [List.flatMap_cons, List.count_append, ih, Lexeme.count_tokens, List.count_cons,
      Nat.add_comm]
    simp only [beq_iff_eq]

/--
**Placeholders are the single question marks.** A text can be cut into quoted
texts, comments and single characters in exactly one way, and the placeholders
found in it stand where this cutting has a single `?`, so there are as many.
-/
theorem placeholders_of_cutting (sql : String) :
    ∃ lexemes, (∀ others, Cutting sql.toList others ↔ others = lexemes) ∧
      (∀ i, (tokens sql)[i]? = some .placeholder ↔
        ∃ before after, lexemes = before ++ .single '?' :: after ∧
          (before.flatMap Lexeme.text).length = i) ∧
      countPlaceholders sql = lexemes.count (.single '?') := by
  obtain ⟨lexemes, h⟩ := exists_cutting sql.toList
  have hTokens : tokens sql = lexemes.flatMap Lexeme.tokens := h.tokensFrom_eq
  refine ⟨lexemes, fun others => ⟨fun hOther => hOther.unique h, ?_⟩, fun i => ?_, ?_⟩
  · rintro rfl
    exact h
  · rw [hTokens, getElem?_flatMap_tokens]
  · rw [countPlaceholders, hTokens, count_flatMap_tokens]

end SqlPlan
