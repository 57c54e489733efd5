import SqlPlan.Proofs.Digits
import SqlPlan.Proofs.Sql.Closed

/-!
# SqlPlan — numbered placeholders

Numbering writes a text anew from its tokens. Nothing else changes, and nothing
that is written can be taken for a placeholder later on:

* `map_toChar_tokens` — a text is what its tokens were read from;
* `Cut` — a text cut at its placeholders, and `Cut.marked`, the text with a
  mark of its own in place of each;
* `tokensFrom_writeNumbered` — what is numbered is read as characters alone,
  for a `$` and digits lead to the same region as the `?` they stand for.
-/

namespace SqlPlan

-- ---------------------------------------------------------------------------
-- Tokens and characters
-- ---------------------------------------------------------------------------

@[simp] theorem Token.toChar_read (r : Region) (c : Char) : (Token.read r c).toChar = c := by
  unfold Token.read
  split
  · rename_i h
    rw [Bool.and_eq_true, decide_eq_true_eq] at h
    exact h.2.symm
  · rfl

/-- No character is lost or read twice. -/
theorem map_toChar_tokensFrom (r : Region) (text : List Char) :
    (tokensFrom r text).map Token.toChar = text := by
  induction text generalizing r with
  | nil => rfl
  | cons c text ih => rw [tokensFrom_cons, List.map_cons, Token.toChar_read, ih]

/-- The tokens of a text spell it. -/
theorem map_toChar_tokens (sql : String) : (tokens sql).map Token.toChar = sql.toList :=
  map_toChar_tokensFrom .code sql.toList

theorem count_placeholder_map_char (text : List Char) :
    (text.map Token.char).count .placeholder = 0 := by
  rw [List.count_eq_zero]
  intro h
  obtain ⟨c, -, hc⟩ := List.mem_map.mp h
  exact Token.noConfusion hc

-- ---------------------------------------------------------------------------
-- Texts cut at their placeholders
-- ---------------------------------------------------------------------------

/-- A text cut at its placeholders. -/
structure Cut where
  /-- What stands before the first placeholder. -/
  lead : List Char
  /-- What stands after each placeholder, up to the next one. -/
  parts : List (List Char)

namespace Cut

/-- The tokens that were cut. -/
def tokens (cut : Cut) : List Token :=
  cut.lead.map .char ++ cut.parts.flatMap fun part => .placeholder :: part.map .char

/-- The text with marks in place of the placeholders, the first of which has
the number `n + 1`. -/
def markedFrom (n : Nat) (mark : Nat → List Char) (cut : Cut) : List Char :=
  cut.lead ++ (cut.parts.zipIdx (n + 1)).flatMap fun part => mark part.2 ++ part.1

/-- The text with a mark for the number of each placeholder, counted from one. -/
def marked (mark : Nat → List Char) (cut : Cut) : List Char :=
  cut.markedFrom 0 mark

/-- Tokens cut at their placeholders. -/
def ofTokens : List Token → Cut
  | [] => ⟨[], []⟩
  | .char c :: rest => ⟨c :: (ofTokens rest).lead, (ofTokens rest).parts⟩
  | .placeholder :: rest => ⟨[], (ofTokens rest).lead :: (ofTokens rest).parts⟩

/-- Parts and the placeholders between them are the tokens again. -/
theorem tokens_ofTokens (tokens : List Token) : (ofTokens tokens).tokens = tokens := by
  induction tokens with
  | nil => rfl
  | cons token rest ih =>
    rw [Cut.tokens] at ih
    cases token with
    | char c => rw [ofTokens, Cut.tokens, List.map_cons, List.cons_append, ih]
    | placeholder =>
      rw [ofTokens, Cut.tokens, List.map_nil, List.nil_append, List.flatMap_cons, List.cons_append,
        ih]

/-- Each placeholder ends a part. -/
theorem length_parts_ofTokens (tokens : List Token) :
    (ofTokens tokens).parts.length = tokens.count .placeholder := by
  induction tokens with
  | nil => rfl
  | cons token rest ih =>
    cases token with
    | char c => rw [ofTokens, List.count_cons_of_ne (by simp), ih]
    | placeholder => rw [ofTokens, List.length_cons, List.count_cons_self, ih]

section Marked

variable (n : Nat) (mark : Nat → List Char) (rest : List Token)

theorem markedFrom_ofTokens_char (c : Char) :
    (ofTokens (.char c :: rest)).markedFrom n mark = c :: (ofTokens rest).markedFrom n mark := rfl

/-- A placeholder is replaced by the mark of its number. -/
theorem markedFrom_ofTokens_placeholder :
    (ofTokens (.placeholder :: rest)).markedFrom n mark =
      mark (n + 1) ++ (ofTokens rest).markedFrom (n + 1) mark := by
  rw [ofTokens, markedFrom, markedFrom, List.nil_append, List.zipIdx_cons, List.flatMap_cons,
    List.append_assoc]

end Marked

/-- The placeholders marked by `?` give back what was read. -/
theorem markedFrom_ofTokens_question (n : Nat) (tokens : List Token) :
    (ofTokens tokens).markedFrom n (fun _ => ['?']) = tokens.map Token.toChar := by
  induction tokens generalizing n with
  | nil => rfl
  | cons token rest ih =>
    cases token with
    | char c => rw [markedFrom_ofTokens_char, ih, List.map_cons, Token.toChar]
    | placeholder =>
      rw [markedFrom_ofTokens_placeholder, ih, List.map_cons, Token.toChar, List.singleton_append]

/-- The placeholders marked by their numbers give what numbering writes. -/
theorem markedFrom_ofTokens_number (n : Nat) (tokens : List Token) :
    (ofTokens tokens).markedFrom n (fun k => ("$" ++ toString k).toList) =
      writeNumbered n tokens := by
  induction tokens generalizing n with
  | nil => rfl
  | cons token rest ih =>
    cases token with
    | char c => rw [markedFrom_ofTokens_char, ih, writeNumbered]
    | placeholder =>
      have hMark : ("$" ++ toString (n + 1)).toList = '$' :: Nat.toDigits 10 (n + 1) := by
        simp
      rw [markedFrom_ofTokens_placeholder, ih, hMark, writeNumbered]

end Cut

-- ---------------------------------------------------------------------------
-- Reading what was numbered
-- ---------------------------------------------------------------------------

theorem writeNumbered_map_char (n : Nat) (text : List Char) :
    writeNumbered n (text.map .char) = text := by
  induction text with
  | nil => rfl
  | cons c text ih => rw [List.map_cons, writeNumbered, ih]

/-- A digit is neither a placeholder nor a mark. -/
theorem read_of_isDigit {c : Char} (h : c.isDigit = true) :
    Token.read .code c = .char c ∧ Region.code.next c = .code := by
  have hMarks : ('?' :: Region.marks).any Char.isDigit = false := rfl
  have hPlain : c ∉ '?' :: Region.marks := fun hMem => List.any_eq_false.mp hMarks c hMem h
  rw [List.mem_cons, not_or] at hPlain
  exact ⟨by simp [Token.read, hPlain.1], Region.afterCode_of_not_mem_marks hPlain.2⟩

/-- Digits after a dollar sign are code without placeholders. -/
theorem tokensFrom_digits {digits : List Char} (h : ∀ c ∈ digits, c.isDigit = true)
    (rest : List Char) :
    tokensFrom .code (digits ++ rest) = digits.map .char ++ tokensFrom .code rest := by
  induction digits with
  | nil => rfl
  | cons c digits ih =>
    obtain ⟨hRead, hNext⟩ := read_of_isDigit (h c (List.mem_cons_self ..))
    rw [List.cons_append, tokensFrom_cons, hRead, hNext,
      ih fun x hx => h x (List.mem_cons_of_mem _ hx)]
    rfl

/-- A numbered text is read as characters alone. -/
theorem tokensFrom_writeNumbered (r : Region) (n : Nat) (text : List Char) :
    tokensFrom r (writeNumbered n (tokensFrom r text)) =
      (writeNumbered n (tokensFrom r text)).map .char := by
  induction text generalizing r n with
  | nil => rfl
  | cons c text ih =>
    rw [tokensFrom_cons]
    by_cases h : (r.isCode && c = '?') = true
    · obtain ⟨hCode, hMark⟩ : r.isCode = true ∧ c = '?' := by
        rwa [Bool.and_eq_true, decide_eq_true_eq] at h
      subst hMark
      have hRead : Token.read r '?' = .placeholder := if_pos h
      have hQuestion : r.next '?' = .code := Region.next_of_isCode hCode (by decide) (by decide)
      -- a dollar sign and digits open nothing, so what follows is read as before
      have hDollar : r.next '$' = .code := Region.next_of_isCode hCode (by decide) (by decide)
      have hWritten : Token.read r '$' = .char '$' := by simp [Token.read]
      rw [hRead, hQuestion, writeNumbered, List.cons_append, tokensFrom_cons, hWritten, hDollar,
        tokensFrom_digits fun x => Decimal.isDigit_of_mem_toDigits, ih, List.map_cons,
        List.map_append]
    · have hRead : Token.read r c = .char c := if_neg h
      rw [hRead, writeNumbered, tokensFrom_cons, hRead, ih, List.map_cons]

/--
**Numbering changes placeholders and nothing else.** The tokens of a text spell
the text. It can be cut at its placeholders, all of them, so that the `k`-th is
`?` in the text and `$k` in the numbered text, and all that stands between them
is the same. No placeholder is left to number a second time.
-/
theorem numberPlaceholders_lossless (sql : String) :
    (tokens sql).map Token.toChar = sql.toList ∧
    (∃ cut : Cut, cut.parts.length = countPlaceholders sql ∧ tokens sql = cut.tokens ∧
      sql.toList = cut.marked (fun _ => ['?']) ∧
      (numberPlaceholders sql).toList = cut.marked fun k => ("$" ++ toString k).toList) ∧
    countPlaceholders (numberPlaceholders sql) = 0 ∧
    numberPlaceholders (numberPlaceholders sql) = numberPlaceholders sql := by
  have hNumbered : tokens (numberPlaceholders sql) = (numberPlaceholders sql).toList.map .char := by
    rw [numberPlaceholders, tokens, String.toList_ofList]
    exact tokensFrom_writeNumbered .code 0 sql.toList
  refine ⟨map_toChar_tokens sql, ⟨Cut.ofTokens (tokens sql), ?_, ?_, ?_, ?_⟩, ?_, ?_⟩
  · exact Cut.length_parts_ofTokens (tokens sql)
  · exact (Cut.tokens_ofTokens (tokens sql)).symm
  · rw [Cut.marked, Cut.markedFrom_ofTokens_question, map_toChar_tokens]
  · rw [Cut.marked, Cut.markedFrom_ofTokens_number, numberPlaceholders, String.toList_ofList]
  · rw [countPlaceholders, hNumbered, count_placeholder_map_char]
  · conv => lhs; rw [numberPlaceholders, hNumbered, writeNumbered_map_char, String.ofList_toList]

end SqlPlan
