import Mathlib.Data.List.TakeWhile
import SqlPlan.Sql.Basic

/-!
# SqlPlan — closed texts

Whether a `?` is a placeholder hangs on the text before it: a quote, a comment
or a `-` at its end may swallow what follows. A text that leaves its reader
outside of all these lets what follows be read as if it stood alone, so the
placeholders of a concatenation are those of its parts. Blanks never matter to
that, which is why a text may be trimmed on the way:

* `EndsOutside` — a text with `n` placeholders that ends outside quotes and
  comments. What follows may begin with anything but `-` and `*`
  (`EndsOutside.append`);
* `EndsInCode` — no mark is left open either, so anything may follow
  (`EndsInCode.append`);
* `Closed` — the same, and a trimmed copy ends outside quotes and comments as
  well. Writing verbatim and splicing both keep a text closed
  (`Closed.append`, `Closed.joinText`);
* `countPlaceholders_trim` — trimming loses no placeholder.
-/

namespace SqlPlan

theorem Text.ne_of_isBlank {c m : Char} (h : isBlank c = true) (hm : isBlank m = false) :
    c ≠ m := by
  rintro rfl
  rw [h] at hm
  exact Bool.noConfusion hm

-- ---------------------------------------------------------------------------
-- Regions
-- ---------------------------------------------------------------------------

namespace Region

/-- Outside quotes and comments only a `-` or a `*` is read in the light of
the character before it. -/
theorem next_of_isCode {r : Region} (hr : r.isCode = true) {c : Char}
    (hDash : c ≠ '-') (hStar : c ≠ '*') : r.next c = afterCode c := by
  cases r with
  | code => rfl
  | minus => simp [next, hDash]
  | slash => simp [next, hStar]
  | quoted | lineComment | blockComment | blockStar => simp [isCode] at hr

/-- The characters that code does not read as themselves alone: they open
quoted text, or may begin a comment. -/
def marks : List Char := ['\x27', '\x22', '\x60', '-', '/']

/-- In code, the scanner stays in code at every character without a meaning of
its own. -/
theorem afterCode_of_not_mem_marks {c : Char} (h : c ∉ marks) : afterCode c = code := by
  simp only [marks, List.mem_cons, List.not_mem_nil, or_false, not_or] at h
  obtain ⟨hSingle, hDouble, hBack, hDash, hSlash⟩ := h
  simp [afterCode, isQuote, hSingle, hDouble, hBack, hDash, hSlash]

/-- A blank has no such meaning. -/
theorem afterCode_of_isBlank {c : Char} (h : Text.isBlank c = true) : afterCode c = code := by
  have hMarks : marks.any Text.isBlank = false := rfl
  exact afterCode_of_not_mem_marks fun hMem => List.any_eq_false.mp hMarks c hMem h

/-- A blank closes every mark that was open outside quotes and comments. -/
theorem next_of_isBlank {r : Region} (hr : r.isCode = true) {c : Char}
    (h : Text.isBlank c = true) : r.next c = code := by
  have hDash : c ≠ '-' := Text.ne_of_isBlank h (by decide)
  have hStar : c ≠ '*' := Text.ne_of_isBlank h (by decide)
  rw [next_of_isCode hr hDash hStar, afterCode_of_isBlank h]

theorem after_blanks {blanks : List Char} (h : ∀ c ∈ blanks, Text.isBlank c = true) :
    code.after blanks = code := by
  induction blanks with
  | nil => rfl
  | cons c rest ih =>
    rw [after_cons, next_of_isBlank rfl (h c (List.mem_cons_self ..))]
    exact ih fun x hx => h x (List.mem_cons_of_mem _ hx)

end Region

/-- Outside quotes and comments, a mark left open is forgotten at the first
character that does not take it up. -/
theorem tokensFrom_of_isCode {r : Region} (hr : r.isCode = true) {text : List Char}
    (h : ∀ c more, text = c :: more → r.next c = Region.code.next c) :
    tokensFrom r text = tokensFrom .code text := by
  cases text with
  | nil => rfl
  | cons c more =>
    have hRead : Token.read r c = Token.read .code c := by
      rw [Token.read, Token.read, hr]
      rfl
    rw [tokensFrom_cons, tokensFrom_cons, hRead, h c more rfl]

-- ---------------------------------------------------------------------------
-- Placeholders of a part
-- ---------------------------------------------------------------------------

/-- How many placeholders a text has that is read from a region on. -/
def placeholdersFrom (r : Region) (text : List Char) : Nat :=
  (tokensFrom r text).count .placeholder

theorem countPlaceholders_eq (sql : String) :
    countPlaceholders sql = placeholdersFrom .code sql.toList := rfl

/-- A text in two parts is counted part by part, the second from where the
first has led. -/
theorem placeholdersFrom_append (r : Region) (a b : List Char) :
    placeholdersFrom r (a ++ b) = placeholdersFrom r a + placeholdersFrom (r.after a) b := by
  rw [placeholdersFrom, tokensFrom_append, List.count_append]
  rfl

theorem placeholdersFrom_blanks (r : Region) {blanks : List Char}
    (h : ∀ c ∈ blanks, Text.isBlank c = true) : placeholdersFrom r blanks = 0 := by
  induction blanks generalizing r with
  | nil => rfl
  | cons c rest ih =>
    have hMark : c ≠ '?' := Text.ne_of_isBlank (h c (List.mem_cons_self ..)) (by decide)
    have hRest := ih (r.next c) fun x hx => h x (List.mem_cons_of_mem _ hx)
    rw [placeholdersFrom] at hRest ⊢
    simp [Token.read, hMark, hRest]

-- ---------------------------------------------------------------------------
-- Trimming
-- ---------------------------------------------------------------------------

namespace Text

/-- What trimming the end of a text drops is blank. -/
theorem exists_blanks_trimEnd (text : List Char) :
    ∃ blanks, text = trimEnd text ++ blanks ∧ ∀ c ∈ blanks, isBlank c = true := by
  refine ⟨(text.reverse.takeWhile isBlank).reverse, ?_, ?_⟩
  · rw [trimEnd, ← List.reverse_append, List.takeWhile_append_dropWhile, List.reverse_reverse]
  · intro c hc
    exact List.mem_takeWhile_imp (List.mem_reverse.mp hc)

theorem trimEnd_append_blanks (text : List Char) {blanks : List Char}
    (h : ∀ c ∈ blanks, isBlank c = true) : trimEnd (text ++ blanks) = trimEnd text := by
  have hDrop : blanks.reverse.dropWhile isBlank = [] := by
    rw [List.dropWhile_eq_nil_iff]
    intro c hc
    exact h c (List.mem_reverse.mp hc)
  rw [trimEnd, List.reverse_append, List.dropWhile_append, hDrop]
  rfl

theorem trimEnd_eq_nil {blanks : List Char} (h : ∀ c ∈ blanks, isBlank c = true) :
    trimEnd blanks = [] :=
  trimEnd_append_blanks [] h

/-- Trimming the end stops at the last character that is not blank. -/
theorem trimEnd_append_of_not_blank (text : List Char) {more : List Char} {c : Char}
    (hc : c ∈ more) (h : isBlank c = false) : trimEnd (text ++ more) = text ++ trimEnd more := by
  have hDrop : more.reverse.dropWhile isBlank ≠ [] := by
    rw [ne_eq, List.dropWhile_eq_nil_iff]
    intro hAll
    have := hAll c (List.mem_reverse.mpr hc)
    rw [h] at this
    exact absurd this (by simp)
  rw [trimEnd, List.reverse_append, List.dropWhile_append, if_neg (by simpa using hDrop),
    List.reverse_append, List.reverse_reverse]
  rfl

theorem trimEnd_trimEnd (text : List Char) : trimEnd (trimEnd text) = trimEnd text := by
  obtain ⟨blanks, hEq, hBlank⟩ := exists_blanks_trimEnd text
  conv => rhs; rw [hEq]
  exact (trimEnd_append_blanks _ hBlank).symm

/-- Trimming drops blanks from both ends, and nothing else. -/
theorem exists_blanks_trimBlanks (text : List Char) :
    ∃ before after, text = before ++ trimBlanks text ++ after ∧
      (∀ c ∈ before, isBlank c = true) ∧ ∀ c ∈ after, isBlank c = true := by
  obtain ⟨after, hEq, hAfter⟩ := exists_blanks_trimEnd (text.dropWhile isBlank)
  refine ⟨text.takeWhile isBlank, after, ?_, fun c => List.mem_takeWhile_imp, hAfter⟩
  rw [trimBlanks, List.append_assoc, ← hEq, List.takeWhile_append_dropWhile]

end Text

/-- To a reader outside quotes and comments it is the blanks at the end alone
that trimming takes away. -/
theorem Region.after_trimBlanks (text : List Char) :
    Region.code.after (Text.trimBlanks text) = Region.code.after (Text.trimEnd text) := by
  obtain ⟨lead, rest, hText, hLead, hRest⟩ : ∃ lead rest, text = lead ++ rest ∧
      (∀ c ∈ lead, Text.isBlank c = true) ∧ rest = text.dropWhile Text.isBlank :=
    ⟨text.takeWhile Text.isBlank, _, List.takeWhile_append_dropWhile.symm,
      fun c => List.mem_takeWhile_imp, rfl⟩
  rw [Text.trimBlanks, ← hRest, hText]
  -- blanks in front leave the scanner in code, unless they are all there is
  by_cases h : ∃ c ∈ rest, Text.isBlank c = false
  · obtain ⟨c, hc, hBlank⟩ := h
    rw [Text.trimEnd_append_of_not_blank _ hc hBlank, Region.after_append,
      Region.after_blanks hLead]
  · have hAll : ∀ c ∈ rest, Text.isBlank c = true := by
      intro c hc
      by_contra hBlank
      exact h ⟨c, hc, by simpa using hBlank⟩
    rw [Text.trimEnd_append_blanks _ hAll, Text.trimEnd_eq_nil hAll, Text.trimEnd_eq_nil hLead]

/-- Trimming loses no placeholder. -/
theorem countPlaceholders_trim (sql : String) :
    countPlaceholders (Text.trim sql) = countPlaceholders sql := by
  obtain ⟨lead, tail, hText, hLead, hTail⟩ := Text.exists_blanks_trimBlanks sql.toList
  rw [countPlaceholders_eq, countPlaceholders_eq, Text.trim, String.toList_ofList]
  conv => rhs; rw [hText]
  rw [placeholdersFrom_append, placeholdersFrom_append, placeholdersFrom_blanks _ hLead,
    placeholdersFrom_blanks _ hTail, Region.after_blanks hLead]
  omega

-- ---------------------------------------------------------------------------
-- Texts that end outside quotes and comments
-- ---------------------------------------------------------------------------

/-- Read from outside quotes and comments, the text ends outside of them and
has `n` placeholders. -/
structure EndsOutside (text : String) (n : Nat) : Prop where
  outside : (Region.code.after text.toList).isCode = true
  count   : countPlaceholders text = n

/-- The text also leaves no mark open that could begin a comment with what
follows. -/
structure EndsInCode (text : String) (n : Nat) : Prop where
  code  : Region.code.after text.toList = .code
  count : countPlaceholders text = n

instance (text : String) (n : Nat) : Decidable (EndsInCode text n) :=
  decidable_of_iff (Region.code.after text.toList = .code ∧ countPlaceholders text = n)
    ⟨fun h => ⟨h.1, h.2⟩, fun h => ⟨h.code, h.count⟩⟩

/-- The last character is a `-` or a `/` of code, which may begin a comment
with what follows. -/
def EndsInMark (text : String) : Prop :=
  Region.code.after text.toList = .minus ∨ Region.code.after text.toList = .slash

instance (text : String) : Decidable (EndsInMark text) := instDecidableOr

/-- To end in code is to end outside quotes and comments without a mark. -/
theorem endsInCode_iff {text : String} {n : Nat} :
    EndsInCode text n ↔ EndsOutside text n ∧ ¬ EndsInMark text := by
  unfold EndsInMark
  constructor
  · intro h
    exact ⟨⟨by rw [h.code]; rfl, h.count⟩, by simp [h.code]⟩
  · rintro ⟨h, hMark⟩
    have hOutside := h.outside
    refine ⟨?_, h.count⟩
    cases hRegion : Region.code.after text.toList with
    | code => rfl
    | minus => exact absurd (Or.inl hRegion) hMark
    | slash => exact absurd (Or.inr hRegion) hMark
    | quoted | lineComment | blockComment | blockStar => simp [hRegion, Region.isCode] at hOutside

/-- The first character is read alike whatever code stands before it. -/
def startsFresh (text : String) : Bool :=
  text.toList.head?.all fun c => c ≠ '-' && c ≠ '*'

/-- How a text begins is decided by its first part, unless that is empty. -/
theorem startsFresh_append {a : String} (h : startsFresh a = true) (hText : a ≠ "")
    (b : String) : startsFresh (a ++ b) = true := by
  rw [startsFresh, String.toList_append]
  cases hList : a.toList with
  | nil => exact absurd (String.toList_eq_nil_iff.mp hList) hText
  | cons c rest => simpa [startsFresh, hList] using h

/-- The first character of such a text is read as if nothing stood before it. -/
theorem next_of_startsFresh {r : Region} (hr : r.isCode = true) {text : String}
    (h : startsFresh text = true) {c : Char} {more : List Char} (hList : text.toList = c :: more) :
    r.next c = Region.code.next c := by
  simp only [startsFresh, hList, List.head?_cons, Option.all_some, Bool.and_eq_true,
    decide_eq_true_eq] at h
  rw [Region.next_of_isCode hr h.1 h.2, Region.next_of_isCode rfl h.1 h.2]

/-- Outside quotes and comments, a text that starts fresh is read as if it
stood alone. -/
theorem after_of_startsFresh {r : Region} (hr : r.isCode = true) {text : String}
    (h : startsFresh text = true) (hText : text ≠ "") :
    r.after text.toList = Region.code.after text.toList := by
  cases hList : text.toList with
  | nil => exact absurd (String.toList_eq_nil_iff.mp hList) hText
  | cons c more =>
    rw [Region.after_cons, Region.after_cons, next_of_startsFresh hr h hList]

/-- Such a text has the same placeholders wherever in code the scanner stands. -/
theorem placeholdersFrom_of_startsFresh {r : Region} (hr : r.isCode = true) {text : String}
    (h : startsFresh text = true) : placeholdersFrom r text.toList = countPlaceholders text := by
  rw [countPlaceholders_eq, placeholdersFrom, placeholdersFrom,
    tokensFrom_of_isCode hr fun _ _ hList => next_of_startsFresh hr h hList]

namespace EndsInCode

variable {a b : String} {m n : Nat}

theorem of_eq (h : EndsInCode a m) (hEq : m = n) : EndsInCode a n := hEq ▸ h

theorem endsOutside (h : EndsInCode a m) : EndsOutside a m := (endsInCode_iff.mp h).1

/-- After a text that ends in code, another counts as if it stood alone. -/
theorem append (ha : EndsInCode a m) (hb : EndsInCode b n) : EndsInCode (a ++ b) (m + n) := by
  refine ⟨?_, ?_⟩
  · rw [String.toList_append, Region.after_append, ha.code, hb.code]
  · rw [countPlaceholders_eq, String.toList_append, placeholdersFrom_append, ha.code,
      ← countPlaceholders_eq, ← countPlaceholders_eq, ha.count, hb.count]

/-- The text after one that ends in code may end at a dash or a slash. -/
theorem append_outside (ha : EndsInCode a m) (hb : EndsOutside b n) :
    EndsOutside (a ++ b) (m + n) := by
  refine ⟨?_, ?_⟩
  · rw [String.toList_append, Region.after_append, ha.code, hb.outside]
  · rw [countPlaceholders_eq, String.toList_append, placeholdersFrom_append, ha.code,
      ← countPlaceholders_eq, ← countPlaceholders_eq, ha.count, hb.count]

/-- A trimmed concatenation ends where its trimmed second part does, unless
that part is blank. -/
theorem after_trim_append (ha : EndsInCode a m) {c : Char} (hc : c ∈ b.toList)
    (hBlank : Text.isBlank c = false) :
    Region.code.after (Text.trim (a ++ b)).toList = Region.code.after (Text.trim b).toList := by
  rw [Text.trim, Text.trim, String.toList_ofList, String.toList_ofList, Region.after_trimBlanks,
    Region.after_trimBlanks, String.toList_append, Text.trimEnd_append_of_not_blank _ hc hBlank,
    Region.after_append, ha.code]

theorem empty : EndsInCode "" 0 := by decide

/-- Nothing is bound by no text. -/
theorem eq_zero (h : EndsInCode "" n) : n = 0 := by
  rw [← h.count]
  rfl

end EndsInCode

namespace EndsOutside

variable {a b : String} {m n : Nat}

theorem of_eq (h : EndsOutside a m) (hEq : m = n) : EndsOutside a n := hEq ▸ h

/-- After a text that ends at a dash or a slash, the next has to begin fresh. -/
theorem append (ha : EndsOutside a m) (hb : EndsOutside b n) (hFresh : startsFresh b = true) :
    EndsOutside (a ++ b) (m + n) := by
  refine ⟨?_, ?_⟩
  · rw [String.toList_append, Region.after_append]
    by_cases hEmpty : b = ""
    · subst hEmpty
      exact ha.outside
    · rw [after_of_startsFresh ha.outside hFresh hEmpty]
      exact hb.outside
  · rw [countPlaceholders_eq, String.toList_append, placeholdersFrom_append,
      placeholdersFrom_of_startsFresh ha.outside hFresh, ← countPlaceholders_eq, ha.count,
      hb.count]

/-- A text that starts fresh closes what was left open before it. -/
theorem append_code (ha : EndsOutside a m) (hb : EndsInCode b n) (hFresh : startsFresh b = true)
    (hText : b ≠ "") : EndsInCode (a ++ b) (m + n) := by
  refine ⟨?_, (ha.append hb.endsOutside hFresh).count⟩
  rw [String.toList_append, Region.after_append, after_of_startsFresh ha.outside hFresh hText,
    hb.code]

end EndsOutside

-- ---------------------------------------------------------------------------
-- Closed texts
-- ---------------------------------------------------------------------------

/-- A text with `n` placeholders that ends in code. A trimmed copy ends outside
quotes and comments as well, though it may end in a mark. -/
structure Closed (text : String) (n : Nat) : Prop extends EndsInCode text n where
  trimmed : (Region.code.after (Text.trim text).toList).isCode = true

instance (text : String) (n : Nat) : Decidable (Closed text n) :=
  decidable_of_iff
    (EndsInCode text n ∧ (Region.code.after (Text.trim text).toList).isCode = true)
    ⟨fun h => ⟨h.1, h.2⟩, fun h => ⟨h.toEndsInCode, h.trimmed⟩⟩

namespace Closed

variable {a b : String} {m n : Nat}

theorem of_eq (h : Closed a m) (hEq : m = n) : Closed a n := hEq ▸ h

/-- What is left of a closed text after trimming. -/
theorem trim (h : Closed a n) : EndsOutside (Text.trim a) n :=
  ⟨h.trimmed, by rw [countPlaceholders_trim, h.count]⟩

theorem empty : Closed "" 0 := ⟨.empty, by decide⟩

/-- Closed texts side by side are closed, and their placeholders add up. -/
theorem append (ha : Closed a m) (hb : Closed b n) : Closed (a ++ b) (m + n) := by
  refine ⟨ha.toEndsInCode.append hb.toEndsInCode, ?_⟩
  by_cases h : ∃ c ∈ b.toList, Text.isBlank c = false
  · obtain ⟨c, hc, hBlank⟩ := h
    rw [ha.after_trim_append hc hBlank]
    exact hb.trimmed
  -- trimming goes through a blank second part into the first
  · have hAll : ∀ c ∈ b.toList, Text.isBlank c = true := by
      intro c hc
      by_contra hBlank
      exact h ⟨c, hc, by simpa using hBlank⟩
    have hA := ha.trimmed
    rw [Text.trim, String.toList_ofList, Region.after_trimBlanks] at hA ⊢
    rw [String.toList_append, Text.trimEnd_append_blanks _ hAll]
    exact hA

/-- Trimming keeps a text closed that does not end in a mark for it. -/
theorem trim_closed (h : Closed a n) (hMark : ¬ EndsInMark (Text.trim a)) :
    Closed (Text.trim a) n := by
  have hTrim := endsInCode_iff.mpr ⟨h.trim, hMark⟩
  have hCode := hTrim.code
  refine ⟨hTrim, ?_⟩
  rw [Text.trim, String.toList_ofList] at hCode
  rw [Text.trim, Text.trim, String.toList_ofList, String.toList_ofList, Region.after_trimBlanks,
    Text.trimBlanks, Text.trimEnd_trimEnd, ← Text.trimBlanks, hCode]
  rfl

/-- A closed fragment set after a closed text. -/
theorem joinText (ha : Closed a m) (hb : Closed b n) : Closed (Sql.joinText a b) (m + n) := by
  unfold Sql.joinText
  -- an empty piece adds nothing, and a space between two pieces opens nothing
  split
  · rename_i hEmpty
    subst hEmpty
    exact ha.of_eq (by rw [hb.eq_zero]; rfl)
  · split
    · exact ha.append hb
    · have hSpace : Closed " " 0 := ⟨by decide, by decide⟩
      exact ((ha.append hSpace).append hb).of_eq (by omega)

/-- Texts with a separator between them have the placeholders of all. -/
theorem intercalate {separator : String} (hSep : Closed separator 0) {parts : List Sql}
    (h : ∀ q ∈ parts, Closed q.text q.params.length) :
    Closed (separator.intercalate (parts.map Sql.text)) (parts.flatMap Sql.params).length := by
  induction parts with
  | nil => exact empty
  | cons q rest ih =>
    have hHead := h q (List.mem_cons_self ..)
    have hRest := ih fun x hx => h x (List.mem_cons_of_mem _ hx)
    cases rest with
    | nil =>
      rw [List.map_singleton, String.intercalate_singleton, List.flatMap_singleton]
      exact hHead
    | cons x rest =>
      rw [List.map_cons, List.map_cons, String.intercalate_cons_cons, List.flatMap_cons,
        List.length_append]
      exact (hHead.append hSep).append hRest

/-- Texts that bind nothing, with a separator between them. -/
theorem intercalate_zero {separator : String} (hSep : Closed separator 0)
    {texts : List String} (h : ∀ x ∈ texts, Closed x 0) :
    Closed (separator.intercalate texts) 0 := by
  have hParts : ∀ q ∈ texts.map Sql.ofText, Closed q.text q.params.length := by
    intro q hq
    obtain ⟨x, hx, rfl⟩ := List.mem_map.mp hq
    exact h x hx
  have hText : (texts.map Sql.ofText).map Sql.text = texts := by
    rw [List.map_map]
    exact List.map_id texts
  have hParams : (texts.map Sql.ofText).flatMap Sql.params = [] := by
    rw [List.flatMap_map, List.flatMap_eq_nil_iff]
    exact fun x _ => rfl
  have hAll := intercalate hSep hParts
  rwa [hText, hParams] at hAll

end Closed

end SqlPlan
