import SqlPlan.Json.Reader
import SqlPlan.Proofs.Digits

/-!
# SqlPlan — the tokens of a written value

A value written without blanks is cut into exactly the tokens that it consists of,
whatever follows it, as long as that neither continues a number nor a word:

* `Json.Legible` — the values that are written so that they can be read: nothing is
  void, and every number is read back from its text;
* `Json.toTokens` — the tokens a value consists of;
* `Json.exists_pieces` — a string is read as its own characters, escaped or not;
* `Json.ofNumber?_toString`, `Json.tokensFrom?_number` — an integer is read back, and a
  number goes on up to the first character that is not of a number;
* `Json.tokensFrom?_compact` — so the text of a value falls into its tokens.
-/

namespace SqlPlan.Json

-- ---------------------------------------------------------------------------
-- Values that can be read
-- ---------------------------------------------------------------------------

mutual

/-- Nothing is void, and integers fit 64 bits, signed or not. -/
def Legible : Json → Prop
  | .int n => -0x8000000000000000 ≤ n ∧ n < 0x10000000000000000
  | .arr items => AllLegible items
  | .obj members => MembersLegible members
  | .void => False
  | _ => True

def AllLegible : List Json → Prop
  | [] => True
  | j :: rest => Legible j ∧ AllLegible rest

def MembersLegible : List (String × Json) → Prop
  | [] => True
  | (_, j) :: rest => Legible j ∧ MembersLegible rest

end

theorem allLegible_iff {items : List Json} : AllLegible items ↔ ∀ j ∈ items, j.Legible := by
  induction items with
  | nil => simp [AllLegible]
  | cons j rest ih => simp [AllLegible, ih]

theorem allLegible_map {α : Type} {write : α → Json} {items : List α}
    (h : ∀ a ∈ items, (write a).Legible) : AllLegible (items.map write) := by
  refine allLegible_iff.mpr fun j hj => ?_
  obtain ⟨a, ha, rfl⟩ := List.mem_map.mp hj
  exact h a ha

theorem membersLegible_iff {members : List (String × Json)} :
    MembersLegible members ↔ ∀ m ∈ members, m.2.Legible := by
  induction members with
  | nil => simp [MembersLegible]
  | cons m rest ih => obtain ⟨name, j⟩ := m; simp [MembersLegible, ih]

mutual

/-- The doubles of a value. -/
def floats : Json → List Float
  | .float x => [x]
  | .arr items => itemFloats items
  | .obj members => memberFloats members
  | _ => []

def itemFloats : List Json → List Float
  | [] => []
  | j :: rest => floats j ++ itemFloats rest

def memberFloats : List (String × Json) → List Float
  | [] => []
  | (_, j) :: rest => floats j ++ memberFloats rest

end

/-- The double is written as a number that is read back as the same double. -/
def ReadsBack (x : Float) : Prop :=
  x.isFinite = true ∧ ofNumber? (floatStyle.write x).toList = some (.float x)

-- ---------------------------------------------------------------------------
-- The tokens of a value
-- ---------------------------------------------------------------------------

mutual

/-- The tokens that a value consists of. -/
def toTokens : Json → List Token
  | .arr items => .openArr :: (itemTokens items ++ [.closeArr])
  | .obj members => .openObj :: (memberTokens members ++ [.closeObj])
  | .str s => [.text (some s)]
  | j => [.atom j]

/-- The tokens of items, with commas between them. -/
def itemTokens : List Json → List Token
  | [] => []
  | [j] => toTokens j
  | j :: k :: rest => toTokens j ++ .comma :: itemTokens (k :: rest)

/-- The tokens of members, with commas between them. -/
def memberTokens : List (String × Json) → List Token
  | [] => []
  | [(name, j)] => .text (some name) :: .colon :: toTokens j
  | (name, j) :: m :: rest =>
    .text (some name) :: .colon :: (toTokens j ++ .comma :: memberTokens (m :: rest))

end

-- ---------------------------------------------------------------------------
-- Characters
-- ---------------------------------------------------------------------------

section Steps

variable {mode next : Mode} {c : Char} {rest : List Char}

/-- A character that completes tokens. -/
theorem tokensFrom?_cons {done : List Token} (h : mode.step? c = some (done, next)) :
    tokensFrom? mode (c :: rest) = (tokensFrom? next rest).map (done ++ ·) := by
  rw [tokensFrom?, h, Option.map_eq_bind]
  rfl

/-- A character that completes nothing yet. -/
theorem tokensFrom?_silent (h : mode.step? c = some ([], next)) :
    tokensFrom? mode (c :: rest) = tokensFrom? next rest := by
  rw [tokensFrom?_cons h]
  simp

end Steps

-- ---------------------------------------------------------------------------
-- Strings
-- ---------------------------------------------------------------------------

/-- A unit outside the surrogates stands for a character of its own. -/
theorem text?_unit {n : Nat} (h : n < 0xD800) (more : List Piece) :
    text? (.unit n :: more) = (text? more).map (Char.ofNat n :: ·) := by
  cases more with
  | nil => simp [text?, h]
  | cons p rest => cases p <;> simp [text?, h]

section Characters

variable (ps : List Piece) (rest : List Char)

/-- A backslash and a letter other than `u` are read as the character they stand for. -/
theorem tokensFrom?_letter {e c : Char} (hLetter : e ≠ 'u') (hMeaning : escaped? e = some c) :
    tokensFrom? (.string ps) ('\\' :: e :: rest) = tokensFrom? (.string (.char c :: ps)) rest := by
  have hMark : (Mode.string ps).step? '\\' = some ([], .backslash ps) := by simp [Mode.step?]
  have hChar : (Mode.backslash ps).step? e = some ([], .string (.char c :: ps)) := by
    simp [Mode.step?, hLetter, hMeaning]
  rw [tokensFrom?_silent hMark, tokensFrom?_silent hChar]

/-- Four hexadecimal digits, of which the first two are zero, are read as a unit. -/
theorem tokensFrom?_number_escape {a b : Nat} (ha : a < 16) (hb : b < 16) :
    tokensFrom? (.string ps) ('\\' :: 'u' :: '0' :: '0' :: hexDigit a :: hexDigit b :: rest) =
      tokensFrom? (.string (.unit (16 * a + b) :: ps)) rest := by
  have hMark : (Mode.string ps).step? '\\' = some ([], .backslash ps) := by simp [Mode.step?]
  have hUnit : (Mode.backslash ps).step? 'u' = some ([], .hex ps 0 0) := by simp [Mode.step?]
  have hZero : hexValue? '0' = some 0 := hexValue?_hexDigit 0 (by omega)
  rw [tokensFrom?_silent hMark, tokensFrom?_silent hUnit,
    tokensFrom?_silent (show _ = some ([], Mode.hex ps 0 1) by simp [Mode.step?, hZero]),
    tokensFrom?_silent (show _ = some ([], Mode.hex ps 0 2) by simp [Mode.step?, hZero]),
    tokensFrom?_silent (show _ = some ([], Mode.hex ps a 3) by
      simp [Mode.step?, hexValue?_hexDigit a ha]),
    tokensFrom?_silent (show _ = some ([], Mode.string (.unit (16 * a + b) :: ps)) by
      simp [Mode.step?, hexValue?_hexDigit b hb])]

end Characters

/-- Inside a string the text of the character is read as that piece, which stands for it. -/
structure Piece.StandsFor (p : Piece) (c : Char) : Prop where
  read : ∀ ps rest, tokensFrom? (.string ps) (escapeChar c ++ rest) =
    tokensFrom? (.string (p :: ps)) rest
  text : ∀ more, text? (p :: more) = (text? more).map (c :: ·)

/-- Every character has a piece of text that stands for it in a string. -/
theorem exists_standsFor (c : Char) : ∃ p : Piece, p.StandsFor c := by
  have hLetter : ∀ e, escapeChar c = ['\\', e] → e ≠ 'u' → escaped? e = some c →
      ∃ p : Piece, p.StandsFor c := by
    intro e hText hOther hMeaning
    refine ⟨.char c, fun ps rest => ?_, fun more => rfl⟩
    rw [hText]
    exact tokensFrom?_letter ps rest hOther hMeaning
  unfold escapeChar at hLetter
  -- seven characters are escaped by a letter of their own
  by_cases h1 : c = '\x22'
  · exact hLetter '\x22' (by simp [h1]) (by decide) (by simp [escaped?, h1])
  by_cases h2 : c = '\\'
  · exact hLetter '\\' (by simp [h2]) (by decide) (by simp [escaped?, h2])
  by_cases h3 : c = '\x08'
  · exact hLetter 'b' (by simp [h3]) (by decide) (by simp [escaped?, h3])
  by_cases h4 : c = '\t'
  · exact hLetter 't' (by simp [h4]) (by decide) (by simp [escaped?, h4])
  by_cases h5 : c = '\n'
  · exact hLetter 'n' (by simp [h5]) (by decide) (by simp [escaped?, h5])
  by_cases h6 : c = '\x0c'
  · exact hLetter 'f' (by simp [h6]) (by decide) (by simp [escaped?, h6])
  by_cases h7 : c = '\r'
  · exact hLetter 'r' (by simp [h7]) (by decide) (by simp [escaped?, h7])
  have hText : escapeChar c = if c.toNat < 0x20 then
      ['\\', 'u', '0', '0', hexDigit (c.toNat / 16), hexDigit (c.toNat % 16)] else [c] := by
    simp only [escapeChar, h1, h2, h3, h4, h5, h6, h7, if_false]
  by_cases hControl : c.toNat < 0x20
  · -- a control character is written by its number
    rw [if_pos hControl] at hText
    refine ⟨.unit c.toNat, fun ps rest => ?_, fun more => ?_⟩
    · have hRead := tokensFrom?_number_escape ps rest (a := c.toNat / 16) (b := c.toNat % 16)
        (by omega) (by omega)
      rw [Nat.div_add_mod] at hRead
      rw [hText]
      exact hRead
    · rw [text?_unit (by omega), Char.ofNat_toNat]
  -- any other stands for itself, and the reader stays silent at it
  · rw [if_neg hControl] at hText
    refine ⟨.char c, fun ps rest => ?_, fun more => rfl⟩
    rw [hText]
    refine tokensFrom?_silent ?_
    have hVal : ¬ c.val < 0x20 := by
      rw [UInt32.lt_iff_toNat_lt]
      exact hControl
    simp [Mode.step?, h1, h2, hVal]

/-- The characters of a string, escaped where need be, are read as pieces that denote them. -/
theorem exists_pieces (cs : List Char) :
    ∃ qs, (∀ ps rest, tokensFrom? (.string ps) (cs.flatMap escapeChar ++ rest) =
        tokensFrom? (.string (qs.reverse ++ ps)) rest) ∧ text? qs = some cs := by
  induction cs with
  | nil => exact ⟨[], fun ps rest => rfl, rfl⟩
  | cons c cs ih =>
    obtain ⟨p, hp⟩ := exists_standsFor c
    obtain ⟨qs, hRead, hText⟩ := ih
    refine ⟨p :: qs, fun ps rest => ?_, ?_⟩
    · rw [List.flatMap_cons, List.append_assoc, hp.read, hRead]
      simp
    · rw [hp.text, hText]
      rfl

/-- A string in its quotes is one token. -/
theorem tokensFrom?_quote (s : String) (rest : List Char) :
    tokensFrom? .between ((quote s).toList ++ rest) =
      (tokensFrom? .between rest).map (.text (some s) :: ·) := by
  obtain ⟨qs, hRead, hText⟩ := exists_pieces s.toList
  have hText' : (quote s).toList ++ rest =
      '\x22' :: (s.toList.flatMap escapeChar ++ '\x22' :: rest) := by
    simp [quote]
  have hOpen : Mode.between.step? '\x22' = some ([], .string []) := by simp [Mode.step?, start?]
  have hClose : (Mode.string (qs.reverse ++ [])).step? '\x22' =
      some ([.text (some s)], .between) := by
    simp [Mode.step?, hText]
  rw [hText', tokensFrom?_silent hOpen, hRead, tokensFrom?_cons hClose]
  rfl

-- ---------------------------------------------------------------------------
-- Numbers and words
-- ---------------------------------------------------------------------------

/-- Nothing follows, or a character that neither a number nor a word goes on with. -/
def Delimited : List Char → Prop
  | [] => True
  | c :: _ => isNumberChar c = false ∧ c.isAlpha = false

/-- A mode that keeps characters of a kind takes all of them. -/
theorem tokensFrom?_append_of_keeps {m : List Char → Mode} {p : Char → Bool}
    (hKeeps : ∀ read c, p c = true → (m read).step? c = some ([], m (c :: read)))
    {chars : List Char} (h : ∀ c ∈ chars, p c = true) (read rest : List Char) :
    tokensFrom? (m read) (chars ++ rest) = tokensFrom? (m (chars.reverse ++ read)) rest := by
  induction chars generalizing read with
  | nil => rfl
  | cons c chars ih =>
    have hStep := hKeeps read c (h c List.mem_cons_self)
    rw [List.cons_append, tokensFrom?_silent hStep, ih fun d hd => h d (List.mem_cons_of_mem _ hd)]
    simp

/-- A mode that a delimiter ends leaves its token before what follows. -/
theorem tokensFrom?_of_ends {mode : Mode} {j : Json} {rest : List Char}
    (hFinish : mode.finish? = some [.atom j])
    (hEnds : ∀ c ∈ rest.head?, mode.step? c = do
      let done ← mode.finish?
      let (more, next) ← start? c
      some (done ++ more, next)) :
    tokensFrom? mode rest = (tokensFrom? .between rest).map (.atom j :: ·) := by
  cases rest with
  | nil =>
    rw [tokensFrom?, hFinish]
    simp [tokensFrom?, Mode.finish?]
  | cons c rest =>
    rw [tokensFrom?, hEnds c rfl, hFinish, tokensFrom?]
    cases hStart : start? c with
    | none => simp [Mode.step?, hStart]
    | some found =>
      obtain ⟨more, next⟩ := found
      cases hMore : tokensFrom? next rest <;> simp [Mode.step?, hStart, hMore]

/-- The digits that a text begins with. -/
theorem of_digits? {cs ds rest : List Char} (h : digits? cs = some (ds, rest)) :
    cs = ds ++ rest ∧ ds ≠ [] ∧ ∀ c ∈ ds, c.isDigit = true := by
  simp only [digits?, List.span_eq_takeWhile_dropWhile] at h
  split at h
  · simp at h
  · rename_i hFound
    obtain ⟨rfl, rfl⟩ : cs.takeWhile Char.isDigit = ds ∧ cs.dropWhile Char.isDigit = rest := by
      simpa using h
    refine ⟨List.takeWhile_append_dropWhile.symm, fun hNil => ?_, fun c hc => ?_⟩
    · exact hFound _ (by rw [hNil])
    · exact List.all_eq_true.mp List.all_takeWhile c hc

theorem digits?_of_wholeDigits? {cs : List Char} {found : List Char × List Char}
    (h : wholeDigits? cs = some found) : digits? cs = some found := by
  unfold wholeDigits? at h
  split at h
  · simp at h
  · exact h

/-- Whether all of the characters may stand in a number. -/
def AreNumeric (cs : List Char) : Prop := ∀ c ∈ cs, isNumberChar c = true

theorem AreNumeric.of_digits {cs : List Char} (h : ∀ c ∈ cs, c.isDigit = true) :
    AreNumeric cs := by
  intro c hc
  simp [isNumberChar, h c hc]

/-- Characters of numbers side by side are characters of numbers. -/
theorem AreNumeric.append {cs ds : List Char} (hc : AreNumeric cs) (hd : AreNumeric ds) :
    AreNumeric (cs ++ ds) :=
  List.forall_mem_append.mpr ⟨hc, hd⟩

theorem AreNumeric.cons {c : Char} {cs : List Char} (hc : isNumberChar c = true)
    (h : AreNumeric cs) : AreNumeric (c :: cs) :=
  List.forall_mem_cons.mpr ⟨hc, h⟩

/-- A fraction that is read is made of characters of numbers. -/
theorem areNumeric_of_fractionDigits? {cs ds rest : List Char}
    (h : fractionDigits? cs = some (ds, rest)) (hRest : AreNumeric rest) : AreNumeric cs := by
  unfold fractionDigits? at h
  split at h
  · obtain ⟨rfl, -, hDigits⟩ := of_digits? h
    exact ((AreNumeric.of_digits hDigits).append hRest).cons (by decide)
  · obtain ⟨-, rfl⟩ : [] = ds ∧ cs = rest := by simpa using h
    exact hRest

theorem areNumeric_of_exponentDigits? {cs : List Char} {e : Int}
    (h : exponentDigits? cs = some (e, [])) : AreNumeric cs := by
  have hDigits : ∀ (cs : List Char) (g : List Char × List Char → Int × List Char),
      (∀ found, (g found).2 = found.2) → (digits? cs).map g = some (e, []) → AreNumeric cs := by
    intro cs g hRest h
    obtain ⟨⟨ds, rest⟩, hFound, hPair⟩ := Option.map_eq_some_iff.mp h
    obtain ⟨rfl, -, hAll⟩ := of_digits? hFound
    have hNil : rest = [] := by
      have hSnd := hRest (ds, rest)
      rw [hPair] at hSnd
      exact hSnd.symm
    rw [hNil, List.append_nil]
    exact AreNumeric.of_digits hAll
  -- with a sign in front or without
  unfold exponentDigits? at h
  split at h
  · exact (hDigits _ _ (fun _ => rfl) h).cons (by decide)
  · exact (hDigits _ _ (fun _ => rfl) h).cons (by decide)
  · exact hDigits _ _ (fun _ => rfl) h

/-- A number without its sign begins with a digit and holds nothing foreign. -/
theorem of_ofUnsigned? {negative : Bool} {cs : List Char} {j : Json}
    (h : ofUnsigned? negative cs = some j) :
    AreNumeric cs ∧ ∃ c rest, cs = c :: rest ∧ c.isDigit = true := by
  simp only [ofUnsigned?, Option.bind_eq_bind, Option.bind_eq_some_iff] at h
  obtain ⟨⟨whole, afterWhole⟩, hWhole, ⟨fraction, rest⟩, hFraction, hEnd⟩ := h
  obtain ⟨rfl, hNonempty, hDigits⟩ := of_digits? (digits?_of_wholeDigits? hWhole)
  -- behind the fraction stands nothing or an exponent that ends the text
  have hRest : AreNumeric rest := by
    simp only at hEnd
    split at hEnd
    · simp [AreNumeric]
    · rename_i mark rest
      split at hEnd
      · rename_i hMark
        obtain ⟨⟨e, afterExponent⟩, hExponent, hEnd⟩ := Option.bind_eq_some_iff.mp hEnd
        have hMarked : isNumberChar mark = true := by
          rcases hMark with rfl | rfl <;> decide
        split at hEnd
        · rename_i hPair
          obtain ⟨rfl, rfl⟩ := Prod.mk.inj hPair
          exact (areNumeric_of_exponentDigits? hExponent).cons hMarked
        · simp at hEnd
      · simp at hEnd
  refine ⟨(AreNumeric.of_digits hDigits).append
    (areNumeric_of_fractionDigits? hFraction hRest), ?_⟩
  obtain ⟨c, whole, rfl⟩ := List.exists_cons_of_ne_nil hNonempty
  exact ⟨c, whole ++ afterWhole, rfl, hDigits c List.mem_cons_self⟩

/-- A number begins with a digit or a minus and holds nothing foreign. -/
theorem of_ofNumber? {cs : List Char} {j : Json} (h : ofNumber? cs = some j) :
    AreNumeric cs ∧ ∃ c rest, cs = c :: rest ∧ (c.isDigit = true ∨ c = '-') := by
  unfold ofNumber? at h
  split at h
  · rename_i rest
    obtain ⟨hAll, -⟩ := of_ofUnsigned? h
    exact ⟨hAll.cons (by decide), '-', rest, rfl, .inr rfl⟩
  · obtain ⟨hAll, c, rest, hCs, hDigit⟩ := of_ofUnsigned? h
    exact ⟨hAll, c, rest, hCs, .inl hDigit⟩

theorem start?_of_isDigit {c : Char} (h : c.isDigit = true) :
    start? c = some ([], .number [c]) := by
  have hRange : 48 ≤ c.toNat ∧ c.toNat ≤ 57 := by
    simpa [Char.isDigit, UInt32.le_iff_toNat_le] using h
  have hOther : ∀ d : Char, (d.toNat < 48 ∨ 57 < d.toNat) → c ≠ d := by
    rintro d hd rfl
    omega
  simp [start?, h, hOther ' ' (by decide), hOther '\t' (by decide), hOther '\n' (by decide),
    hOther '\r' (by decide), hOther '[' (by decide), hOther ']' (by decide),
    hOther '\x7b' (by decide), hOther '\x7d' (by decide), hOther ':' (by decide),
    hOther ',' (by decide), hOther '\x22' (by decide)]

/-- A number is one token, whatever its form. -/
theorem tokensFrom?_number {cs rest : List Char} {j : Json} (hNumber : ofNumber? cs = some j)
    (hRest : Delimited rest) :
    tokensFrom? .between (cs ++ rest) = (tokensFrom? .between rest).map (.atom j :: ·) := by
  obtain ⟨hAll, c, cs, rfl, hHead⟩ := of_ofNumber? hNumber
  have hStart : Mode.between.step? c = some ([], .number [c]) := by
    rcases hHead with hDigit | rfl
    · exact start?_of_isDigit hDigit
    · rfl
  have hKeeps : ∀ read c, isNumberChar c = true →
      (Mode.number read).step? c = some ([], .number (c :: read)) := by
    intro read c h
    simp [Mode.step?, h]
  rw [List.cons_append, tokensFrom?_silent hStart,
    tokensFrom?_append_of_keeps hKeeps fun d hd => hAll d (List.mem_cons_of_mem _ hd)]
  -- the number ends where no character of numbers follows
  refine tokensFrom?_of_ends (by simp [Mode.finish?, hNumber]) fun d hd => ?_
  obtain ⟨r, rfl⟩ : ∃ r, rest = d :: r := List.head?_eq_some_iff.mp hd
  simp [Mode.step?, hRest.1]

/-- A word that stands for a value is one token. -/
theorem tokensFrom?_word {c : Char} {cs rest : List Char} {j : Json}
    (hWord : ofWord? (c :: cs) = some j) (hLetters : cs.all Char.isAlpha = true)
    (hStart : start? c = some ([], .word [c])) (hRest : Delimited rest) :
    tokensFrom? .between (c :: cs ++ rest) = (tokensFrom? .between rest).map (.atom j :: ·) := by
  have hKeeps : ∀ read c, c.isAlpha = true →
      (Mode.word read).step? c = some ([], .word (c :: read)) := by
    intro read c h
    simp [Mode.step?, h]
  have hBegin : Mode.between.step? c = some ([], .word [c]) := hStart
  rw [List.cons_append, tokensFrom?_silent hBegin,
    tokensFrom?_append_of_keeps hKeeps (List.all_eq_true.mp hLetters)]
  refine tokensFrom?_of_ends (by simp [Mode.finish?, hWord]) fun d hd => ?_
  obtain ⟨r, rfl⟩ : ∃ r, rest = d :: r := List.head?_eq_some_iff.mp hd
  simp [Mode.step?, hRest.2]

-- ---------------------------------------------------------------------------
-- Integers
-- ---------------------------------------------------------------------------

/-- The decimal digits of a natural number are read as that number. -/
theorem ofUnsigned?_toDigits (negative : Bool) (n : Nat) :
    ofUnsigned? negative (Nat.toDigits 10 n) =
      some (ofInteger negative (Nat.toDigits 10 n)) := by
  have hDigits : digits? (Nat.toDigits 10 n) = some (Nat.toDigits 10 n, []) := by
    have hAll : digits? (Nat.toDigits 10 n ++ []) = some (Nat.toDigits 10 n, []) :=
      digits?_append (fun c => Decimal.isDigit_of_mem_toDigits) Nat.toDigits_ne_nil (by simp)
    rwa [List.append_nil] at hAll
  have hWhole : wholeDigits? (Nat.toDigits 10 n) = some (Nat.toDigits 10 n, []) := by
    unfold wholeDigits?
    rw [hDigits]
    split
    · -- a zero in front is the whole of the number zero
      rename_i d ds rest hZero
      have hText := congrArg Prod.fst (Option.some.inj hZero)
      have hNone := Decimal.eq_zero_of_toDigits hText
      rw [hNone] at hText
      simp at hText
    · rfl
  simp [ofUnsigned?, hWhole, fractionDigits?]

/-- An integer of 64 bits, signed or not, is read back. -/
theorem ofNumber?_toString {n : Int}
    (hn : -0x8000000000000000 ≤ n ∧ n < 0x10000000000000000) :
    ofNumber? (toString n).toList = some (.int n) := by
  cases n with
  | ofNat m =>
    have hText : (toString (Int.ofNat m)).toList = Nat.toDigits 10 m := by
      show (Nat.repr m).toList = _
      rw [Nat.repr_eq_ofList_toDigits, String.toList_ofList]
    -- a digit stands in front, so the reader sees no sign
    have hUnsigned : ofNumber? (Nat.toDigits 10 m) = ofUnsigned? false (Nat.toDigits 10 m) := by
      obtain ⟨d, ds, hds⟩ :=
        List.exists_cons_of_ne_nil (Nat.toDigits_ne_nil (n := m) (b := 10))
      have hDigit : d.isDigit = true :=
        Decimal.isDigit_of_mem_toDigits (hds ▸ List.mem_cons_self)
      rw [hds, ofNumber?]
      rintro rest hMinus
      obtain ⟨rfl, -⟩ := List.cons.inj hMinus
      exact absurd hDigit (by decide)
    have hSmall : m < 0x10000000000000000 := by
      have := hn.2
      simp only [Int.ofNat_eq_natCast] at this
      omega
    rw [hText, hUnsigned, ofUnsigned?_toDigits]
    simp [ofInteger, Decimal.ofDigits_toDigits, hSmall]
  | negSucc m =>
    have hText : (toString (Int.negSucc m)).toList = '-' :: Nat.toDigits 10 (m + 1) := by
      show ("-" ++ Nat.repr (m + 1)).toList = _
      rw [Nat.repr_eq_ofList_toDigits]
      simp
    have hSmall : m + 1 ≤ 0x8000000000000000 := by
      have := hn.1
      omega
    rw [hText]
    show ofUnsigned? true (Nat.toDigits 10 (m + 1)) = _
    rw [ofUnsigned?_toDigits]
    simp only [ofInteger, Decimal.ofDigits_toDigits, if_true]
    rw [if_pos ⟨by omega, hSmall⟩]
    rfl

-- ---------------------------------------------------------------------------
-- Values
-- ---------------------------------------------------------------------------

/-- The text of several values, with commas between them. -/
theorem toList_intercalate_cons (first second : String) (rest : List String) :
    (",".intercalate (first :: second :: rest)).toList =
      first.toList ++ ',' :: (",".intercalate (second :: rest)).toList := by
  rw [String.intercalate_cons_cons]
  simp

/-- Brackets and separators are tokens wherever a token may begin. -/
theorem tokensFrom?_mark {c : Char} {t : Token} (rest : List Char)
    (h : start? c = some ([t], .between)) :
    tokensFrom? .between (c :: rest) = (tokensFrom? .between rest).map (t :: ·) :=
  tokensFrom?_cons (show Mode.between.step? c = some ([t], .between) from h)

mutual

/-- The text of a value falls into its tokens, whatever delimiter follows. -/
theorem tokensFrom?_compact (j : Json) (rest : List Char) (hRest : Delimited rest)
    (hLegible : j.Legible) (hFloats : ∀ x ∈ j.floats, ReadsBack x) :
    tokensFrom? .between (j.compact.toList ++ rest) =
      (tokensFrom? .between rest).map (toTokens j ++ ·) := by
  match j with
  | .null =>
    show tokensFrom? .between ('n' :: ['u', 'l', 'l'] ++ rest) = _
    exact tokensFrom?_word rfl rfl rfl hRest
  | .bool true =>
    show tokensFrom? .between ('t' :: ['r', 'u', 'e'] ++ rest) = _
    exact tokensFrom?_word rfl rfl rfl hRest
  | .bool false =>
    show tokensFrom? .between ('f' :: ['a', 'l', 's', 'e'] ++ rest) = _
    exact tokensFrom?_word rfl rfl rfl hRest
  | .int n => exact tokensFrom?_number (ofNumber?_toString hLegible) hRest
  | .float x =>
    obtain ⟨hFinite, hRead⟩ := hFloats x (by simp [floats])
    have hText : (Json.float x).compact = floatStyle.write x := by
      simp [compact, atomText, hFinite]
    rw [hText]
    exact tokensFrom?_number hRead hRest
  | .str s => exact tokensFrom?_quote s rest
  | .arr items =>
    have hText : (Json.arr items).compact.toList ++ rest =
        '[' :: ((",".intercalate (compactItems items)).toList ++ ']' :: rest) := by
      simp [compact]
    have hItems := tokensFrom?_compactItems items (']' :: rest)
      ⟨rfl, rfl⟩ hLegible hFloats
    rw [hText, tokensFrom?_mark _ rfl, hItems, tokensFrom?_mark rest rfl]
    simp [Option.map_map, Function.comp_def, toTokens]
  | .obj members =>
    have hText : (Json.obj members).compact.toList ++ rest =
        '\x7b' :: ((",".intercalate (compactMembers members)).toList ++ '\x7d' :: rest) := by
      simp [compact]
    have hMembers := tokensFrom?_compactMembers members ('\x7d' :: rest)
      ⟨rfl, rfl⟩ hLegible hFloats
    rw [hText, tokensFrom?_mark _ rfl, hMembers, tokensFrom?_mark rest rfl]
    simp [Option.map_map, Function.comp_def, toTokens]
  | .void => exact hLegible.elim

/-- The compact text of the items of an array gives their tokens. -/
theorem tokensFrom?_compactItems (items : List Json) (rest : List Char)
    (hRest : Delimited rest) (hLegible : AllLegible items)
    (hFloats : ∀ x ∈ itemFloats items, ReadsBack x) :
    tokensFrom? .between ((",".intercalate (compactItems items)).toList ++ rest) =
      (tokensFrom? .between rest).map (itemTokens items ++ ·) := by
  match items with
  | [] => simp [compactItems, itemTokens]
  | [j] =>
    have hOne := tokensFrom?_compact j rest hRest hLegible.1 fun x hx =>
      hFloats x (by simp [itemFloats, hx])
    simpa [compactItems, itemTokens] using hOne
  | j :: k :: more =>
    have hMore := tokensFrom?_compactItems (k :: more) rest hRest hLegible.2 fun x hx =>
      hFloats x (List.mem_append_right _ hx)
    have hOne := tokensFrom?_compact j
      (',' :: ((",".intercalate (compactItems (k :: more))).toList ++ rest))
      ⟨rfl, rfl⟩ hLegible.1 fun x hx => hFloats x (List.mem_append_left _ hx)
    rw [compactItems, compactItems, toList_intercalate_cons, ← compactItems, List.append_assoc,
      List.cons_append, hOne, tokensFrom?_mark _ rfl, hMore]
    simp [Option.map_map, Function.comp_def, itemTokens]

/-- The compact text of the members of an object gives theirs. -/
theorem tokensFrom?_compactMembers (members : List (String × Json)) (rest : List Char)
    (hRest : Delimited rest) (hLegible : MembersLegible members)
    (hFloats : ∀ x ∈ memberFloats members, ReadsBack x) :
    tokensFrom? .between ((",".intercalate (compactMembers members)).toList ++ rest) =
      (tokensFrom? .between rest).map (memberTokens members ++ ·) := by
  match members with
  | [] => simp [compactMembers, memberTokens]
  -- no comma stands behind the last member
  | [(name, j)] =>
    have hOne := tokensFrom?_compact j rest hRest hLegible.1 fun x hx =>
      hFloats x (by simp [memberFloats, hx])
    have hText : (",".intercalate (compactMembers [(name, j)])).toList ++ rest =
        (quote name).toList ++ ':' :: (j.compact.toList ++ rest) := by
      simp [compactMembers]
    rw [hText, tokensFrom?_quote, tokensFrom?_mark _ rfl, hOne]
    simp [Option.map_map, Function.comp_def, memberTokens]
  | (name, j) :: (other, k) :: more =>
    have hMore := tokensFrom?_compactMembers ((other, k) :: more) rest hRest hLegible.2
      fun x hx => hFloats x (List.mem_append_right _ hx)
    have hOne := tokensFrom?_compact j
      (',' :: ((",".intercalate (compactMembers ((other, k) :: more))).toList ++ rest))
      ⟨rfl, rfl⟩ hLegible.1 fun x hx => hFloats x (List.mem_append_left _ hx)
    have hText : (",".intercalate (compactMembers ((name, j) :: (other, k) :: more))).toList ++
          rest =
        (quote name).toList ++ ':' :: (j.compact.toList ++
          ',' :: ((",".intercalate (compactMembers ((other, k) :: more))).toList ++ rest)) := by
      rw [compactMembers, compactMembers, toList_intercalate_cons, ← compactMembers]
      simp
    rw [hText, tokensFrom?_quote, tokensFrom?_mark _ rfl, hOne, tokensFrom?_mark _ rfl, hMore]
    simp [Option.map_map, Function.comp_def, memberTokens]

end

/-- The tokens of the text of a value are those of the value. -/
theorem tokens?_compact {j : Json} (hLegible : j.Legible)
    (hFloats : ∀ x ∈ j.floats, ReadsBack x) : tokens? j.compact = some (toTokens j) := by
  have hAll := tokensFrom?_compact j [] trivial hLegible hFloats
  rw [List.append_nil] at hAll
  rw [tokens?, hAll]
  simp [tokensFrom?, Mode.finish?]

end SqlPlan.Json
