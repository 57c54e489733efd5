import SqlPlan.Calendar.Printer
import SqlPlan.Calendar.Reader
import SqlPlan.Proofs.Digits

/-!
# SqlPlan — dates and times are read back

What is written for a date or a time is read as that date or time. Each reader of a part
finds the part in front of whatever follows it, as long as no digit follows where digits
are counted by no width:

* `Calendar.number?_padded`, `Calendar.year?_yearText`, `Calendar.fraction?_fractionText` —
  the numbers;
* `Date.read?_chars`, `TimeOfDay.read?_chars` — a date, a time;
* `Date.parse?_text`, `TimeOfDay.parse?_text`, `Timestamp.parse?_isoText`,
  `Instant.parse?_isoText` — whole texts.
-/

namespace SqlPlan

open Text (isBlank)

namespace Calendar

-- ---------------------------------------------------------------------------
-- Padded numbers
-- ---------------------------------------------------------------------------

theorem isDigit_of_mem_padded {width n : Nat} {c : Char} (h : c ∈ padded width n) :
    c.isDigit = true := by
  rcases List.mem_append.mp h with hZero | hDigit
  · rw [List.eq_of_mem_replicate hZero]
    rfl
  · exact Decimal.isDigit_of_mem_toDigits hDigit

theorem ofDigits_padded (width n : Nat) : Decimal.ofDigits (padded width n) = n := by
  simp only [padded]
  rw [Decimal.ofDigits_zeros_append, Decimal.ofDigits_toDigits]

/-- A number that fits its width has exactly that width. -/
theorem length_padded {width n : Nat} (hWidth : 0 < width) (h : n < 10 ^ width) :
    (padded width n).length = width := by
  have hDigits : (Nat.toDigits 10 n).length ≤ width :=
    (Nat.length_toDigits_le_iff (by omega) hWidth).mpr h
  simp only [padded, List.length_append, List.length_replicate]
  omega

theorem padded_ne_nil (width n : Nat) : padded width n ≠ [] := by
  intro h
  exact Nat.toDigits_ne_nil (List.append_eq_nil_iff.mp h).2

/-- Nothing follows, or no digit and no point. -/
def EndsNumber (rest : List Char) : Prop := ∀ c ∈ rest.head?, c.isDigit = false ∧ c ≠ '.'

/-- The digits of a number end where it ends, if no digit follows. -/
theorem takeWhile_isDigit_padded {width n : Nat} {rest : List Char}
    (hRest : ∀ c ∈ rest.head?, c.isDigit = false) :
    (padded width n ++ rest).takeWhile Char.isDigit = padded width n := by
  rw [List.takeWhile_append_of_pos fun c => isDigit_of_mem_padded]
  cases rest with
  | nil => simp
  | cons c rest => simp [hRest c rfl]

/-- A number is read back from its digits, however many a reader would take. -/
theorem number?_of_takeWhile {k width n : Nat} {rest : List Char}
    (h : ((padded width n ++ rest).take k).takeWhile Char.isDigit = padded width n) :
    number? k (padded width n ++ rest) = some (n, rest) := by
  have hDrop : (padded width n ++ rest).drop (padded width n).length = rest := List.drop_left
  unfold number?
  rw [h]
  split
  · rename_i hNil
    exact absurd hNil (padded_ne_nil width n)
  · rw [hDrop, ofDigits_padded]

/-- A number is read from the digits of its width, whatever follows them. -/
theorem number?_padded {width n : Nat} (hWidth : 0 < width) (h : n < 10 ^ width)
    (rest : List Char) : number? width (padded width n ++ rest) = some (n, rest) := by
  refine number?_of_takeWhile ?_
  have hAll : (padded width n ++ []).takeWhile Char.isDigit = padded width n :=
    takeWhile_isDigit_padded (by simp)
  rw [List.append_nil] at hAll
  rw [List.take_left' (length_padded hWidth h), hAll]

/-- Where no width counts the digits, they end before the first character that is none. -/
theorem number?_length {width n : Nat} {rest : List Char}
    (hRest : ∀ c ∈ rest.head?, c.isDigit = false) :
    number? (padded width n ++ rest).length (padded width n ++ rest) = some (n, rest) := by
  refine number?_of_takeWhile ?_
  rw [List.take_length, takeWhile_isDigit_padded hRest]

-- ---------------------------------------------------------------------------
-- Parts
-- ---------------------------------------------------------------------------

theorem isBlank_of_isDigit {c : Char} (h : c.isDigit = true) : isBlank c = false := by
  have hRange : 48 ≤ c.toNat ∧ c.toNat ≤ 57 := by
    simpa [Char.isDigit, UInt32.le_iff_toNat_le] using h
  have hAll : ∀ n < 58, 48 ≤ n → isBlank (Char.ofNat n) = false := by decide
  have hChar := hAll c.toNat (by omega) hRange.1
  rwa [Char.ofNat_toNat] at hChar

theorem skipBlanks_cons {c : Char} {cs : List Char} (h : isBlank c = false) :
    skipBlanks (c :: cs) = c :: cs := by
  simp [skipBlanks, h]

/-- Before a padded number there are no blanks to skip. -/
theorem skipBlanks_padded (width n : Nat) (rest : List Char) :
    skipBlanks (padded width n ++ rest) = padded width n ++ rest := by
  obtain ⟨c, cs, hCs⟩ := List.exists_cons_of_ne_nil (padded_ne_nil width n)
  have hDigit : c.isDigit = true := isDigit_of_mem_padded (hCs ▸ List.mem_cons_self)
  rw [hCs, List.cons_append, skipBlanks_cons (isBlank_of_isDigit hDigit)]

/-- A number below a hundred reads back from two digits. -/
theorem twoDigits?_padded {n : Nat} (h : n < 100) (rest : List Char) :
    twoDigits? (padded 2 n ++ rest) = some (n, rest) := by
  rw [twoDigits?, skipBlanks_padded, number?_padded (by omega) (by omega)]

theorem mark?_cons {mark : Char} (h : isBlank mark = false) (rest : List Char) :
    mark? mark (mark :: rest) = some rest := by
  simp [mark?, skipBlanks_cons h]

/-- A year is read with or without its sign. -/
theorem year?_yearText (year : Int) {rest : List Char}
    (hRest : ∀ c ∈ rest.head?, c.isDigit = false) :
    year? (yearText year ++ rest) = some (year, rest) := by
  have hNumber : ∀ n, number? (padded 4 n ++ rest).length (padded 4 n ++ rest) = some (n, rest) :=
    fun n => number?_length hRest
  unfold yearText
  split
  · -- four digits
    rename_i hYear
    have hSmall : year.toNat < 10 ^ 4 := by omega
    obtain ⟨c, cs, hCs⟩ := List.exists_cons_of_ne_nil (padded_ne_nil 4 year.toNat)
    have hDigit : c.isDigit = true := isDigit_of_mem_padded (hCs ▸ List.mem_cons_self)
    have hRead : year? (padded 4 year.toNat ++ rest) =
        (number? 4 (padded 4 year.toNat ++ rest)).map fun found => ((found.1 : Int), found.2) := by
      rw [year?, skipBlanks_padded]
      split
      -- neither sign can stand here: the first character is a digit
      · rename_i hMinus
        rw [hCs] at hMinus
        obtain ⟨rfl, -⟩ := List.cons.inj hMinus
        exact absurd hDigit (by decide)
      · rename_i hPlus
        rw [hCs] at hPlus
        obtain ⟨rfl, -⟩ := List.cons.inj hPlus
        exact absurd hDigit (by decide)
      · rfl
    rw [hRead, number?_padded (by omega) hSmall]
    simp only [Option.map_some]
    rw [Int.toNat_of_nonneg hYear.1]
  -- a sign is written, so as many digits are read as there are
  · split
    · rename_i hNegative
      rw [List.cons_append, year?, skipBlanks_cons (by decide)]
      simp only [hNumber, Option.map_some]
      congr
      omega
    · rename_i hNegative
      rw [List.cons_append, year?, skipBlanks_cons (by decide)]
      simp only [hNumber, Option.map_some]
      congr
      omega

/-- A fraction of a second is read in any of its widths. -/
theorem fraction?_padded {width n : Nat} {rest : List Char} (hWidth : 0 < width)
    (hMost : width ≤ 9) (h : n < 10 ^ width) (hRest : ∀ c ∈ rest.head?, c.isDigit = false) :
    fraction? ('.' :: padded width n ++ rest) = some (n * 10 ^ (9 - width), rest) := by
  have hLength := length_padded hWidth h
  -- the reader takes nine characters and stops at the first that is no digit
  have hTake : ((padded width n ++ rest).take 9).takeWhile Char.isDigit = padded width n := by
    have hSplit : (padded width n ++ rest).take 9 = padded width n ++ rest.take (9 - width) := by
      rw [List.take_append, hLength, List.take_of_length_le (by omega)]
    rw [hSplit]
    refine takeWhile_isDigit_padded fun c hc => hRest c ?_
    cases rest with
    | nil => simp at hc
    | cons d rest =>
      cases hLeft : 9 - width with
      | zero => simp [hLeft] at hc
      | succ k => simpa [hLeft] using hc
  have hDrop : (padded width n ++ rest).drop width = rest := List.drop_left' hLength
  have hAfter : rest.dropWhile Char.isDigit = rest := by
    cases rest with
    | nil => rfl
    | cons c rest => simp [hRest c rfl]
  have hFound : (padded width n).isEmpty = false := by
    simpa using padded_ne_nil width n
  simp only [List.cons_append, fraction?, hTake, hFound, hLength, hDrop, hAfter, ofDigits_padded]
  rfl

/-- A fraction of a second reads back from its text. -/
theorem fraction?_fractionText {nano : Nat} (h : nano < 1000000000) {rest : List Char}
    (hRest : EndsNumber rest) : fraction? (fractionText nano ++ rest) = some (nano, rest) := by
  have hDigit : ∀ c ∈ rest.head?, c.isDigit = false := fun c hc => (hRest c hc).1
  unfold fractionText
  split
  -- no fraction is written: what follows may not look like one
  · rename_i hNone
    subst hNone
    cases rest with
    | nil => rfl
    | cons c rest =>
      have hPoint : c ≠ '.' := (hRest c rfl).2
      rw [List.nil_append, fraction?]
      rintro more hText
      exact hPoint (List.cons.inj hText).1
  split
  · rw [fraction?_padded (by omega) (by omega) (by omega) hDigit]
    congr
    omega
  split
  · rw [fraction?_padded (by omega) (by omega) (by omega) hDigit]
    congr
    omega
  · rw [fraction?_padded (by omega) (by omega) (by omega) hDigit]
    simp

/-- A reader that leaves nothing has read the whole text. -/
theorem whole?_nil {α : Type} (a : α) : whole? (some (a, [])) = some a := rfl

end Calendar

open Calendar

-- ---------------------------------------------------------------------------
-- Dates and times
-- ---------------------------------------------------------------------------

namespace Date

theorem of?_self (d : Date) : of? d.year d.month d.day = some d := by
  rw [of?, dif_pos d.year_mem, dif_pos d.month_mem, dif_pos d.day_mem]

theorem daysIn_le (year : Int) (month : Nat) : daysIn year month ≤ 31 := by
  unfold daysIn
  split
  · split <;> omega
  · split <;> omega

/-- A date is read in front of anything. -/
theorem read?_chars (d : Date) (rest : List Char) : read? (d.chars ++ rest) = some (d, rest) := by
  have hMonth : d.month < 100 := by
    have := d.month_mem
    omega
  have hDay : d.day < 100 := by
    have hLast := daysIn_le d.year d.month
    have := d.day_mem
    omega
  have hText : d.chars ++ rest = yearText d.year ++ ('-' :: (padded 2 d.month ++
      ('-' :: (padded 2 d.day ++ rest)))) := by
    simp [chars]
  -- each number ends at the dash after it
  have hEnds : ∀ cs : List Char, ∀ c ∈ ('-' :: cs).head?, c.isDigit = false := by
    intro cs c hc
    obtain rfl : '-' = c := by simpa using hc
    rfl
  rw [hText, read?, year?_yearText _ (hEnds _)]
  simp [mark?_cons (show isBlank '-' = false from rfl), twoDigits?_padded hMonth,
    twoDigits?_padded hDay, of?_self]

/-- A date is read from its text. -/
theorem parse?_text (d : Date) : parse? d.text = some d := by
  have hRead := read?_chars d []
  rw [List.append_nil] at hRead
  rw [parse?, text, String.toList_ofList, hRead, whole?_nil]

end Date

namespace TimeOfDay

theorem of?_self (t : TimeOfDay) : of? t.hour t.minute t.second t.nano = some t := by
  rw [of?, dif_pos ⟨t.hour_lt, t.minute_lt, t.second_le, t.nano_lt⟩]

/-- The seconds of a time as they are written. -/
def secondsChars (t : TimeOfDay) : List Char := ':' :: padded 2 t.second ++ fractionText t.nano

theorem chars_append (t : TimeOfDay) (rest : List Char) :
    t.chars ++ rest =
      padded 2 t.hour ++ (':' :: (padded 2 t.minute ++ (t.secondsChars ++ rest))) := by
  simp [chars, secondsChars]

/-- Hours and minutes read back from the text of a time. -/
theorem hoursMinutes?_chars (t : TimeOfDay) (rest : List Char) :
    hoursMinutes? (t.chars ++ rest) = some ((t.hour, t.minute), t.secondsChars ++ rest) := by
  have hHour : t.hour < 100 := by
    have := t.hour_lt
    omega
  have hMinute : t.minute < 100 := by
    have := t.minute_lt
    omega
  rw [chars_append, hoursMinutes?, twoDigits?_padded hHour]
  simp [mark?_cons (show isBlank ':' = false from rfl), twoDigits?_padded hMinute]

/-- So do seconds with their fraction. -/
theorem seconds?_secondsChars (t : TimeOfDay) {rest : List Char} (hRest : EndsNumber rest) :
    seconds? (t.secondsChars ++ rest) = some ((t.second, t.nano), rest) := by
  have hSecond : t.second < 100 := by
    have := t.second_le
    omega
  have hText : t.secondsChars ++ rest =
      ':' :: (padded 2 t.second ++ (fractionText t.nano ++ rest)) := by
    simp [secondsChars]
  rw [hText, seconds?, mark?_cons (by rfl)]
  simp [twoDigits?_padded hSecond, fraction?_fractionText t.nano_lt hRest]

/-- A time is read in front of anything but digits and a point. -/
theorem read?_chars (t : TimeOfDay) {rest : List Char} (hRest : EndsNumber rest) :
    read? (t.chars ++ rest) = some (t, rest) := by
  rw [read?, hoursMinutes?_chars]
  simp [seconds?_secondsChars t hRest, of?_self]

theorem endsNumber_nil : EndsNumber [] := by
  simp [EndsNumber]

/-- A time of day is read from its text. -/
theorem parse?_text (t : TimeOfDay) : parse? t.text = some t := by
  have hHours := hoursMinutes?_chars t []
  have hSeconds := seconds?_secondsChars t endsNumber_nil
  rw [List.append_nil] at hHours hSeconds
  rw [parse?, text, String.toList_ofList, hHours, List.append_nil]
  simp [hSeconds, whole?_nil, of?_self]

end TimeOfDay

-- ---------------------------------------------------------------------------
-- Timestamps and instants
-- ---------------------------------------------------------------------------

/-- A timestamp is read from its text. -/
theorem Timestamp.parse?_isoText (t : Timestamp) : parse? t.isoText = some t := by
  have hText : t.isoText.toList = t.date.chars ++ ('T' :: (t.time.chars ++ [])) := by
    simp [isoText, chars]
  rw [parse?, hText, Date.read?_chars]
  simp only [Option.bind_eq_bind, Option.bind_some, mark?_cons (show isBlank 'T' = false from rfl),
    TimeOfDay.read?_chars t.time TimeOfDay.endsNumber_nil]
  rfl

/-- No minutes later is the same time. -/
theorem Timestamp.addMinutes?_zero (t : Timestamp) : t.addMinutes? 0 = some t := by
  have hHour := t.time.hour_lt
  have hMinute := t.time.minute_lt
  have hOfDay : ((60 * (t.time.hour : Int) + t.time.minute + 0) % 1440).toNat =
      60 * t.time.hour + t.time.minute := by
    omega
  have hHours : (60 * t.time.hour + t.time.minute) / 60 = t.time.hour := by omega
  have hMinutes : (60 * t.time.hour + t.time.minute) % 60 = t.time.minute := by omega
  simp only [addMinutes?, hOfDay, hHours, hMinutes, TimeOfDay.of?_self]
  rw [if_neg (by omega), if_pos (by omega)]
  rfl

/-- An instant is read from its text. -/
theorem Instant.parse?_isoText (i : Instant) : parse? i.isoText = some i := by
  have hText : i.isoText.toList = i.utc.date.chars ++ ('T' :: (i.utc.time.chars ++ ['Z'])) := by
    simp [isoText, Timestamp.isoText, Timestamp.chars]
  have hEnds : EndsNumber ['Z'] := by
    simp [EndsNumber]
  have hOffset : whole? (Offset.parse? (skipBlanks ['Z'])) = some 0 := by decide
  rw [parse?, hText, Date.read?_chars]
  simp [TimeOfDay.read?_chars i.utc.time hEnds, hOffset, Timestamp.addMinutes?_zero]

end SqlPlan
