import SqlPlan.Proofs.Digits
import SqlPlan.Uuid

/-!
# SqlPlan — UUIDs are read back

The hyphenated form of a UUID is read as that UUID:

* `Uuid.ofHex?_hex` — the digits of a number are read as the number;
* `Uuid.unhyphenated?_hyphenated` — the hyphens stand where the reader expects them;
* `Uuid.parse?_text` — the whole.
-/

namespace SqlPlan.Uuid

@[simp] theorem length_hex (count n : Nat) : (hex count n).length = count := by
  induction count generalizing n with
  | zero => rfl
  | succ count ih => simp [hex, ih]

/-- The digits of a number that fits them are read as that number. -/
theorem ofHex?_hex {count n : Nat} (h : n < 16 ^ count) : ofHex? (hex count n) = some n := by
  induction count generalizing n with
  | zero =>
    obtain rfl : n = 0 := by simpa using h
    rfl
  | succ count ih =>
    have hHead : (hex count (n / 16)).foldlM
        (fun n c => (Json.hexValue? c).map (16 * n + ·)) 0 = some (n / 16) :=
      ih (by rw [Nat.pow_succ] at h; omega)
    have hLast : Json.hexValue? (Json.hexDigit (n % 16)) = some (n % 16) :=
      Json.hexValue?_hexDigit _ (by omega)
    rw [hex, ofHex?, List.foldlM_append, hHead]
    simp [hLast, Nat.div_add_mod]

section Hyphens

variable {a b c d e : List Char}

/-- Five groups of digits with hyphens between them. -/
def hyphenated (a b c d e : List Char) : List Char :=
  a ++ '-' :: b ++ '-' :: c ++ '-' :: d ++ '-' :: e

/-- Hyphens in their places are taken out. -/
theorem unhyphenated?_hyphenated (ha : a.length = 8) (hb : b.length = 4) (hc : c.length = 4)
    (hd : d.length = 4) (he : e.length = 12) :
    unhyphenated? (hyphenated a b c d e) = some (a ++ b ++ c ++ d ++ e) := by
  have hLength : (hyphenated a b c d e).length = 36 := by
    simp [hyphenated, ha, hb, hc, hd, he]
  have hMarks : [8, 13, 18, 23].all (fun i => (hyphenated a b c d e)[i]? = some '-') = true := by
    simp [hyphenated, List.getElem?_append, ha, hb, hc, hd]
  rw [unhyphenated?, if_pos ⟨hLength, hMarks⟩]
  simp (disch := omega) [hyphenated, List.drop_append, List.drop_eq_nil_of_le, ha, hb, hc, hd]

/-- The digits of the hyphenated form are those of its groups. -/
theorem digits?_hyphenated (ha : a.length = 8) (hb : b.length = 4) (hc : c.length = 4)
    (hd : d.length = 4) (he : e.length = 12) :
    digits? (hyphenated a b c d e) = some (a ++ b ++ c ++ d ++ e) := by
  have hLength : (hyphenated a b c d e).length = 36 := by
    simp [hyphenated, ha, hb, hc, hd, he]
  have hScheme : ((hyphenated a b c d e).take 9).map Char.toLower ≠ "urn:uuid:".toList := by
    intro h
    have hNinth := congrArg (fun cs => cs[8]?) h
    simp [hyphenated, List.take_append, ha] at hNinth
  rw [digits?, if_neg (by omega), if_neg (by omega), if_neg hScheme,
    unhyphenated?_hyphenated ha hb hc hd he]

end Hyphens

/-- A UUID is read from its text. -/
theorem parse?_text (u : Uuid) : parse? u.text = some u := by
  have hText : u.text.toList = hyphenated ((hex 32 u.val.toNat).take 8)
      (((hex 32 u.val.toNat).drop 8).take 4) (((hex 32 u.val.toNat).drop 12).take 4)
      (((hex 32 u.val.toNat).drop 16).take 4) ((hex 32 u.val.toNat).drop 20) := by
    simp [text, hyphenated]
  have hDigits : digits? u.text.toList = some (hex 32 u.val.toNat) := by
    -- groups that stand side by side are one piece of the digits
    have hJoin : ∀ i (ds : List Char), (ds.drop i).take 4 ++ ds.drop (i + 4) = ds.drop i := by
      intro i ds
      rw [← List.drop_drop, List.take_append_drop]
    rw [hText, digits?_hyphenated (by simp) (by simp) (by simp) (by simp) (by simp)]
    simp only [List.append_assoc]
    rw [hJoin 16, hJoin 12, hJoin 8, List.take_append_drop]
  have hNumber : ofHex? (hex 32 u.val.toNat) = some u.val.toNat :=
    ofHex?_hex (by have := u.val.isLt; omega)
  simp [parse?, hDigits, hNumber]

end SqlPlan.Uuid
