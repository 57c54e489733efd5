import Mathlib.Algebra.Group.Nat.Defs
import Mathlib.Data.List.TakeDrop
import SqlPlan.Decimal.Nearest
import SqlPlan.Json.Printer
import SqlPlan.Json.Token

/-!
# SqlPlan — digits that are written and read

Numbers are written by their digits in several formats. What the formats share:

* `Decimal.ofDigits_toDigits` — decimal digits are read as the number they were written for;
* `Decimal.eq_zero_of_toDigits` — only the number zero begins with a zero;
* `Json.digits?_append` — digits are read up to the first character that is none;
* `Json.hexValue?_hexDigit` — a hexadecimal digit is read as its value.
-/

namespace SqlPlan

namespace Decimal

theorem isDigit_of_mem_toDigits {n : Nat} {c : Char} (h : c ∈ Nat.toDigits 10 n) :
    c.isDigit = true :=
  Nat.isDigit_of_mem_toDigits (by omega) (by omega) h

theorem ofDigits_toDigits (n : Nat) : ofDigits (Nat.toDigits 10 n) = n :=
  Nat.ofDigitChars_ten_toDigits

/-- Zeros before the digits do not count. -/
theorem ofDigits_zeros_append (k : Nat) (cs : List Char) :
    ofDigits (List.replicate k '0' ++ cs) = ofDigits cs := by
  show Nat.ofDigitChars 10 (List.replicate k '0' ++ cs) 0 = Nat.ofDigitChars 10 cs 0
  rw [Nat.ofDigitChars_append, Nat.ofDigitChars_replicate_zero, Nat.mul_zero]

/-- Only zero is written with a zero in front. -/
theorem eq_zero_of_toDigits {n : Nat} {cs : List Char} (h : Nat.toDigits 10 n = '0' :: cs) :
    n = 0 := by
  induction n using Nat.strongRecOn generalizing cs with
  | ind n ih =>
    rw [Nat.toDigits_eq_if (by omega)] at h
    split at h
    · obtain ⟨hDigit, -⟩ := List.cons.inj h
      exact Nat.digitChar_eq_zero.mp hDigit
    · -- the first digit is that of a tenth of the number
      obtain ⟨d, ds, hds⟩ :=
        List.exists_cons_of_ne_nil (Nat.toDigits_ne_nil (n := n / 10) (b := 10))
      rw [hds, List.cons_append] at h
      obtain ⟨rfl, -⟩ := List.cons.inj h
      have hTenth := ih (n / 10) (by omega) hds
      omega

end Decimal

namespace Json

/-- Digits end before the first character that is none. -/
theorem digits?_append {ds rest : List Char} (hDigits : ∀ c ∈ ds, c.isDigit = true)
    (hNonempty : ds ≠ []) (hRest : ∀ c ∈ rest.head?, c.isDigit = false) :
    digits? (ds ++ rest) = some (ds, rest) := by
  have hSpan : (ds ++ rest).span Char.isDigit = (ds, rest) := by
    rw [List.span_eq_takeWhile_dropWhile, List.takeWhile_append_of_pos hDigits,
      List.dropWhile_append_of_pos hDigits]
    cases rest with
    | nil => simp
    | cons c rest => simp [hRest c rfl]
  unfold digits?
  rw [hSpan]
  cases ds with
  | nil => exact absurd rfl hNonempty
  | cons d ds => rfl

theorem hexValue?_hexDigit : ∀ n < 16, hexValue? (hexDigit n) = some n := by
  decide

end Json

end SqlPlan
