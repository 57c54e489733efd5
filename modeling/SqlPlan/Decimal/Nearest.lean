/-!
# SqlPlan — the double nearest to a decimal

A decimal `digits · 10 ^ exponent` is read as the double nearest to it, a tie
going to the double of even significand. All steps before the last are exact
arithmetic on natural numbers:

* `roundHalfEven` — a quotient rounded to the nearest natural number;
* `nearestBits` — the bits of the double nearest to a quotient;
* `toFloat` — the double nearest to a decimal, infinite where none is.
-/

namespace SqlPlan.Decimal

/-- A quotient rounded to nearest, a half to the even neighbour. -/
def roundHalfEven (num den : Nat) : Nat :=
  let q := num / den
  let r := num % den
  if 2 * r < den then q
  else if den < 2 * r then q + 1
  else q + q % 2

/-- The quotient `num / (den · 2 ^ e)` as a numerator and a denominator. -/
def scaleDown (num den : Nat) (e : Int) : Nat × Nat :=
  if 0 ≤ e then (num, den * Nat.pow 2 e.toNat) else (num * Nat.pow 2 (-e).toNat, den)

/-- The exponent that leaves a positive quotient a significand of 53 bits, but
no exponent below that of the least double. -/
def exponentOf (num den : Nat) : Int :=
  let e : Int := (num.log2 : Int) - (den.log2 : Int) - 52
  let (n, d) := scaleDown num den e
  max (if n < d * Nat.pow 2 52 then e - 1 else e) (-1074)

/-- The bits of positive infinity. -/
def infinityBits : Nat := 0x7FF0000000000000

/-- The bits of the double nearest to a quotient, or of infinity. A
significand that rounds up to 54 bits carries into the exponent. -/
def nearestBits (num den : Nat) : Nat :=
  if num = 0 then 0
  else
    let e := exponentOf num den
    let (n, d) := scaleDown num den e
    min infinityBits ((e + 1074).toNat * Nat.pow 2 52 + roundHalfEven n d)

/-- The bits of the double nearest to `digits · 10 ^ exponent`. Beyond the
outer bounds every decimal is nearest to zero or to infinity. -/
def decimalBits (digits : Nat) (exponent : Int) : Nat :=
  if digits = 0 then 0
  else if 400 < exponent then infinityBits
  else if exponent + digits.log2 + 1 < -400 then 0
  else if 0 ≤ exponent then nearestBits (digits * Nat.pow 10 exponent.toNat) 1
  else nearestBits digits (Nat.pow 10 (-exponent).toNat)

/-- The double nearest to a signed decimal. -/
def toFloat (negative : Bool) (digits : Nat) (exponent : Int) : Float :=
  let x := Float.ofBits (decimalBits digits exponent).toUInt64
  if negative then -x else x

/-- The number a list of decimal digits writes. -/
def ofDigits (cs : List Char) : Nat :=
  cs.foldl (fun n c => 10 * n + (c.toNat - '0'.toNat)) 0

end SqlPlan.Decimal
