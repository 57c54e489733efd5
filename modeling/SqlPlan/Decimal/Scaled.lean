import SqlPlan.Decimal.Nearest

/-!
# SqlPlan — decimals scaled by a power of ten

A decimal of any length is kept as a whole number of 64 bits and a power of
ten. Its double is that of the whole number, multiplied or divided by the
power. This rounds more than once, so the outcome may lie next to the double
nearest to the decimal:

* `absorb` — digits written at the end of a whole number as long as it fits;
* `Scaled.ofParts` — the whole number and the power of a decimal;
* `Scaled.toFloat?` — the double, unless a power makes it infinite.
-/

namespace SqlPlan

namespace Decimal

/-- Whole numbers below this one fit 64 bits. -/
def wordLimit : Nat := 0x10000000000000000

/-- Writes digits at the end of a number up to the first that does not fit.
The second part is how many digits are left. -/
def absorb (n : Nat) : List Char → Nat × Nat
  | [] => (n, 0)
  | c :: rest =>
    let m := 10 * n + (c.toNat - '0'.toNat)
    if m < wordLimit then absorb m rest else (n, rest.length + 1)

/-- The greatest power of ten that is a double has this exponent. -/
def greatestPower : Nat := 308

/-- The double nearest to a power of ten. -/
def power (k : Nat) : Float := toFloat false 1 k

/-- A double divided by a power of ten, by way of the greatest one that is a
double. -/
def divideByPower (x : Float) (k : Nat) : Float :=
  if k ≤ greatestPower then x / power k
  else if x == 0 then x
  else divideByPower (x / power greatestPower) (k - greatestPower)
termination_by k
decreasing_by
  have hPos : 0 < greatestPower := by decide
  omega

/-- A double multiplied by a power of ten, if there is such a double. -/
def multiplyByPower? (x : Float) (k : Nat) : Option Float :=
  if k ≤ greatestPower then
    let y := x * power k
    if y.isInf then none else some y
  else if x == 0 then some x
  else none

end Decimal

/-- A whole number of 64 bits times a power of ten. -/
structure Scaled where
  significand : UInt64
  exponent : Int
  deriving DecidableEq, Inhabited

namespace Scaled

/-- The digits before and after the point of a decimal, and its exponent. Of
the digits before the point those that do not fit count as zeros, of those
after it they are dropped. -/
def ofParts (whole fraction : List Char) (exponent : Int) : Scaled :=
  let (n, zeros) := Decimal.absorb 0 whole
  let (m, dropped) := Decimal.absorb n fraction
  ⟨m.toUInt64, exponent + zeros - (fraction.length - dropped)⟩

/-- The double of a scaled number, if it is finite. -/
def toFloat? (negative : Bool) (s : Scaled) : Option Float :=
  let x := s.significand.toFloat
  let found :=
    if 0 ≤ s.exponent then Decimal.multiplyByPower? x s.exponent.toNat
    else some (Decimal.divideByPower x (-s.exponent).toNat)
  found.map fun y => if negative then -y else y

end Scaled

end SqlPlan
