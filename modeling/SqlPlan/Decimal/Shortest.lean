/-!
# SqlPlan — the shortest decimal of a double

The shortest text of a double has the fewest digits that are read back as the
same double, and of those the digits nearest to it:

* `significand` — a finite double as `m · 2 ^ q`;
* `Span` — the numbers that are read back as one double, ends included
  where the significand is even, over a common denominator;
* `Span.hit?` — the decimal of a given last place inside the span;
* `Shortest.digits` — the first place, from the coarsest on, that has one.
-/

namespace SqlPlan

/-- What becomes of a double halfway between two shortest decimals. -/
inductive Halfway where
  | even
  | up
  deriving DecidableEq

namespace Shortest

/-- A finite double, less its sign, as significand and binary exponent. -/
def significand (bits : UInt64) : Nat × Int :=
  let fraction := bits.toNat % Nat.pow 2 52
  let biased := bits.toNat / Nat.pow 2 52 % Nat.pow 2 11
  if biased = 0 then (fraction, -1074) else (Nat.pow 2 52 + fraction, Int.ofNat biased - 1075)

/-- The interval around a double, its bounds and itself over `den`. -/
structure Span where
  low : Nat
  value : Nat
  high : Nat
  den : Nat
  closed : Bool

/-- The numbers nearer to `m · 2 ^ q` than to the doubles beside it. Below a
power of two the doubles lie half as far apart. -/
def Span.around (m : Nat) (q : Int) : Span :=
  let low := if m = Nat.pow 2 52 ∧ -1074 < q then 4 * m - 1 else 4 * m - 2
  let scale := Nat.pow 2 (q - 2).toNat
  { low := low * scale
    value := 4 * m * scale
    high := (4 * m + 2) * scale
    den := Nat.pow 2 (2 - q).toNat
    closed := m % 2 = 0 }

/-- Whether `c` units lie inside the span, the bounds multiplied by `factor`. -/
def Span.holds (s : Span) (c unit factor : Nat) : Bool :=
  if s.closed then s.low * factor ≤ c * unit && c * unit ≤ s.high * factor
  else s.low * factor < c * unit && c * unit < s.high * factor

/-- The multiple of `10 ^ place` inside the span that is nearest to its double:
one of the two multiples beside the double, if any is inside. -/
def Span.hit? (s : Span) (halfway : Halfway) (place : Int) : Option Nat :=
  let unit := s.den * Nat.pow 10 place.toNat
  let factor := Nat.pow 10 (-place).toNat
  let below := s.value * factor / unit
  let rest := s.value * factor % unit
  match s.holds below unit factor, s.holds (below + 1) unit factor with
  | true, true =>
    if 2 * rest < unit then some below
    else if unit < 2 * rest then some (below + 1)
    else match halfway with
      | .even => some (below + below % 2)
      | .up => some (below + 1)
  | true, false => some below
  | false, true => some (below + 1)
  | false, false => none

/-- The number of decimal digits of a natural number. -/
def digitCount (n : Nat) : Nat := (Nat.toDigits 10 n).length

/-- The decimal exponent of a positive quotient: the place of its first digit. -/
def firstPlace (num den : Nat) : Int :=
  if den ≤ num then (digitCount (num / den) : Int) - 1
  else -(digitCount ((den + num - 1) / num - 1) : Int)

/-- Digits without the zeros that end them, and the place of the last one. -/
def dropZeros : Nat → Nat → Int → Nat × Int
  | 0, c, place => (c, place)
  | fuel + 1, c, place =>
    if c % 10 = 0 then dropZeros fuel (c / 10) (place + 1) else (c, place)

/-- The digits of the shortest decimal of a positive double, and the place of
the last of them. Seventeen digits always suffice. -/
def digits (halfway : Halfway) (bits : UInt64) : Nat × Int :=
  let (m, q) := significand bits
  let s := Span.around m q
  let first := firstPlace s.value s.den
  let found := (List.range 17).findSome? fun i =>
    let place := first - Int.ofNat i
    (s.hit? halfway place).map fun c => (c, place)
  match found with
  | some (c, place) => dropZeros (digitCount c) c place
  | none => (0, 0)

end Shortest

end SqlPlan
