import SqlPlan.Decimal.Shortest

/-!
# SqlPlan — how doubles are written

`FloatStyle` holds the decisions of one output format on the shortest digits
of a double; `FloatStyle.write` lays the digits out. A format that writes some
doubles in exponent form says which exponents stay positional.
-/

namespace SqlPlan

/-- The decisions of a format that writes doubles. -/
structure FloatStyle where
  /-- The exponents of the first digit that are written positionally. -/
  positional : Int → Bool
  /-- Whole numbers end in `.0`. -/
  point : Bool
  /-- The choice between two equally near decimals. -/
  halfway : Halfway
  infinity : String
  notANumber : String

namespace FloatStyle

def zeros (n : Nat) : List Char := List.replicate n '0'

/-- Digits with the decimal point after `point` of them. -/
def positionalText (style : FloatStyle) (ds : List Char) (point : Int) : List Char :=
  if point ≤ 0 then '0' :: '.' :: zeros (-point).toNat ++ ds
  else if point < ds.length then ds.take point.toNat ++ '.' :: ds.drop point.toNat
  else ds ++ zeros (point.toNat - ds.length) ++ (if style.point then ['.', '0'] else [])

/-- Digits with the point after the first and a signed power of ten. -/
def exponentText (ds : List Char) (exponent : Int) : List Char :=
  let fraction := ds.drop 1
  ds.take 1 ++ (if fraction.isEmpty then [] else '.' :: fraction) ++
    'e' :: (if exponent < 0 then '-' else '+') :: Nat.toDigits 10 exponent.natAbs

/-- The text of a double that is neither negative nor infinite. -/
def magnitude (style : FloatStyle) (bits : UInt64) : List Char :=
  if bits = 0 then '0' :: (if style.point then ['.', '0'] else [])
  else
    let (c, place) := Shortest.digits style.halfway bits
    let ds := Nat.toDigits 10 c
    let point := ds.length + place
    if style.positional (point - 1) then style.positionalText ds point
    else exponentText ds (point - 1)

/-- The text of a double. -/
def write (style : FloatStyle) (x : Float) : String :=
  if x.isNaN then style.notANumber
  else
    let negative := x.toBits ≥ 0x8000000000000000
    let sign := if negative then "-" else ""
    if x.isFinite then
      sign ++ String.ofList (style.magnitude (x.toBits &&& 0x7FFFFFFFFFFFFFFF))
    else sign ++ style.infinity

end FloatStyle

end SqlPlan
