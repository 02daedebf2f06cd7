import FlowCheck.Decimal.Double

/-!
# The fewest decimal digits that read back

The numbers that round to a double form an interval around it; its ends belong to it exactly when the mantissa
is even.  For one digit, two digits and so on, `shortest` tests the two neighbours of the double on that decimal
grid; the first grid with a neighbour in the interval wins, and of two such neighbours the nearer one.
-/

namespace FlowCheck.Double

/-- Quarters of `2 ^ (-1074)`: a scale on which the ends of the rounding interval are integers. -/
def quarters (x : Double) : Nat :=
  4 * x.magnitude

/-- The distance of neighbouring doubles with the exponent of `x`, in multiples of `2 ^ (-1074)`. -/
def gap (x : Double) : Nat :=
  twoTo (x.exponent + 1074).toNat

/-- The lower end of the interval of `x`, in quarters.  The gap below a power of two is half as wide. -/
def lowerEnd (x : Double) : Nat :=
  x.quarters - if x.mantissa = 0x10000000000000 ∧ -1074 < x.exponent then x.gap else 2 * x.gap

/-- The upper end of the interval of `x`, in quarters. -/
def upperEnd (x : Double) : Nat :=
  x.quarters + 2 * x.gap

/-- Numerator and denominator of `digits · 10 ^ exponent` in quarters. -/
def decimalQuarters (digits : Nat) (exponent : Int) : Nat × Nat :=
  (digits * tenTo exponent.toNat * twoTo 1076, tenTo (-exponent).toNat)

/-- The decimal `digits · 10 ^ exponent` rounds to `|x|`. -/
def readsBack (x : Double) (digits : Nat) (exponent : Int) : Bool :=
  let (n, d) := decimalQuarters digits exponent
  let (low, high) := (x.lowerEnd * d, x.upperEnd * d)
  if x.mantissa % 2 = 0 then low ≤ n && n ≤ high else low < n && n < high

/-- The `k` with `10 ^ (k - 1) ≤ |x| < 10 ^ k`, for `x` other than zero. -/
def pointPosition (x : Double) : Int :=
  ((Nat.toDigits 10 (x.magnitude * tenTo 340 / twoTo 1074)).length : Int) - 340

/-- The greatest multiple of `10 ^ exponent` that is at most `|x|`, as a multiple. -/
def gridBelow (x : Double) (exponent : Int) : Nat :=
  x.quarters * tenTo (-exponent).toNat / (tenTo exponent.toNat * twoTo 1076)

/-- The neighbour of `|x|` on the grid of `10 ^ exponent` that reads back; the nearer one of two, the even one of two
equally near. -/
def onGrid? (x : Double) (exponent : Int) : Option Nat :=
  let below := x.gridBelow exponent
  match x.readsBack below exponent, x.readsBack (below + 1) exponent with
  | false, false => none
  | true, false => some below
  | false, true => some (below + 1)
  | true, true =>
    let (n, d) := decimalQuarters (2 * below + 1) exponent
    let twice := 2 * x.quarters * d
    if twice < n then some below
    else if n < twice then some (below + 1)
    else some (below + below % 2)

/-- The digits without trailing zeros, and the power of ten that makes up for them. -/
def dropZeros : Nat → Nat → Int → Nat × Int
  | 0, digits, exponent => (digits, exponent)
  | fuel + 1, digits, exponent =>
    if digits ≠ 0 ∧ digits % 10 = 0 then dropZeros fuel (digits / 10) (exponent + 1) else (digits, exponent)

/-- The shortest decimal `digits · 10 ^ exponent` that rounds to `|x|`, without trailing zeros. -/
def shortest (x : Double) : Nat × Int :=
  if x.isZero then (0, 0)
  else
    let position := x.pointPosition
    let found := (List.range' 1 17).findSome? fun (count : Nat) =>
      (x.onGrid? (position - count)).map (·, position - count)
    let (digits, exponent) := found.getD (x.gridBelow (position - 17), position - 17)
    dropZeros 18 digits exponent

example : ((ofDecimal? false 3 (-1)).map shortest) = some (3, -1) := by decide +kernel
example : ((ofDecimal? false 5 (-324)).map shortest) = some (5, -324) := by decide +kernel
example : ((ofDecimal? false 17976931348623157 292).map shortest) = some (17976931348623157, 292) := by
  decide +kernel

end FlowCheck.Double
