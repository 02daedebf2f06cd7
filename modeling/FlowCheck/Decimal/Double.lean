/-!
# Finite binary64 numbers

A `Double` is a finite number of the IEEE format binary64, kept as sign, mantissa and power of two in the one form the
format gives it, so that equality of doubles is equality of their bits (the two zeros differ).  Every double is a
multiple of `2 ^ (-1074)`: `units` is that multiple, and order is order of units.  Rounding is to the nearest double,
ties to the even mantissa (`ofRatio?`); it fails when the result would not be finite.

The infinities and what is no number are left out, since no document can hold one: JSON has no text for them and
refuses a number that is too large, and YAML reads theirs as null.
-/

namespace FlowCheck

/-- The number `± mantissa · 2 ^ exponent`. -/
structure Double where
  negative : Bool
  mantissa : Nat
  exponent : Int
  /-- It has 53 bits. -/
  mantissa_lt : mantissa < 0x20000000000000
  le_exponent : -1074 ≤ exponent
  exponent_le : exponent ≤ 971
  /-- Only the numbers next to zero have a short mantissa. -/
  exponent_of_lt : mantissa < 0x10000000000000 → exponent = -1074
  deriving DecidableEq

namespace Double

def twoTo (n : Nat) : Nat :=
  Nat.pow 2 n

def tenTo (n : Nat) : Nat :=
  Nat.pow 10 n

/-- The zero of the given sign. -/
def zero (negative : Bool) : Double :=
  ⟨negative, 0, -1074, by decide, by decide, by decide, fun _ => rfl⟩

instance : Inhabited Double := ⟨zero false⟩

def isZero (x : Double) : Bool :=
  x.mantissa == 0

/-- The number with the opposite sign. -/
def neg (x : Double) : Double :=
  { x with negative := !x.negative }

/-- The absolute value in multiples of `2 ^ (-1074)`. -/
def magnitude (x : Double) : Nat :=
  x.mantissa * twoTo (x.exponent + 1074).toNat

/-- The number in multiples of `2 ^ (-1074)`. -/
def units (x : Double) : Int :=
  if x.negative then -x.magnitude else x.magnitude

def le (x y : Double) : Bool :=
  x.units ≤ y.units

/-- The double with these parts, when they are in canonical form. -/
def ofParts? (negative : Bool) (mantissa : Nat) (exponent : Int) : Option Double :=
  if h : mantissa < 0x20000000000000 ∧ -1074 ≤ exponent ∧ exponent ≤ 971 ∧
      (mantissa < 0x10000000000000 → exponent = -1074) then
    some ⟨negative, mantissa, exponent, h.1, h.2.1, h.2.2.1, h.2.2.2⟩
  else none

theorem ofParts?_self (x : Double) : ofParts? x.negative x.mantissa x.exponent = some x :=
  dif_pos ⟨x.mantissa_lt, x.le_exponent, x.exponent_le, x.exponent_of_lt⟩

/-- The integer nearest to `num / den`; of two, the even one. -/
def roundDiv (num den : Nat) : Nat :=
  let q := num / den
  let r := num % den
  if 2 * r < den then q else if den < 2 * r then q + 1 else q + q % 2

/-- Numerator and denominator of `num / den / 2 ^ exponent`. -/
def scaleRatio (num den : Nat) (exponent : Int) : Nat × Nat :=
  if 0 ≤ exponent then (num, den * twoTo exponent.toNat) else (num * twoTo (-exponent).toNat, den)

/-- The power of two that leaves 53 bits of `num / den` before the point, or the least power there is. -/
def ratioExponent (num den : Nat) : Int :=
  let guess : Int := num.log2 - den.log2 - 52
  let (n, d) := scaleRatio num den guess
  max (if n / d < 0x10000000000000 then guess - 1 else guess) (-1074)

/-- The double nearest to `± num / den`; `none` when that is beyond the largest one. -/
def ofRatio? (negative : Bool) (num den : Nat) : Option Double :=
  if num = 0 ∨ den = 0 then some (zero negative)
  else
    let exponent := ratioExponent num den
    let (n, d) := scaleRatio num den exponent
    let mantissa := roundDiv n d
    if mantissa = 0x20000000000000 then ofParts? negative 0x10000000000000 (exponent + 1)
    else ofParts? negative mantissa exponent

/-- The double nearest to an integer. -/
def ofInt? (n : Int) : Option Double :=
  ofRatio? (n < 0) n.natAbs 1

def mul? (x y : Double) : Option Double :=
  let exponent := x.exponent + y.exponent
  ofRatio? (x.negative != y.negative) (x.mantissa * y.mantissa * twoTo exponent.toNat) (twoTo (-exponent).toNat)

/-- The double nearest to `x / y`; a zero for `y = 0`. -/
def div? (x y : Double) : Option Double :=
  let exponent := x.exponent - y.exponent
  ofRatio? (x.negative != y.negative) (x.mantissa * twoTo exponent.toNat)
    (y.mantissa * twoTo (-exponent).toNat)

/-- The double nearest to `± digits · 10 ^ exponent`.  Powers beyond the range of the format are not computed:
with `n` digits, the number is below `10 ^ (n + exponent)`. -/
def ofDecimal? (negative : Bool) (digits : Nat) (exponent : Int) : Option Double :=
  if digits = 0 then some (zero negative)
  else
    let places : Int := (Nat.toDigits 10 digits).length
    if 310 < places + exponent then none
    else if places + exponent < -330 then some (zero negative)
    else ofRatio? negative (digits * tenTo exponent.toNat) (tenTo (-exponent).toNat)

example : ((ofDecimal? false 1 (-1)).map fun x => (x.mantissa, x.exponent)) = some (7205759403792794, -56) := by
  decide +kernel

example : ofDecimal? true 18 308 = none ∧ (ofDecimal? false 17 307).isSome = true := by decide +kernel

end Double

end FlowCheck
