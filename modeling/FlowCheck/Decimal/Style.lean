import FlowCheck.Decimal.Shortest

/-!
# Decimal texts of doubles

All texts show the shortest digits that read back; a `DecimalStyle` says where an exponent is used and how it looks.
Documents keep a mark that the number is not an integer (`1.0`); messages do not.
-/

namespace FlowCheck

/-- How the digits of a double are laid out. -/
structure DecimalStyle where
  /-- Whether a number below `10 ^ k`, and not below `10 ^ (k - 1)`, is written without exponent. -/
  positional : Int → Bool
  /-- A number without fraction ends in `.0`. -/
  pointZero : Bool
  /-- An exponent that is not negative has the sign `+`. -/
  plusSign : Bool

namespace DecimalStyle

/-- Positional from `0.00001` up to sixteen digits before the point. -/
def json : DecimalStyle :=
  ⟨fun k => -5 < k && k ≤ 16, true, true⟩

/-- As in JSON, without the sign of a positive exponent. -/
def yaml : DecimalStyle :=
  { json with plusSign := false }

/-- Never an exponent, and an integral number looks like an integer. -/
def plain : DecimalStyle :=
  ⟨fun _ => true, false, false⟩

/-- Never an exponent, and always a point. -/
def pointed : DecimalStyle :=
  { plain with pointZero := true }

private def zeros (n : Nat) : List Char :=
  List.replicate n '0'

/-- The digits around a decimal point that stands after the first `point` of them. -/
def positionalText (style : DecimalStyle) (digits : List Char) (point : Int) : List Char :=
  if point ≤ 0 then '0' :: '.' :: zeros (-point).toNat ++ digits
  else if digits.length ≤ point then
    digits ++ zeros (point.toNat - digits.length) ++ if style.pointZero then ['.', '0'] else []
  else digits.take point.toNat ++ '.' :: digits.drop point.toNat

/-- One digit before the point, the others behind it, and the power of ten. -/
def exponentText (style : DecimalStyle) (digits : List Char) (point : Int) : List Char :=
  let fraction := digits.drop 1
  let exponent := point - 1
  digits.take 1 ++ (if fraction.isEmpty then [] else '.' :: fraction) ++ 'e' ::
    (if style.plusSign ∧ 0 ≤ exponent then ['+'] else []) ++ (toString exponent).toList

/-- The text of a double. -/
def text (style : DecimalStyle) (x : Double) : String :=
  let (digits, exponent) := x.shortest
  let shown := Nat.toDigits 10 digits
  let point : Int := if x.isZero then 1 else shown.length + exponent
  let body := if style.positional point then style.positionalText shown point else style.exponentText shown point
  String.ofList (if x.negative then '-' :: body else body)

end DecimalStyle

end FlowCheck
