import FlowCheck.Text.Hex
import FlowCheck.Value.Basic

/-!
# Plain scalars

What a YAML scalar without quotes and without a tag stands for (`resolve`), after the core schema of YAML 1.2:
null, booleans, integers of base ten, sixteen, eight and two, numbers with a fraction or an exponent, and else a
text.  A row of digits with a leading zero is a text, and so is a number beyond the largest double.
-/

namespace FlowCheck.Yaml

/-- The meaning of a plain scalar. -/
inductive Plain where
  | null
  | bool (b : Bool)
  | int (n : Int)
  | float (x : Double)
  /-- An infinity, or not a number. -/
  | nonFinite
  | text
  deriving DecidableEq

def digitsValue (digits : List Char) : Nat :=
  digits.foldl (fun n c => 10 * n + (c.toNat - '0'.toNat)) 0

/-- A non-empty row of decimal digits. -/
def isDigits (cs : List Char) : Bool :=
  !cs.isEmpty && cs.all Char.isDigit

/-- The text after at most one sign. -/
def dropSign : List Char → List Char
  | '+' :: cs => cs
  | '-' :: cs => cs
  | cs => cs

/-- Digits after a zero, with or without a sign: no number. -/
def hasLeadingZero (cs : List Char) : Bool :=
  match dropSign cs with
  | '0' :: digits => isDigits digits
  | _ => false

/-- The value of a row of digits of a base up to sixteen. -/
def ofBase? (base : Nat) (cs : List Char) : Option Nat :=
  if cs.isEmpty then none
  else cs.foldlM (fun n c =>
    match Text.hexDigit? c with
    | some d => if d < base then some (base * n + d) else none
    | none => none) 0

/-- An integer without a sign. -/
def natural? : List Char → Option Nat
  | '0' :: 'x' :: digits => ofBase? 16 digits
  | '0' :: 'o' :: digits => ofBase? 8 digits
  | '0' :: 'b' :: digits => ofBase? 2 digits
  | digits => if isDigits digits && !hasLeadingZero digits then some (digitsValue digits) else none

/-- An integer of at most 128 bits, signed or not. -/
def integer? (cs : List Char) : Option Int :=
  match cs with
  | '-' :: digits => (natural? digits).bind fun n => if n ≤ 0x80000000000000000000000000000000 then some (-n) else none
  | '+' :: digits => (natural? digits).bind fun n => if n < 0x100000000000000000000000000000000 then some n else none
  | digits => (natural? digits).bind fun n => if n < 0x100000000000000000000000000000000 then some n else none

/-- The exponent of a decimal: nothing, or `e` and an integer. -/
def exponent? : List Char → Option Int
  | [] => some 0
  | c :: cs =>
    if c ≠ 'e' ∧ c ≠ 'E' then none
    else
      let digits := dropSign cs
      if !isDigits digits then none
      else if cs.head? = some '-' then some (-(digitsValue digits)) else some (digitsValue digits)

/-- A decimal without a sign: digits with at most one point among them, and an exponent. -/
def decimal? (negative : Bool) (cs : List Char) : Option Double :=
  let whole := cs.takeWhile Char.isDigit
  let (fraction, rest) := match cs.dropWhile Char.isDigit with
    | '.' :: rest => (rest.takeWhile Char.isDigit, rest.dropWhile Char.isDigit)
    | rest => ([], rest)
  if whole.isEmpty && fraction.isEmpty then none
  else (exponent? rest).bind fun exponent =>
    Double.ofDecimal? negative (digitsValue (whole ++ fraction)) (exponent - fraction.length)

/-- A finite number that is no integer. -/
def float? (cs : List Char) : Option Double :=
  if hasLeadingZero cs then none
  else
    match cs with
    | '-' :: cs => decimal? true cs
    | '+' :: cs => decimal? false cs
    | cs => decimal? false cs

/-- An infinity, or not a number. -/
def isNonFinite (s : String) : Bool :=
  [".inf", ".Inf", ".INF", "+.inf", "+.Inf", "+.INF", "-.inf", "-.Inf", "-.INF", ".nan", ".NaN", ".NAN"].contains s

def isNull (s : String) : Bool :=
  ["", "~", "null", "Null", "NULL"].contains s

def bool? (s : String) : Option Bool :=
  if ["true", "True", "TRUE"].contains s then some true
  else if ["false", "False", "FALSE"].contains s then some false
  else none

/-- What a plain scalar stands for. -/
def resolve (s : String) : Plain :=
  if isNull s then .null
  else
    match bool? s with
    | some b => .bool b
    | none =>
      match integer? s.toList with
      | some n => .int n
      | none =>
        if isNonFinite s then .nonFinite
        else
          match float? s.toList with
          | some x => .float x
          | none => .text

end FlowCheck.Yaml
