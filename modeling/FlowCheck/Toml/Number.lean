import FlowCheck.Instant
import FlowCheck.Toml.Text
import FlowCheck.Value.Basic

/-!
# Numbers, dates and times

Integers are those of 64 bits with a sign, in base ten or, without a sign, in base sixteen, eight or two.  A date or a
time is a mapping with one field, so that it is neither a text nor a number to those who ask.
-/

namespace FlowCheck.Toml

/-- A row of digits, at least one; an underscore may stand between two. -/
def digitRow (isDigit : Char → Bool) : Reader (List Char)
  | [] => .error []
  | c :: '_' :: rest =>
    if isDigit c then (digitRow isDigit rest).map fun (ds, rest) => (c :: ds, rest) else .error (c :: '_' :: rest)
  | c :: rest =>
    if !isDigit c then .error (c :: rest)
    else if rest.head?.any isDigit then (digitRow isDigit rest).map fun (ds, rest) => (c :: ds, rest)
    else .ok ([c], rest)

/-- The number that digits of a base make. -/
def natOfDigits (base : Nat) (ds : List Char) : Nat :=
  ds.foldl (fun n c => base * n + (Text.hexDigit? c).getD 0) 0

/-- The integer, if it fits 64 bits with a sign. -/
def integer? (n : Int) : Option Value :=
  if n < 0x8000000000000000 then (WideInt.ofInt? n).map .int else none

private def isBinary (c : Char) : Bool :=
  c = '0' || c = '1'

private def isOctal (c : Char) : Bool :=
  '0' ≤ c && c ≤ '7'

private def isHexadecimal (c : Char) : Bool :=
  (Text.hexDigit? c).isSome

/-- Digits after the mark of their base. -/
private def basedInteger (base : Nat) (isDigit : Char → Bool) : Reader Value := fun cs => do
  let (ds, rest) ← digitRow isDigit cs
  match integer? (natOfDigits base ds) with
  | some v => return (v, rest)
  | none => throw cs

/-- An exponent, if one comes next. -/
def exponent : Reader Int := fun cs =>
  match cs with
  | c :: rest =>
    if c = 'e' ∨ c = 'E' then
      let negative := rest.head? = some '-'
      let digits := if rest.head?.any fun s => s = '+' || s = '-' then rest.drop 1 else rest
      (digitRow Char.isDigit digits).map fun (ds, rest) =>
        let n : Int := natOfDigits 10 ds
        (if negative then -n else n, rest)
    else .ok (0, cs)
  | [] => .ok (0, [])

/-- The number with the given digits and power of ten.  There is no tree for an infinite number, so that a zero stands
for it; a positive number must not be so large. -/
private def decimal (negative : Bool) (digits : List Char) (power : Int) : Reader Value := fun cs =>
  match Double.ofDecimal? negative (natOfDigits 10 digits) power with
  | some x => .ok (.float x, cs)
  | none => if negative then .ok (.float (.zero true), cs) else .error cs

/-- A number in base ten after its sign. -/
def unsignedNumber (negative : Bool) : Reader Value := fun cs => do
  let (digits, rest) ← if cs.head? = some '0' then .ok (['0'], cs.drop 1) else digitRow Char.isDigit cs
  match rest with
  | '.' :: rest => do
    let (fraction, rest) ← digitRow Char.isDigit rest
    let (power, rest) ← exponent rest
    decimal negative (digits ++ fraction) (power - fraction.length) rest
  | _ =>
    if rest.head?.any fun c => c = 'e' || c = 'E' then do
      let (power, rest) ← exponent rest
      decimal negative digits power rest
    else
      let n : Int := natOfDigits 10 digits
      match integer? (if negative then -n else n) with
      | some v => return (v, rest)
      | none => throw cs

/-- One of the words for what is no finite number. -/
def specialNumber (negative : Bool) : Reader Value := fun cs =>
  if cs.take 3 = "inf".toList ∨ cs.take 3 = "nan".toList then .ok (.float (.zero negative), cs.drop 3) else .error cs

/-! ## Dates and times -/

/-- A number with the given count of digits, within bounds. -/
def fixedField (digits low high : Nat) : Reader Nat := fun cs =>
  let ds := cs.take digits
  if ds.length = digits ∧ ds.all Char.isDigit ∧ low ≤ natOfDigits 10 ds ∧ natOfDigits 10 ds ≤ high then
    .ok (natOfDigits 10 ds, cs.drop digits)
  else .error cs

/-- A mark between fields. -/
def mark (c : Char) : Reader Unit := fun cs =>
  if cs.head? = some c then .ok ((), cs.drop 1) else .error cs

/-- Year, month and day. -/
def date : Reader Unit := fun cs => do
  let (year, rest) ← fixedField 4 0 9999 cs
  let ((), rest) ← mark '-' rest
  let (month, rest) ← fixedField 2 1 12 rest
  let ((), rest) ← mark '-' rest
  let (_, rest) ← fixedField 2 1 (Calendar.monthLength year month) rest
  return ((), rest)

/-- Hour, minute, second and perhaps a fraction. -/
def time : Reader Unit := fun cs => do
  let (_, rest) ← fixedField 2 0 23 cs
  let ((), rest) ← mark ':' rest
  let (_, rest) ← fixedField 2 0 59 rest
  let ((), rest) ← mark ':' rest
  let (_, rest) ← fixedField 2 0 60 rest
  match rest with
  | '.' :: c :: rest => if c.isDigit then return ((), rest.dropWhile Char.isDigit) else throw (c :: rest)
  | rest => return ((), rest)

/-- What may follow date and time: an offset from universal time. -/
def offset : Reader Unit := fun cs =>
  match cs with
  | [] => .ok ((), [])
  | c :: rest =>
    if c = 'Z' ∨ c = 'z' then .ok ((), rest)
    else if c = '+' ∨ c = '-' then do
      let (_, rest) ← fixedField 2 0 23 rest
      let ((), rest) ← mark ':' rest
      let (_, rest) ← fixedField 2 0 59 rest
      return ((), rest)
    else .ok ((), cs)

/-- A time begins after a letter or a space. -/
private def afterDate? : List Char → Option (List Char)
  | c :: d :: rest => if (c = 'T' || c = 't' || c = ' ') && d.isDigit then some (d :: rest) else none
  | _ => none

/-- A date, a time of day, or both. -/
def dateOrTime : Reader Unit := fun cs =>
  if (cs.drop 2).head? = some ':' then time cs
  else do
    let ((), rest) ← date cs
    match afterDate? rest with
    | some rest => do
      let ((), rest) ← time rest
      offset rest
    | none => return ((), rest)

/-- The tree for a date or time with the given text. -/
def dateValue (text : List Char) : Value :=
  .object [("$date", .string (String.ofList text))]

/-- Digits begin a date when a hyphen follows the fourth, and a time when a colon follows the second. -/
def startsDate (cs : List Char) : Bool :=
  ((cs.take 4).all Char.isDigit && (cs.drop 4).head? = some '-') ||
    ((cs.take 2).all Char.isDigit && (cs.drop 2).head? = some ':')

/-- A number, a date or a time. -/
def numberOrDate : Reader Value := fun cs =>
  if startsDate cs then
    (dateOrTime cs).map fun ((), rest) => (dateValue (cs.take (cs.length - rest.length)), rest)
  else
    match cs with
    | '0' :: 'x' :: rest => basedInteger 16 isHexadecimal rest
    | '0' :: 'o' :: rest => basedInteger 8 isOctal rest
    | '0' :: 'b' :: rest => basedInteger 2 isBinary rest
    | c :: rest =>
      if c = '+' ∨ c = '-' then
        if rest.head?.any Char.isDigit then unsignedNumber (c = '-') rest else specialNumber (c = '-') rest
      else if c.isDigit then unsignedNumber false cs
      else specialNumber false cs
    | [] => .error []

end FlowCheck.Toml
