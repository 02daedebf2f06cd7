import FlowCheck.Text.Blank

/-!
# Instants

An `Instant` is a point of universal time to the nanosecond, kept as a day of the Gregorian calendar, a second
of that day and the nanoseconds since that second began.  A leap second is the second before it with a billion
nanoseconds or more, so that instants are ordered field by field.  `read` accepts a relaxed RFC 3339 form:
blanks between the parts, a small `t`, `z` or a space for the separators, a signed year of any length, a
fraction of any length, and offsets from universal time, which it applies.  `text` writes the strict form.
-/

namespace FlowCheck

namespace Calendar

def isLeapYear (year : Int) : Bool :=
  year % 4 == 0 && (year % 100 != 0 || year % 400 == 0)

/-- The number of days of a month, counted from 1. -/
def monthLength (year : Int) (month : Nat) : Nat :=
  if month = 2 then (if isLeapYear year then 29 else 28)
  else if month = 4 ∨ month = 6 ∨ month = 9 ∨ month = 11 then 30
  else 31

/-- The years that dates may have. -/
def hasYear (year : Int) : Bool :=
  -262143 ≤ year && year ≤ 262142

end Calendar

/-- A point of universal time. -/
structure Instant where
  year : Int
  month : Nat
  day : Nat
  /-- Seconds since midnight. -/
  second : Nat
  /-- Nanoseconds since the second began; a billion or more in a leap second. -/
  nanos : Nat
  year_ok : Calendar.hasYear year = true
  month_ok : 1 ≤ month ∧ month ≤ 12
  day_ok : 1 ≤ day ∧ day ≤ Calendar.monthLength year month
  second_lt : second < 86400
  nanos_lt : nanos < 2000000000
  /-- A leap second ends a minute. -/
  leap : 1000000000 ≤ nanos → second % 60 = 59
  deriving DecidableEq

namespace Instant

/-- Why a text is not an instant. -/
inductive Fault where
  | invalid
  | outOfRange
  | impossible
  | tooShort
  | tooLong
  deriving DecidableEq

def Fault.message : Fault → String
  | .invalid => "input contains invalid characters"
  | .outOfRange => "input is out of range"
  | .impossible => "no possible date and time matching input"
  | .tooShort => "premature end of input"
  | .tooLong => "trailing input"

/-! ## Order -/

/-- The fields in the order in which they decide. -/
def fields (t : Instant) : List Int :=
  [t.year, t.month, t.day, t.second, t.nanos]

def le (s t : Instant) : Bool :=
  !(decide (t.fields < s.fields))

/-! ## Writing -/

/-- The digits of `n`, filled up with zeros to `width`. -/
def padded (width n : Nat) : String :=
  let digits := Nat.toDigits 10 n
  String.ofList (List.replicate (width - digits.length) '0' ++ digits)

/-- Four digits; with a sign outside the years 0 to 9999. -/
def yearText (year : Int) : String :=
  if 0 ≤ year ∧ year ≤ 9999 then padded 4 year.toNat
  else (if year < 0 then "-" else "+") ++ padded 4 year.natAbs

/-- Nothing, or a point and three, six or nine digits: as few as show all nanoseconds. -/
def fractionText (nanos : Nat) : String :=
  if nanos = 0 then ""
  else if nanos % 1000000 = 0 then "." ++ padded 3 (nanos / 1000000)
  else if nanos % 1000 = 0 then "." ++ padded 6 (nanos / 1000)
  else "." ++ padded 9 nanos

/-- Date and time of day without the mark for universal time. -/
def civilText (t : Instant) : String :=
  let leap := t.nanos / 1000000000
  yearText t.year ++ "-" ++ padded 2 t.month ++ "-" ++ padded 2 t.day ++ "T" ++
    padded 2 (t.second / 3600) ++ ":" ++ padded 2 (t.second / 60 % 60) ++ ":" ++
    padded 2 (t.second % 60 + leap) ++ fractionText (t.nanos % 1000000000)

/-- The form that documents use. -/
def text (t : Instant) : String :=
  t.civilText ++ "Z"

/-- The form that messages use. -/
def offsetText (t : Instant) : String :=
  t.civilText ++ "+00:00"

/-! ## Reading -/

private abbrev Reader (α : Type) := List Char → Except Fault (α × List Char)

def digitValue (c : Char) : Nat :=
  c.toNat - '0'.toNat

def dropBlanks (cs : List Char) : List Char :=
  cs.dropWhile Text.isBlank

def natOf (digits : List Char) : Nat :=
  digits.foldl (fun n c => 10 * n + digitValue c) 0

/-- The number that the first digits make, at least one and no more than `limit` if there is one. -/
def readNumber (limit : Option Nat) (cs : List Char) : Except Fault (Nat × List Char) :=
  let digits := (limit.elim cs cs.take).takeWhile Char.isDigit
  if digits.isEmpty then .error (if cs.isEmpty then .tooShort else .invalid)
  else .ok (natOf digits, cs.drop digits.length)

/-- A number of one or two digits after blanks, within bounds. -/
def readField (low high : Nat) (cs : List Char) : Except Fault (Nat × List Char) := do
  let (n, rest) ← readNumber (some 2) (dropBlanks cs)
  if low ≤ n ∧ n ≤ high then .ok (n, rest) else .error .outOfRange

/-- A year of up to four digits, or of any number of digits after a sign. -/
def readYear (cs : List Char) : Except Fault (Int × List Char) := do
  let bounded (n : Int) (rest : List Char) : Except Fault (Int × List Char) :=
    if -0x80000000 ≤ n ∧ n < 0x80000000 then .ok (n, rest) else .error .outOfRange
  match dropBlanks cs with
  | '-' :: rest => do
    let (n, rest) ← readNumber none rest
    bounded (-n) rest
  | '+' :: rest => do
    let (n, rest) ← readNumber none rest
    bounded n rest
  | rest => do
    let (n, rest) ← readNumber (some 4) rest
    bounded n rest

/-- A separator after blanks. -/
def readMark (mark : Char) (cs : List Char) : Except Fault (List Char) :=
  match dropBlanks cs with
  | [] => .error .tooShort
  | c :: rest => if c = mark then .ok rest else .error .invalid

/-- The nanoseconds of a fraction; digits after the ninth do not count. -/
def readFraction : List Char → Except Fault (Nat × List Char)
  | '.' :: cs => do
    let (n, rest) ← readNumber (some 9) cs
    .ok (n * Nat.pow 10 (9 - (cs.length - rest.length)), rest.dropWhile Char.isDigit)
  | cs => .ok (0, cs)

/-- Two digits in a row, with no blanks; `none` when fewer than two bytes are left. -/
private def twoDigits? : List Char → Option (Except Fault (Nat × Nat × List Char))
  | [] => none
  | [c] => if c.toNat < 0x80 then none else some (.error .invalid)
  | c :: d :: rest =>
    some (if c.isDigit && d.isDigit then .ok (digitValue c, digitValue d, rest) else .error .invalid)

/-- Seconds east of universal time. -/
def readOffset (cs : List Char) : Except Fault (Int × List Char) :=
  match cs with
  | [] => .error .tooShort
  | sign :: rest =>
    if sign = 'Z' ∨ sign = 'z' then .ok (0, rest)
    else if (cs.take 3).map Char.toUpper = ['U', 'T', 'C'] then .ok (0, cs.drop 3)
    else if sign ≠ '+' ∧ sign ≠ '-' ∧ sign ≠ '\u2212' then .error .invalid
    else do
      let (h₁, h₂, rest) ← (twoDigits? rest).getD (.error .tooShort)
      let (m₁, m₂, rest) ←
        (twoDigits? (rest.dropWhile fun c => c = ':' || Text.isBlank c)).getD (.error .tooShort)
      if 6 ≤ m₁ then throw .outOfRange
      let seconds : Int := (10 * h₁ + h₂) * 3600 + (10 * m₁ + m₂) * 60
      return (if sign = '+' then seconds else -seconds, rest)

/-- The date one day later or earlier. -/
def shiftDay (year : Int) (month day : Nat) (days : Int) : Int × Nat × Nat :=
  if days = 0 then (year, month, day)
  else if 0 < days then
    if day < Calendar.monthLength year month then (year, month, day + 1)
    else if month < 12 then (year, month + 1, 1)
    else (year + 1, 1, 1)
  else if 1 < day then (year, month, day - 1)
  else if 1 < month then (year, month - 1, Calendar.monthLength year (month - 1))
  else (year - 1, 12, 31)

/-- The instant of a local date and time, `offset` seconds east of universal time. -/
def ofLocal (year : Int) (month day hour minute second nanos : Nat) (offset : Int) : Except Fault Instant :=
  if !(Calendar.hasYear year && 1 ≤ day && day ≤ Calendar.monthLength year month) then .error .outOfRange
  else if 86400 ≤ offset.natAbs then .error .outOfRange
  else
    let (second, nanos) := if second = 60 then (59, nanos + 1000000000) else (second, nanos)
    let clock : Int := hour * 3600 + minute * 60 + second - offset
    let (year, month, day) := shiftDay year month day (clock / 86400)
    let second := (clock % 86400).toNat
    if h : Calendar.hasYear year = true ∧ (1 ≤ month ∧ month ≤ 12) ∧
        (1 ≤ day ∧ day ≤ Calendar.monthLength year month) ∧ second < 86400 ∧ nanos < 2000000000 ∧
        (1000000000 ≤ nanos → second % 60 = 59) then
      .ok ⟨year, month, day, second, nanos, h.1, h.2.1, h.2.2.1, h.2.2.2.1, h.2.2.2.2.1, h.2.2.2.2.2⟩
    else .error .impossible

/-- Reads a date, a time of day and an offset. -/
def read (s : String) : Except Fault Instant := do
  let (year, rest) ← readYear s.toList
  let (month, rest) ← readField 1 12 (← readMark '-' rest)
  let (day, rest) ← readField 1 31 (← readMark '-' rest)
  let rest ← match rest with
    | [] => throw .tooShort
    | c :: rest => if c = 'T' ∨ c = 't' ∨ c = ' ' then pure rest else throw .invalid
  let (hour, rest) ← readField 0 23 rest
  let (minute, rest) ← readField 0 59 (← readMark ':' rest)
  let (second, rest) ← readField 0 60 (← readMark ':' rest)
  let (nanos, rest) ← readFraction rest
  let (offset, rest) ← readOffset (dropBlanks rest)
  if (dropBlanks rest).isEmpty then ofLocal year month day hour minute second nanos offset else throw .tooLong

end Instant

end FlowCheck
