import FlowCheck.Instant

/-!
# Time stamps

Log lines begin with the date and the time of day to the microsecond, in universal time.
-/

namespace FlowCheck.Logging

/-- Year, month and day of a number of days since the beginning of 1970.  Years are counted from March here, so that a
leap day is the last day of its year. -/
def dateOfDay (days : Nat) : Nat × Nat × Nat :=
  let n := days + 719468
  let cycle := n / 146097
  let day := n % 146097
  let year := (day - day / 1460 + day / 36524 - day / 146096) / 365
  let rest := day - (365 * year + year / 4 - year / 100)
  let month := (5 * rest + 2) / 153
  let dayOfMonth := rest - (153 * month + 2) / 5 + 1
  if month < 10 then (400 * cycle + year, month + 3, dayOfMonth)
  else (400 * cycle + year + 1, month - 9, dayOfMonth)

/-- The time stamp for nanoseconds since the beginning of 1970. -/
def timeStamp (nanos : Nat) : String :=
  let seconds := nanos / 1000000000
  let (year, month, day) := dateOfDay (seconds / 86400)
  Instant.padded 4 year ++ "-" ++ Instant.padded 2 month ++ "-" ++ Instant.padded 2 day ++ "T" ++
    Instant.padded 2 (seconds / 3600 % 24) ++ ":" ++ Instant.padded 2 (seconds / 60 % 60) ++ ":" ++
    Instant.padded 2 (seconds % 60) ++ "." ++ Instant.padded 6 (nanos % 1000000000 / 1000) ++ "Z"

example : dateOfDay 0 = (1970, 1, 1) ∧ dateOfDay 11016 = (2000, 2, 29) ∧ dateOfDay 20513 = (2026, 3, 1) := by decide

end FlowCheck.Logging
