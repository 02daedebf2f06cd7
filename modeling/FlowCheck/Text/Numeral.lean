/-!
# Decimal numerals of 64 bits

A numeral has one digit or more, perhaps after a plus sign; zeros in front do not count.
-/

namespace FlowCheck.Text

/-- The number of a numeral, if it fits 64 bits. -/
def word64? (s : String) : Option UInt64 :=
  let digits := match s.toList with
    | '+' :: digits => digits
    | digits => digits
  let n := digits.foldl (fun n c => 10 * n + (c.toNat - '0'.toNat)) 0
  if !digits.isEmpty && digits.all Char.isDigit && n < 0x10000000000000000 then some n.toUInt64 else none

end FlowCheck.Text
