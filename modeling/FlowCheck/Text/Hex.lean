/-!
# Small hexadecimal numerals

Digits are small letters.  `hex n` is the shortest numeral of `n`, `hexPadded w n` fills it up with zeros to `w`
digits.
-/

namespace FlowCheck.Text

/-- The numeral of `n` in base sixteen. -/
def hex (n : Nat) : List Char :=
  Nat.toDigits 16 n

/-- The numeral of `n` in base sixteen with at least `width` digits. -/
def hexPadded (width n : Nat) : List Char :=
  List.replicate (width - (hex n).length) '0' ++ hex n

/-- The value of a hexadecimal digit of either case. -/
def hexDigit? (c : Char) : Option Nat :=
  if '0' ≤ c ∧ c ≤ '9' then some (c.toNat - '0'.toNat)
  else if 'a' ≤ c ∧ c ≤ 'f' then some (c.toNat - 'a'.toNat + 10)
  else if 'A' ≤ c ∧ c ≤ 'F' then some (c.toNat - 'A'.toNat + 10)
  else none

/-- The value of a row of hexadecimal digits; `none` when one of them is not a digit. -/
def ofHex? (cs : List Char) : Option Nat :=
  cs.foldlM (fun n c => (hexDigit? c).map (n * 16 + ·)) 0

example : hex 0x200B = ['2', '0', '0', 'b'] ∧ hexPadded 4 7 = ['0', '0', '0', '7'] := by decide

end FlowCheck.Text
