import FlowCheck.Instant
import FlowCheck.Proofs.Text.Digits
import Mathlib.Algebra.Group.Nat.Defs

/-!
# A written instant reads back

Numbers are written with leading zeros to a fixed width, and a number of that width reads back whatever follows it
(`readNumber_padded`).  Each part of the written form is therefore read by its own reader, and the parts make the
instant again (`read_text`).
-/

namespace FlowCheck.Instant

/-! ### Digits -/

private theorem isBlank_of_isDigit {c : Char} (h : c.isDigit = true) : Text.isBlank c = false := by
  have hrange : 48 ≤ c.toNat ∧ c.toNat ≤ 57 := by
    simp only [Char.isDigit, Bool.and_eq_true, decide_eq_true_eq, UInt32.le_iff_toNat_le] at h
    exact h
  simp only [Text.isBlank, Bool.or_eq_false_iff, Bool.and_eq_false_iff, decide_eq_false_iff_not,
    beq_eq_false_iff_ne]
  omega

private theorem dropBlanks_cons {c : Char} {cs : List Char} (h : Text.isBlank c = false) :
    dropBlanks (c :: cs) = c :: cs := by
  simp [dropBlanks, h]

private theorem toList_padded (width n : Nat) :
    (padded width n).toList = List.replicate (width - (Nat.toDigits 10 n).length) '0' ++ Nat.toDigits 10 n := by
  simp [padded]

theorem isDigit_of_mem_padded (width n : Nat) {c : Char} (h : c ∈ (padded width n).toList) :
    c.isDigit = true := by
  rw [toList_padded, List.mem_append] at h
  rcases h with h | h
  · obtain rfl := (List.mem_replicate.1 h).2
    rfl
  · exact isDigit_of_mem_decimal h

private theorem takeWhile_padded (width n : Nat) :
    (padded width n).toList.takeWhile Char.isDigit = (padded width n).toList := by
  have h := @List.takeWhile_append_of_pos Char Char.isDigit (padded width n).toList []
    fun _ hc => isDigit_of_mem_padded width n hc
  rwa [List.append_nil, List.takeWhile_nil, List.append_nil] at h

private theorem padded_ne_nil (width n : Nat) : (padded width n).toList ≠ [] := by
  simp [toList_padded]

private theorem length_padded {width n : Nat} (hw : 0 < width) (h : n < 10 ^ width) :
    (padded width n).toList.length = width := by
  have hle := (Nat.length_toDigits_le_iff (by decide) hw).2 h
  rw [toList_padded, List.length_append, List.length_replicate]
  omega

private theorem natOf_padded (width n : Nat) : natOf (padded width n).toList = n := by
  show Nat.ofDigitChars 10 (padded width n).toList 0 = n
  rw [toList_padded, Nat.ofDigitChars_append, Nat.ofDigitChars_replicate_zero, Nat.mul_zero,
    Nat.ofDigitChars_ten_toDigits]

/-- A number written to a width reads back from as many digits. -/
theorem readNumber_padded {width n : Nat} (hw : 0 < width) (h : n < 10 ^ width) (rest : List Char) :
    readNumber (some width) ((padded width n).toList ++ rest) = .ok (n, rest) := by
  have htake : ((padded width n).toList ++ rest).take width = (padded width n).toList :=
    List.take_left' (length_padded hw h)
  have hdigits : (Option.elim (some width) ((padded width n).toList ++ rest) ((padded width n).toList ++ rest).take
      |>.takeWhile Char.isDigit) = (padded width n).toList := by
    rw [Option.elim_some, htake, takeWhile_padded]
  unfold readNumber
  simp only [hdigits, natOf_padded, List.drop_left]
  rw [if_neg (by simpa using padded_ne_nil width n)]

/-- A written number reads back when no digit follows. -/
theorem readNumber_none_padded (width n : Nat) {c : Char} (hc : c.isDigit = false) (rest : List Char) :
    readNumber none ((padded width n).toList ++ c :: rest) = .ok (n, c :: rest) := by
  have hdigits : (Option.elim none ((padded width n).toList ++ c :: rest) ((padded width n).toList ++ c :: rest).take
      |>.takeWhile Char.isDigit) = (padded width n).toList := by
    rw [Option.elim_none, List.takeWhile_append_of_pos fun _ h => isDigit_of_mem_padded width n h,
      List.takeWhile_cons_of_neg (by simp [hc]), List.append_nil]
  unfold readNumber
  simp only [hdigits, natOf_padded, List.drop_left]
  rw [if_neg (by simpa using padded_ne_nil width n)]

private theorem dropBlanks_padded (width n : Nat) (rest : List Char) :
    dropBlanks ((padded width n).toList ++ rest) = (padded width n).toList ++ rest := by
  obtain ⟨c, cs, hc⟩ := List.exists_cons_of_ne_nil (padded_ne_nil width n)
  have hdigit : c.isDigit = true := isDigit_of_mem_padded width n (by rw [hc]; exact List.mem_cons_self)
  rw [hc, List.cons_append, dropBlanks_cons (isBlank_of_isDigit hdigit)]

/-! ### The parts of an instant -/

private theorem readField_padded {low high n : Nat} (hlow : low ≤ n) (hhigh : n ≤ high) (h : n < 100)
    (rest : List Char) : readField low high ((padded 2 n).toList ++ rest) = .ok (n, rest) := by
  unfold readField
  rw [dropBlanks_padded, readNumber_padded (by decide) h]
  show (if low ≤ n ∧ n ≤ high then Except.ok (n, rest) else Except.error Fault.outOfRange) = _
  rw [if_pos ⟨hlow, hhigh⟩]

private theorem readMark_cons (mark : Char) (h : Text.isBlank mark = false) (rest : List Char) :
    readMark mark (mark :: rest) = .ok rest := by
  simp [readMark, dropBlanks_cons h]

private theorem readYear_signed {year : Int} (hbounds : -0x80000000 ≤ year ∧ year < 0x80000000)
    (rest : List Char) :
    readYear ((if year < 0 then '-' else '+') :: ((padded 4 year.natAbs).toList ++ '-' :: rest)) =
      .ok (year, '-' :: rest) := by
  have hread := readNumber_none_padded 4 year.natAbs (by decide : '-'.isDigit = false) rest
  unfold readYear
  by_cases hneg : year < 0
  · have habs : -((year.natAbs : Nat) : Int) = year := by omega
    rw [if_pos hneg, dropBlanks_cons (by decide)]
    simp only [hread, habs, bind, Except.bind]
    rw [if_pos hbounds]
  · have habs : ((year.natAbs : Nat) : Int) = year := by omega
    rw [if_neg hneg, dropBlanks_cons (by decide)]
    simp only [hread, habs, bind, Except.bind]
    rw [if_pos hbounds]

private theorem readYear_yearText {year : Int} (h : Calendar.hasYear year = true) (rest : List Char) :
    readYear ((yearText year).toList ++ '-' :: rest) = .ok (year, '-' :: rest) := by
  have hyear : -262143 ≤ year ∧ year ≤ 262142 := by simpa [Calendar.hasYear] using h
  have hbounds : -0x80000000 ≤ year ∧ year < 0x80000000 := by omega
  unfold yearText
  split
  · rename_i hfour
    obtain ⟨c, cs, hc⟩ := List.exists_cons_of_ne_nil (padded_ne_nil 4 year.toNat)
    have hdigit : c.isDigit = true :=
      isDigit_of_mem_padded 4 year.toNat (by rw [hc]; exact List.mem_cons_self)
    have hminus : c ≠ '-' := fun he => absurd (he ▸ hdigit) (by decide)
    have hplus : c ≠ '+' := fun he => absurd (he ▸ hdigit) (by decide)
    have hread := readNumber_padded (by decide : 0 < 4) (by omega : year.toNat < 10 ^ 4) ('-' :: rest)
    unfold readYear
    rw [dropBlanks_padded]
    rw [hc, List.cons_append] at hread ⊢
    simp [hminus, hplus, hread, Int.toNat_of_nonneg hfour.1, hbounds, bind, Except.bind]
  · have hsigned := readYear_signed hbounds rest
    rw [String.toList_append, List.append_assoc]
    by_cases hneg : year < 0
    · rw [if_pos hneg] at hsigned ⊢
      exact hsigned
    · rw [if_neg hneg] at hsigned ⊢
      exact hsigned

/-- A point and `places` digits stand for as many nanoseconds as the digits filled up to nine. -/
private theorem readFraction_padded {places n nanos : Nat} (hpos : 0 < places) (hle : places ≤ 9)
    (h : n < 10 ^ places) (hnanos : n * 10 ^ (9 - places) = nanos) (rest : List Char) :
    readFraction (("." ++ padded places n).toList ++ 'Z' :: rest) = .ok (nanos, 'Z' :: rest) := by
  have hlength := length_padded hpos h
  have hpoint : ("." ++ padded places n).toList = '.' :: (padded places n).toList := by
    rw [String.toList_append]
    rfl
  have hdigits : (((padded places n).toList ++ 'Z' :: rest).take 9).takeWhile Char.isDigit =
      (padded places n).toList := by
    have htake : ∀ c ∈ (padded places n).toList.take 9, c.isDigit = true := fun _ hc =>
      isDigit_of_mem_padded places n (List.mem_of_mem_take hc)
    rw [List.take_append, List.takeWhile_append_of_pos htake, List.take_of_length_le (by omega), hlength]
    -- of what follows the digits, the nine characters show at most the `Z`
    cases hrest : 9 - places with
    | zero => simp
    | succ k => simp [List.takeWhile_cons_of_neg]
  have hread : readNumber (some 9) ((padded places n).toList ++ 'Z' :: rest) = .ok (n, 'Z' :: rest) := by
    unfold readNumber
    simp only [Option.elim_some, hdigits, natOf_padded, List.drop_left]
    rw [if_neg (by simpa using padded_ne_nil places n)]
  have hcount : ((padded places n).toList ++ 'Z' :: rest).length - ('Z' :: rest).length = places := by
    rw [List.length_append, hlength]
    omega
  rw [hpoint, List.cons_append, ← hnanos]
  unfold readFraction
  simp only [hread, hcount, bind, Except.bind]
  rfl

private theorem readFraction_fractionText {nanos : Nat} (h : nanos < 1000000000) (rest : List Char) :
    readFraction ((fractionText nanos).toList ++ 'Z' :: rest) = .ok (nanos, 'Z' :: rest) := by
  unfold fractionText
  split
  · rename_i hzero
    rw [hzero]
    rfl
  · split
    · exact readFraction_padded (by decide) (by decide) (by omega) (by omega) rest
    · split
      · exact readFraction_padded (by decide) (by decide) (by omega) (by omega) rest
      · exact readFraction_padded (by decide) (by decide) h (by omega) rest

/-- The parts that an instant is written with make it again; the sixtieth second of a minute is a leap second. -/
private theorem ofLocal_parts (t : Instant) :
    ofLocal t.year t.month t.day (t.second / 3600) (t.second / 60 % 60) (t.second % 60 + t.nanos / 1000000000)
      (t.nanos % 1000000000) 0 = .ok t := by
  have hsecond := t.second_lt
  have hnanos := t.nanos_lt
  have hleap := t.leap
  have hparts : (if t.second % 60 + t.nanos / 1000000000 = 60
      then (59, t.nanos % 1000000000 + 1000000000)
      else (t.second % 60 + t.nanos / 1000000000, t.nanos % 1000000000)) = (t.second % 60, t.nanos) := by
    split <;> simp only [Prod.mk.injEq] <;> omega
  have hclock : ((t.second / 3600 : Nat) : Int) * 3600 + ((t.second / 60 % 60 : Nat) : Int) * 60 +
      ((t.second % 60 : Nat) : Int) - 0 = t.second := by omega
  have hday : (t.second : Int) / 86400 = 0 := by omega
  have hrest : ((t.second : Int) % 86400).toNat = t.second := by omega
  have hshift : shiftDay t.year t.month t.day 0 = (t.year, t.month, t.day) := by
    unfold shiftDay
    rw [if_pos rfl]
  have hcivil : (!(Calendar.hasYear t.year && decide (1 ≤ t.day) &&
      decide (t.day ≤ Calendar.monthLength t.year t.month))) = false := by
    simp [t.year_ok, t.day_ok.1, t.day_ok.2]
  unfold ofLocal
  rw [hcivil]
  simp only [hparts, hclock, hday, hrest, hshift]
  rw [if_neg (by decide), if_neg (by decide), dif_pos ⟨t.year_ok, t.month_ok, t.day_ok, hsecond, hnanos, hleap⟩]

theorem toList_text (t : Instant) : t.text.toList =
    (yearText t.year).toList ++ '-' :: ((padded 2 t.month).toList ++ '-' :: ((padded 2 t.day).toList ++
      'T' :: ((padded 2 (t.second / 3600)).toList ++ ':' :: ((padded 2 (t.second / 60 % 60)).toList ++
        ':' :: ((padded 2 (t.second % 60 + t.nanos / 1000000000)).toList ++
          ((fractionText (t.nanos % 1000000000)).toList ++ ['Z'])))))) := by
  simp [text, civilText]

theorem read_text (t : Instant) : read t.text = .ok t := by
  have hsecond := t.second_lt
  have hnanos := t.nanos_lt
  have hleap := t.leap
  have hmonth := t.month_ok
  have hday : 1 ≤ t.day ∧ t.day ≤ 31 := by
    have h := t.day_ok
    have hlength : Calendar.monthLength t.year t.month ≤ 31 := by
      unfold Calendar.monthLength
      split
      · split <;> omega
      · split <;> omega
    omega
  have hhour : t.second / 3600 ≤ 23 := by omega
  have hminute : t.second / 60 % 60 ≤ 59 := by omega
  have hend : t.second % 60 + t.nanos / 1000000000 ≤ 60 := by omega
  unfold read
  -- each reader takes its part and leaves the others
  rw [toList_text, readYear_yearText t.year_ok]
  simp only [bind, Except.bind, readMark_cons '-' (by decide)]
  rw [readField_padded hmonth.1 hmonth.2 (by omega)]
  simp only [readMark_cons '-' (by decide)]
  rw [readField_padded hday.1 hday.2 (by omega)]
  simp only [pure, Except.pure, true_or, if_true]
  rw [readField_padded (Nat.zero_le _) hhour (by omega)]
  simp only [readMark_cons ':' (by decide)]
  rw [readField_padded (Nat.zero_le _) hminute (by omega)]
  simp only [readMark_cons ':' (by decide)]
  rw [readField_padded (Nat.zero_le _) hend (by omega)]
  simp only [readFraction_fractionText (Nat.mod_lt t.nanos (by decide))]
  exact ofLocal_parts t

end FlowCheck.Instant
