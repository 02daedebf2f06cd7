import Mathlib.Data.List.Basic

/-!
# Decimal numerals

A numeral is made of digits (`isDigit_of_mem_decimal`, `notMem_decimal`), does not begin with a zero unless it is one
(`eq_nil_of_decimal`), and tells its number (`decimal_inj`, `repr_inj`, `toString_int_inj`).
-/

namespace FlowCheck

variable {c : Char} {m n : Nat}

/-! ### Digits of a numeral -/

theorem isDigit_of_mem_decimal (h : c ∈ Nat.toDigits 10 n) : c.isDigit = true :=
  Nat.isDigit_of_mem_toDigits (by decide) (by decide) h

theorem notMem_decimal (hc : c.isDigit = false) (n : Nat) : c ∉ Nat.toDigits 10 n := by
  intro h
  rw [isDigit_of_mem_decimal h] at hc
  cases hc

theorem notMem_repr (hc : c.isDigit = false) (n : Nat) : c ∉ (Nat.repr n).toList := by
  rw [Nat.toList_repr]
  exact notMem_decimal hc n

theorem exists_cons_of_decimal (n : Nat) : ∃ c digits, Nat.toDigits 10 n = c :: digits ∧ c.isDigit = true := by
  obtain ⟨c, digits, hcons⟩ := List.exists_cons_of_ne_nil (Nat.toDigits_ne_nil (n := n) (b := 10))
  exact ⟨c, digits, hcons, isDigit_of_mem_decimal (hcons ▸ List.mem_cons_self)⟩

theorem mem_toString_int {n : Int} (h : c ∈ (toString n).toList) : c.isDigit = true ∨ c = '-' := by
  cases n with
  | ofNat n =>
    have hmem : c ∈ Nat.toDigits 10 n := by simpa [toString, Int.repr, Nat.repr] using h
    exact Or.inl (isDigit_of_mem_decimal hmem)
  | negSucc n =>
    have hmem : c = '-' ∨ c ∈ Nat.toDigits 10 (n + 1) := by
      simpa [toString, Int.repr, Nat.repr] using h
    exact hmem.symm.imp_left isDigit_of_mem_decimal

/-! ### The number of a numeral -/

theorem decimal_inj (h : Nat.toDigits 10 m = Nat.toDigits 10 n) : m = n :=
  calc
    m = Nat.ofDigitChars 10 (Nat.toDigits 10 m) 0 := Nat.ofDigitChars_ten_toDigits.symm
    _ = Nat.ofDigitChars 10 (Nat.toDigits 10 n) 0 := by rw [h]
    _ = n := Nat.ofDigitChars_ten_toDigits

theorem repr_inj : Nat.repr m = Nat.repr n ↔ m = n := by
  constructor
  · intro h
    have hlist : (Nat.repr m).toList = (Nat.repr n).toList := by rw [h]
    rw [Nat.toList_repr, Nat.toList_repr] at hlist
    exact decimal_inj hlist
  · exact congrArg Nat.repr

/-- A numeral of more than one digit does not begin with a zero. -/
theorem eq_nil_of_decimal {digits : List Char} (h : Nat.toDigits 10 n = '0' :: digits) : digits = [] := by
  induction n using Nat.strongRecOn generalizing digits with
  | ind n ih =>
    by_cases hn : n < 10
    · rw [Nat.toDigits_of_lt_base hn] at h
      exact (List.cons.inj h).2.symm
    · rw [Nat.toDigits_of_base_le (by decide) (Nat.le_of_not_lt hn)] at h
      obtain ⟨c, more, hmore, -⟩ := exists_cons_of_decimal (n / 10)
      rw [hmore, List.cons_append, List.cons.injEq] at h
      obtain ⟨rfl, -⟩ := h
      -- the numeral of the tenth part is a single zero
      have hnil := ih (n / 10) (by omega) hmore
      have hvalue := @Nat.ofDigitChars_ten_toDigits (n / 10)
      rw [hmore, hnil] at hvalue
      have hzero : Nat.ofDigitChars 10 ['0'] 0 = 0 := rfl
      omega

theorem toString_int_inj {m n : Int} (h : toString m = toString n) : m = n := by
  have hminus : ∀ k : Nat, '-' ∉ Nat.toDigits 10 k := notMem_decimal rfl
  have hlist := congrArg String.toList h
  cases m with
  | ofNat m =>
    cases n with
    | ofNat n =>
      have hdigits : Nat.toDigits 10 m = Nat.toDigits 10 n := by simpa [toString, Int.repr, Nat.repr] using hlist
      rw [decimal_inj hdigits]
    | negSucc n =>
      have hdigits : Nat.toDigits 10 m = '-' :: Nat.toDigits 10 (n + 1) := by
        simpa [toString, Int.repr, Nat.repr] using hlist
      exact absurd (hdigits ▸ List.mem_cons_self) (hminus m)
  | negSucc m =>
    cases n with
    | ofNat n =>
      have hdigits : '-' :: Nat.toDigits 10 (m + 1) = Nat.toDigits 10 n := by
        simpa [toString, Int.repr, Nat.repr] using hlist
      exact absurd (hdigits ▸ List.mem_cons_self) (hminus n)
    | negSucc n =>
      have hdigits : Nat.toDigits 10 (m + 1) = Nat.toDigits 10 (n + 1) := by
        simpa [toString, Int.repr, Nat.repr] using hlist
      rw [Nat.succ.inj (decimal_inj hdigits)]

end FlowCheck
