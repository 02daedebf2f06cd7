/-!
# Sets of indices

A set of numbers as the ones among the binary digits of a number.  `missing size s` counts the numbers below `size`
that are not in `s`; inserting one of them makes it smaller (`missing_insert_lt`), which bounds every search.
-/

namespace FlowCheck

structure IndexSet where
  bits : Nat
  deriving DecidableEq

namespace IndexSet

def empty : IndexSet := ⟨0⟩

def contains (s : IndexSet) (i : Nat) : Bool :=
  s.bits.testBit i

def insert (s : IndexSet) (i : Nat) : IndexSet :=
  ⟨s.bits ||| 1 <<< i⟩

@[simp] theorem contains_empty (i : Nat) : empty.contains i = false := by
  simp [empty, contains]

@[simp] theorem contains_insert (s : IndexSet) (i j : Nat) :
    (s.insert i).contains j = (s.contains j || i == j) := by
  simp only [insert, contains, Nat.testBit_or, Nat.one_shiftLeft, Nat.testBit_two_pow]
  by_cases h : i = j <;> simp [h]

/-- How many numbers below `size` are not in the set. -/
def missing (size : Nat) (s : IndexSet) : Nat :=
  ((List.range size).filter (!s.contains ·)).length

private theorem length_filter_lt {α : Type} {p q : α → Bool} {l : List α} (hqp : ∀ a, q a = true → p a = true)
    {a : α} (ha : a ∈ l) (hp : p a = true) (hq : q a = false) : (l.filter q).length < (l.filter p).length := by
  induction l with
  | nil => cases ha
  | cons b l ih =>
    have hle : (l.filter q).length ≤ (l.filter p).length := by
      clear ih ha
      induction l with
      | nil => simp
      | cons c l ih =>
        by_cases hc : q c = true
        · simp [hc, hqp c hc, ih]
        · by_cases hc' : p c = true <;> simp [hc, hc'] <;> omega
    rcases List.mem_cons.1 ha with rfl | ha
    · simp [hp, hq]
      omega
    · by_cases hb : q b = true
      · simpa [hb, hqp b hb] using ih ha
      · by_cases hb' : p b = true
        · have := ih ha
          simp [hb, hb']
          omega
        · simpa [hb, hb'] using ih ha

theorem missing_insert_lt {size i : Nat} {s : IndexSet} (hi : i < size) (hs : s.contains i = false) :
    (s.insert i).missing size < s.missing size := by
  apply length_filter_lt (a := i)
  · intro j h
    simp only [contains_insert, Bool.not_eq_true', Bool.or_eq_false_iff] at h
    simp [h.1]
  · simpa using hi
  · simp [hs]
  · simp

end IndexSet

end FlowCheck
