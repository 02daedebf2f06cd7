/-!
# Blank characters, trimming and fields

A character is blank when it has the Unicode property White_Space.  The key facts: core's ASCII class is
contained in it (`isBlank_of_isWhitespace`), a text is blank exactly when all its characters are
(`blank_iff`), and `fields` loses nothing but blanks (`flatten_fields`).
-/

namespace FlowCheck.Text

/-- The characters with the property White_Space. -/
def isBlank (c : Char) : Bool :=
  let n := c.toNat
  (0x09 ≤ n && n ≤ 0x0D) || n == 0x20 || n == 0x85 || n == 0xA0 || n == 0x1680 ||
    (0x2000 ≤ n && n ≤ 0x200A) || n == 0x2028 || n == 0x2029 || n == 0x202F || n == 0x205F || n == 0x3000

theorem isBlank_of_isWhitespace {c : Char} (h : c.isWhitespace = true) : isBlank c = true := by
  simp only [Char.isWhitespace, Bool.or_eq_true, decide_eq_true_eq] at h
  rcases h with ((rfl | rfl) | rfl) | rfl <;> decide

/-- A text without any character that is not blank. -/
def blank (s : String) : Bool :=
  s.toList.all isBlank

theorem blank_iff {s : String} : blank s = true ↔ ∀ c ∈ s.toList, isBlank c = true := by
  simp [blank]

/-- The characters without their trailing blanks. -/
def dropEndBlanks (cs : List Char) : List Char :=
  (cs.reverse.dropWhile isBlank).reverse

/-- The text without its leading and trailing blanks. -/
def trim (s : String) : String :=
  String.ofList (dropEndBlanks (s.toList.dropWhile isBlank))

/-- The maximal runs of characters that are not blank, in order. -/
def fields (cs : List Char) : List (List Char) :=
  match _h : cs.dropWhile isBlank with
  | [] => []
  | c :: rest => (c :: rest.takeWhile (!isBlank ·)) :: fields (rest.dropWhile (!isBlank ·))
termination_by cs.length
decreasing_by
  have h₁ := (List.dropWhile_sublist isBlank (l := cs)).length_le
  have h₂ := (List.dropWhile_sublist (!isBlank ·) (l := rest)).length_le
  rw [_h] at h₁
  simp only [List.length_cons] at h₁
  omega

private theorem filter_dropWhile_isBlank (cs : List Char) :
    (cs.dropWhile isBlank).filter (!isBlank ·) = cs.filter (!isBlank ·) := by
  induction cs with
  | nil => rfl
  | cons c cs ih =>
    rw [List.dropWhile_cons]
    split
    next h => simp [ih, h]
    next => rfl

private theorem takeWhile_append_filter (p : Char → Bool) (cs : List Char) :
    cs.takeWhile p ++ (cs.dropWhile p).filter p = cs.filter p := by
  induction cs with
  | nil => rfl
  | cons c cs ih => by_cases h : p c = true <;> simp [h, ih]

theorem flatten_fields (cs : List Char) : (fields cs).flatten = cs.filter (!isBlank ·) := by
  fun_induction fields cs with
  | case1 cs h => rw [← filter_dropWhile_isBlank, h]; rfl
  | case2 cs c rest h ih =>
    have hc : isBlank c = false := by
      have := List.head_dropWhile_not isBlank (l := cs) (by simp [h])
      simpa [h] using this
    rw [List.flatten_cons, ih, List.cons_append, takeWhile_append_filter,
      ← filter_dropWhile_isBlank cs, h, List.filter_cons]
    simp [hc]

/-- The text with its ASCII capitals made small; other characters stay. -/
def lowerAscii (s : String) : String :=
  String.ofList (s.toList.map Char.toLower)

end FlowCheck.Text
