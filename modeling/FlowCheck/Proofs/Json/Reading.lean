import FlowCheck.Proofs.Json.Grammar
import FlowCheck.Proofs.Text.Digits
import Mathlib.Data.String.Basic

/-!
# Reading a text of a tree

The reader takes every text of a tree and gives back the tree with its mappings in the order of their keys
(`value_of_spells`), within the depth that it allows.  Scalars are read back from the way they are written
(`value_scalar`): escaped characters are what they stand for (`stringChars_escape`), and digits have their value
(`takeDigits_digits`).  What follows a number must not continue it (`Delimited`); in a text that is a gap, a
comma or a closing bracket.

Whole texts are at the end (`read_of_spells`): both layouts of a tree without doubles are read, since both spell it
(`spells_compactText`, `spells_prettyText`).
-/

namespace FlowCheck.Json

variable {rest : List Char} {fuel depth : Nat}

/-! ### Space -/

theorem skipSpace_gap {gap : List Char} (h : IsGap gap) (cs : List Char) : skipSpace (gap ++ cs) = skipSpace cs :=
  List.dropWhile_append_of_pos h

theorem skipSpace_cons {c : Char} (h : isSpace c = false) (cs : List Char) : skipSpace (c :: cs) = c :: cs :=
  List.dropWhile_cons_of_neg (by simp [h])

/-- The reader of trees passes over space first. -/
theorem value_gap {gap : List Char} (h : IsGap gap) (cs : List Char) :
    value (fuel + 1) depth (gap ++ cs) = value (fuel + 1) depth cs := by
  simp only [value, skipSpace_gap h]

/-! ### Strings -/

theorem ofHex?_hexPadded : ∀ n < 0x20,
    (Text.hexPadded 4 n).length = 4 ∧ Text.ofHex? (Text.hexPadded 4 n) = some n := by
  decide

theorem length_le_utf8ByteSize (cs : List Char) : cs.length ≤ (String.ofList cs).utf8ByteSize := by
  rw [String.utf8ByteSize_ofList]
  induction cs with
  | nil => exact Nat.zero_le _
  | cons c cs ih =>
    have := c.utf8Size_pos
    rw [List.length_cons, String.utf8Len_cons]
    omega

/-- The escape of a control character is read as that character. -/
theorem unicodeEscape_hexPadded {c : Char} (h : c.toNat < 0x20) :
    unicodeEscape (Text.hexPadded 4 c.toNat ++ rest) = .ok (c, rest) := by
  obtain ⟨hlength, hvalue⟩ := ofHex?_hexPadded c.toNat h
  have hsize : ¬(String.ofList (Text.hexPadded 4 c.toNat)).utf8ByteSize < 4 :=
    Nat.not_lt.2 (Nat.le_trans (Nat.le_of_eq hlength.symm) (length_le_utf8ByteSize _))
  have hread : hexEscape (Text.hexPadded 4 c.toNat ++ rest) = .ok (c.toNat, rest) := by
    rw [hexEscape, List.take_left' hlength, List.drop_left' hlength, if_neg hsize, hvalue]
  have hpair : c.toNat < 0xD800 ∨ 0xDBFF < c.toNat := by omega
  have hlone : ¬(0xDC00 ≤ c.toNat ∧ c.toNat ≤ 0xDFFF) := by omega
  simp only [unicodeEscape, hread, bind, Except.bind, if_neg hlone, if_pos hpair, Char.ofNat_toNat]
  rfl

/-- What a backslash stands for is put before the rest of the string. -/
theorem stringChars_backslash {c : Char} {cs more : List Char} (h : escapeSequence cs = .ok (c, more)) :
    stringChars (fuel + 1) ('\\' :: cs) = (stringChars fuel more).map fun read => (c :: read.1, read.2) := by
  have hread : stringChars (fuel + 1) ('\\' :: cs) = (escapeSequence cs).bind fun escaped =>
      (stringChars fuel escaped.2).bind fun read => .ok (escaped.1 :: read.1, read.2) := rfl
  rw [hread, h]
  rfl

/-- One character is read from the way it is written. -/
theorem stringChars_escape (c : Char) (cs : List Char) :
    stringChars (fuel + 1) (escape c ++ cs) = (stringChars fuel cs).map fun read => (c :: read.1, read.2) := by
  unfold escape
  -- the characters with an escape of their own, then the other control characters, then all others
  iterate 7
    split
    · subst c
      exact stringChars_backslash rfl
  split
  · rename_i h
    exact stringChars_backslash (unicodeEscape_hexPadded h)
  · rename_i hquote hbackslash _ _ _ _ _ hcontrol
    rw [List.singleton_append, stringChars]
    simp only [if_neg hquote, if_neg hbackslash, if_neg hcontrol]
    cases stringChars fuel cs <;> rfl

theorem length_escape_pos (c : Char) : 0 < (escape c).length := by
  unfold escape
  repeat' split
  all_goals exact Nat.succ_pos _

theorem stringChars_flatMap_escape (cs : List Char) (h : cs.length < fuel) :
    stringChars fuel (cs.flatMap escape ++ '"' :: rest) = .ok (cs, rest) := by
  induction cs generalizing fuel with
  | nil =>
    obtain ⟨fuel, rfl⟩ := Nat.exists_eq_succ_of_ne_zero (Nat.ne_of_gt h)
    rfl
  | cons c cs ih =>
    obtain ⟨fuel, rfl⟩ := Nat.exists_eq_succ_of_ne_zero (Nat.ne_zero_of_lt h)
    rw [List.flatMap_cons, List.append_assoc, stringChars_escape, ih (Nat.lt_of_succ_lt_succ h)]
    rfl

theorem length_le_length_flatMap_escape (cs : List Char) : cs.length ≤ (cs.flatMap escape).length := by
  induction cs with
  | nil => exact Nat.zero_le _
  | cons c cs ih =>
    have := length_escape_pos c
    rw [List.flatMap_cons, List.length_append, List.length_cons]
    omega

/-- A string reads back from the way it is written. -/
theorem stringRest_string (s : String) : stringRest (s.toList.flatMap escape ++ '"' :: rest) = .ok (s, rest) := by
  have hlength := length_le_length_flatMap_escape s.toList
  rw [stringRest, stringChars_flatMap_escape]
  · simp only [bind, Except.bind, pure, Except.pure, String.ofList_toList]
  · simp only [List.length_append, List.length_cons]
    omega

/-! ### Numbers -/

/-- Nothing follows that continues a number: the text ends, or a gap, a comma or a closing bracket is next. -/
def Delimited (cs : List Char) : Prop :=
  ∀ c ∈ cs.head?, isSpace c = true ∨ c = ',' ∨ c = ']' ∨ c = '\x7d'

theorem Delimited.eq_nil_or {cs : List Char} (h : Delimited cs) :
    cs = [] ∨ ∃ c tail, cs = c :: tail ∧ c.isDigit = false ∧ c ≠ '.' ∧ c ≠ 'e' ∧ c ≠ 'E' := by
  cases cs with
  | nil => exact Or.inl rfl
  | cons c tail =>
    refine Or.inr ⟨c, tail, rfl, ?_⟩
    have hc := h c rfl
    simp only [isSpace, Bool.or_eq_true, decide_eq_true_eq] at hc
    rcases hc with (((rfl | rfl) | rfl) | rfl) | rfl | rfl | rfl <;> decide

theorem Delimited.not_digit {cs : List Char} (h : Delimited cs) : cs.head?.any Char.isDigit = false := by
  rcases h.eq_nil_or with rfl | ⟨c, tail, rfl, hdigit, -⟩
  · rfl
  · exact hdigit

theorem le_ofDigitChars (digits : List Char) (n : Nat) : n ≤ Nat.ofDigitChars 10 digits n := by
  rw [Nat.ofDigitChars_eq_ofDigitChars_zero]
  have := Nat.le_mul_of_pos_left n (Nat.pow_pos (n := digits.length) (show 0 < 10 by decide))
  omega

/-- Digits are taken as the number that they make, if it fits. -/
theorem takeDigits_digits (hrest : Delimited rest) (digits : List Char) (hdigits : ∀ c ∈ digits, c.isDigit = true)
    (n count : Nat) (hlt : Nat.ofDigitChars 10 digits n < 0x10000000000000000) :
    takeDigits n count (digits ++ rest) = (Nat.ofDigitChars 10 digits n, count + digits.length, rest) := by
  induction digits generalizing n count with
  | nil =>
    rcases hrest.eq_nil_or with rfl | ⟨c, tail, rfl, hdigit, -⟩
    · rfl
    · simp only [List.nil_append, takeDigits, hdigit, Bool.false_and]
      rfl
  | cons c digits ih =>
    rw [List.forall_mem_cons] at hdigits
    rw [Nat.ofDigitChars_cons] at hlt ⊢
    have hfits := Nat.lt_of_le_of_lt (le_ofDigitChars digits _) hlt
    have hcond : (c.isDigit && decide (10 * n + (c.toNat - '0'.toNat) < 0x10000000000000000)) = true := by
      rw [hdigits.1, decide_eq_true hfits]
      rfl
    rw [List.length_cons, Nat.add_comm digits.length, ← Nat.add_assoc, ← ih hdigits.2 _ _ hlt]
    exact if_pos hcond

/-- A numeral is read as its number. -/
theorem number_toDigits (negative : Bool) (hrest : Delimited rest) {n : Nat} (hn : n < 0x10000000000000000) :
    number negative (Nat.toDigits 10 n ++ rest) = .ok (integer negative n, rest) := by
  have hdigits : ∀ c ∈ Nat.toDigits 10 n, c.isDigit = true := fun c hc =>
    isDigit_of_mem_decimal hc
  have hvalue := Nat.ofDigitChars_toDigits (b := 10) (n := n) (by decide) (by decide)
  have htaken := takeDigits_digits hrest _ hdigits 0 0 (by rwa [hvalue])
  rw [hvalue] at htaken
  obtain ⟨c, digits, hcons, hfirst⟩ := exists_cons_of_decimal n
  have hzero : ¬(c = '0' ∧ (digits ++ rest).head?.any Char.isDigit = true) := by
    rintro ⟨rfl, hany⟩
    rw [eq_nil_of_decimal hcons, List.nil_append, hrest.not_digit] at hany
    cases hany
  rw [hcons, List.cons_append] at htaken ⊢
  simp only [number, hfirst, Bool.not_true, Bool.false_eq_true, if_false, if_neg hzero, htaken]
  rcases hrest.eq_nil_or with rfl | ⟨c, tail, rfl, hdigit, hpoint, hsmall, hlarge⟩
  · rfl
  · have hnot : ¬c.isDigit = true := by simp [hdigit]
    rw [List.takeWhile_cons_of_neg hnot, List.dropWhile_cons_of_neg hnot]
    split
    · rename_i heq
      exact absurd (List.cons.inj heq).1 hpoint
    · have hexponent : (!(decide (c = 'e') || decide (c = 'E'))) = true := by simp [hsmall, hlarge]
      exact if_pos hexponent

theorem integer_natAbs (i : WideInt) : integer (decide (i.val < 0)) i.val.natAbs = .int i := by
  have hval : (if decide (i.val < 0) = true then -(i.val.natAbs : Int) else i.val.natAbs) = i.val := by
    split
    · rename_i h
      have := of_decide_eq_true h
      omega
    · rename_i h
      have := mt decide_eq_true h
      omega
  have hzero : ¬(decide (i.val < 0) = true ∧ i.val.natAbs = 0) := by
    rintro ⟨h, habs⟩
    have := of_decide_eq_true h
    omega
  rw [integer, hval, WideInt.ofInt?_val]
  exact if_neg hzero

theorem scalar_int (i : WideInt) :
    scalar (.int i) = (if i.val < 0 then ['-'] else []) ++ Nat.toDigits 10 i.val.natAbs := by
  obtain ⟨n, hle, hlt⟩ := i
  cases n with
  | ofNat n => simp [scalar, toString, Int.repr, Nat.repr]
  | negSucc n => simp [scalar, toString, Int.repr, Nat.repr, Int.negSucc_lt_zero]

/-! ### Tokens -/

theorem ne_of_isDigit {c : Char} (hc : c.isDigit = true) (d : Char) (hd : d.isDigit = false) : c ≠ d := by
  rintro rfl
  exact Bool.false_ne_true (hd.symm.trans hc)

theorem isSpace_of_isDigit {c : Char} (hc : c.isDigit = true) : isSpace c = false := by
  have hne := ne_of_isDigit hc
  simp [isSpace, hne ' ' rfl, hne '\n' rfl, hne '\t' rfl, hne '\r' rfl]

theorem value_digit {c : Char} (hc : c.isDigit = true) (cs : List Char) :
    value (fuel + 1) depth (c :: cs) = number false (c :: cs) := by
  have hne := ne_of_isDigit hc
  simp only [value, skipSpace_cons (isSpace_of_isDigit hc), if_neg (hne 'n' rfl), if_neg (hne 't' rfl),
    if_neg (hne 'f' rfl), if_neg (hne '-' rfl), hc, if_true]

/-- A scalar reads back from the way it is written. -/
theorem value_scalar {v : Value} (hv : v.IsToken) (hrest : Delimited rest) :
    value (fuel + 1) depth (scalar v ++ rest) = .ok (v, rest) := by
  cases v with
  | null => rfl
  | bool b => cases b <;> rfl
  | int i =>
    have hsize : i.val.natAbs < 0x10000000000000000 := by
      have := i.le_val
      have := i.val_lt
      omega
    have hnumber := number_toDigits (decide (i.val < 0)) hrest hsize
    rw [integer_natAbs] at hnumber
    rw [scalar_int]
    split
    · rename_i h
      rw [decide_eq_true h] at hnumber
      exact hnumber
    · rename_i h
      rw [decide_eq_false h] at hnumber
      obtain ⟨c, digits, hcons, hc⟩ := exists_cons_of_decimal i.val.natAbs
      rw [hcons] at hnumber ⊢
      exact (value_digit hc _).trans hnumber
  | string s =>
    have hread : value (fuel + 1) depth (scalar (.string s) ++ rest) =
        (stringRest (s.toList.flatMap escape ++ ['"'] ++ rest)).map fun read => (.string read.1, read.2) := rfl
    rw [hread, List.append_assoc, List.singleton_append, stringRest_string]
    rfl
  | float x => exact hv.elim
  | list items => exact hv.elim
  | object fields => exact hv.elim

/-! ### Elements and fields -/

variable {first : Bool} {gap comma colon cs more : List Char} {v : Value}

theorem items_end (hgap : IsGap gap) : items (fuel + 1) depth first (gap ++ ']' :: rest) = .ok ([], rest) := by
  have hskip : skipSpace (gap ++ ']' :: rest) = ']' :: rest := skipSpace_gap hgap _
  simp only [items, hskip]

theorem fields_end (hgap : IsGap gap) : fields (fuel + 1) depth first (gap ++ '\x7d' :: rest) = .ok ([], rest) := by
  have hskip : skipSpace (gap ++ '\x7d' :: rest) = '\x7d' :: rest := skipSpace_gap hgap _
  simp only [fields, hskip, if_true]

section Elements

variable {c : Char} {vs : List Value} (hgap : IsGap gap) (hspace : isSpace c = false) (hc : c ≠ ']')
  (hv : value fuel depth (c :: cs) = .ok (v, more)) (hvs : items fuel depth false more = .ok (vs, rest))

include hgap hspace hc hv hvs

theorem items_first : items (fuel + 1) depth true (gap ++ c :: cs) = .ok (v :: vs, rest) := by
  have hskip : skipSpace (gap ++ c :: cs) = c :: cs := (skipSpace_gap hgap _).trans (skipSpace_cons hspace cs)
  simp [items, hskip, hv, hvs, bind, Except.bind, pure, Except.pure]

theorem items_later (hcomma : IsGap comma) :
    items (fuel + 1) depth false (comma ++ ',' :: (gap ++ c :: cs)) = .ok (v :: vs, rest) := by
  have hskip : skipSpace (comma ++ ',' :: (gap ++ c :: cs)) = ',' :: (gap ++ c :: cs) := skipSpace_gap hcomma _
  have hnext : skipSpace (gap ++ c :: cs) = c :: cs := (skipSpace_gap hgap _).trans (skipSpace_cons hspace cs)
  simp only [items, hskip, Char.reduceEq, imp_self, Bool.false_eq_true, ↓reduceIte, hnext, bind, Except.bind, pure,
    Except.pure]
  split
  · rename_i heq
    cases heq
  · rename_i heq
    exact absurd (List.cons.inj heq).1 hc
  · simp only [hv, hvs]

end Elements

section Fields

variable {k : String} {fs : List (String × Value)} (hgap : IsGap gap) (hcolon : IsGap colon)
  (hv : value fuel depth cs = .ok (v, more)) (hfs : fields fuel depth false more = .ok (fs, rest))

/-- A key is followed by its closing quote. -/
theorem key_eq_cons (k : String) (cs : List Char) :
    gap ++ string k ++ colon ++ cs = gap ++ '"' :: (k.toList.flatMap escape ++ '"' :: (colon ++ cs)) := by
  simp [string]

include hgap hcolon hv hfs

theorem fields_first :
    fields (fuel + 1) depth true (gap ++ string k ++ colon ++ ':' :: cs) = .ok ((k, v) :: fs, rest) := by
  have hskip : skipSpace (gap ++ '"' :: (k.toList.flatMap escape ++ '"' :: (colon ++ ':' :: cs))) =
      '"' :: (k.toList.flatMap escape ++ '"' :: (colon ++ ':' :: cs)) := skipSpace_gap hgap _
  have hnext : skipSpace (colon ++ ':' :: cs) = ':' :: cs := skipSpace_gap hcolon _
  rw [key_eq_cons]
  simp [fields, hskip, stringRest_string, hnext, hv, hfs, bind, Except.bind, pure, Except.pure]

theorem fields_later (hcomma : IsGap comma) :
    fields (fuel + 1) depth false (comma ++ ',' :: (gap ++ string k ++ colon ++ ':' :: cs)) =
      .ok ((k, v) :: fs, rest) := by
  have hskip : ∀ more, skipSpace (comma ++ ',' :: more) = ',' :: more := fun _ => skipSpace_gap hcomma _
  have hkey : ∀ more, skipSpace (gap ++ '"' :: more) = '"' :: more := fun _ => skipSpace_gap hgap _
  have hnext : skipSpace (colon ++ ':' :: cs) = ':' :: cs := skipSpace_gap hcolon _
  rw [key_eq_cons]
  simp [fields, hskip, hkey, stringRest_string, hnext, hv, hfs, bind, Except.bind, pure, Except.pure]

end Fields

/-! ### Trees -/

theorem scalar_eq_cons {v : Value} (hv : v.IsToken) :
    ∃ c cs, scalar v = c :: cs ∧ isSpace c = false ∧ c ≠ ']' := by
  cases v with
  | null => exact ⟨'n', _, rfl, rfl, by decide⟩
  | bool b =>
    cases b with
    | false => exact ⟨'f', _, rfl, rfl, by decide⟩
    | true => exact ⟨'t', _, rfl, rfl, by decide⟩
  | int i =>
    rw [scalar_int]
    split
    · exact ⟨'-', _, rfl, rfl, by decide⟩
    · obtain ⟨c, digits, hcons, hc⟩ := exists_cons_of_decimal i.val.natAbs
      exact ⟨c, digits, hcons, isSpace_of_isDigit hc, ne_of_isDigit hc ']' rfl⟩
  | string s => exact ⟨'"', _, rfl, rfl, by decide⟩
  | float x => exact hv.elim
  | list items => exact hv.elim
  | object fields => exact hv.elim

/-- After space, a spelling begins with a character of a token that does not end a list. -/
theorem Spells.exists_token (h : Spells v cs) :
    ∃ gap c tail, cs = gap ++ c :: tail ∧ IsGap gap ∧ isSpace c = false ∧ c ≠ ']' ∧ Spells v (c :: tail) := by
  cases h with
  | @token _ gap hv hgap =>
    obtain ⟨c, tail, hcons, hspace, hc⟩ := scalar_eq_cons hv
    exact ⟨gap, c, tail, by rw [hcons], hgap, hspace, hc, hcons ▸ .scalar hv⟩
  | @list _ gap tail hgap hitems => exact ⟨gap, '[', tail, rfl, hgap, rfl, by decide, .list isGap_nil hitems⟩
  | @object _ gap tail hgap hfields =>
    exact ⟨gap, '\x7b', tail, rfl, hgap, rfl, by decide, .object isGap_nil hfields⟩

theorem Spells.length_pos (h : Spells v cs) : 0 < cs.length := by
  obtain ⟨gap, c, tail, rfl, -⟩ := h.exists_token
  simp

theorem SpellsItems.length_pos {vs : List Value} (h : SpellsItems first vs cs) : 0 < cs.length := by
  cases h with
  | nil => simp
  | first hv hvs =>
    have := hv.length_pos
    rw [List.length_append]
    omega
  | later => simp

theorem delimited_gap (hgap : IsGap gap) {c : Char} (hc : c = ',' ∨ c = ']' ∨ c = '\x7d') :
    Delimited (gap ++ c :: rest) := by
  cases gap with
  | nil =>
    rintro d ⟨⟩
    exact Or.inr hc
  | cons space gap =>
    rintro d ⟨⟩
    exact Or.inl (hgap space List.mem_cons_self)

theorem SpellsItems.delimited {vs : List Value} (h : SpellsItems false vs cs) (rest : List Char) :
    Delimited (cs ++ rest) := by
  cases h with
  | nil hgap =>
    rw [List.append_assoc]
    exact delimited_gap hgap (by decide)
  | later hgap hv hvs =>
    rw [List.append_assoc]
    exact delimited_gap hgap (by decide)

theorem SpellsFields.delimited {fs : List (String × Value)} (h : SpellsFields false fs cs) (rest : List Char) :
    Delimited (cs ++ rest) := by
  cases h with
  | nil hgap =>
    rw [List.append_assoc]
    exact delimited_gap hgap (by decide)
  | later hcomma =>
    rw [List.append_assoc]
    exact delimited_gap hcomma (by decide)

theorem delimited_nil : Delimited [] := nofun

-- The recursion is on the tree.  Fuel need not exceed the number of characters, since each call takes at least one.

mutual

/-- Every text of a tree is read as the tree, with the keys of its mappings in order. -/
theorem value_of_spells : (v : Value) → {cs : List Char} → Spells v cs → (fuel depth : Nat) → cs.length ≤ fuel →
    v.depth ≤ depth → {rest : List Char} → Delimited rest → value fuel depth (cs ++ rest) = .ok (v.sortKeys, rest)
  | .list vs, _, .list hgap hitems, fuel, depth, hfuel, hdepth, rest, _ => by
    rw [List.length_append, List.length_cons] at hfuel
    rw [Value.depth] at hdepth
    obtain ⟨fuel, rfl⟩ : ∃ n, fuel = n + 1 := ⟨fuel - 1, by omega⟩
    obtain ⟨depth, rfl⟩ : ∃ n, depth = n + 1 := ⟨depth - 1, by omega⟩
    have hread := items_of_spells vs hitems fuel depth (by omega) (by omega) rest
    rw [List.append_assoc, value_gap hgap, List.cons_append, Value.sortKeys]
    exact congrArg (Except.map _) hread
  | .object fs, _, .object hgap hfields, fuel, depth, hfuel, hdepth, rest, _ => by
    rw [List.length_append, List.length_cons] at hfuel
    rw [Value.depth] at hdepth
    obtain ⟨fuel, rfl⟩ : ∃ n, fuel = n + 1 := ⟨fuel - 1, by omega⟩
    obtain ⟨depth, rfl⟩ : ∃ n, depth = n + 1 := ⟨depth - 1, by omega⟩
    have hread := fields_of_spells fs hfields fuel depth (by omega) (by omega) rest
    rw [List.append_assoc, value_gap hgap, List.cons_append, Value.sortKeys]
    exact congrArg (Except.map _) hread
  | v, _, .token hv hgap, fuel, depth, hfuel, _, rest, hrest => by
    have hpos := (Spells.token hv hgap).length_pos
    obtain ⟨fuel, rfl⟩ : ∃ n, fuel = n + 1 := ⟨fuel - 1, by omega⟩
    rw [List.append_assoc, value_gap hgap, value_scalar hv hrest, hv.sortKeys_eq]

theorem items_of_spells : (vs : List Value) → {first : Bool} → {cs : List Char} → SpellsItems first vs cs →
    (fuel depth : Nat) → cs.length ≤ fuel → Value.depthItems vs ≤ depth → (rest : List Char) →
    items fuel depth first (cs ++ rest) = .ok (Value.sortKeysItems vs, rest)
  | [], _, _, .nil hgap, fuel, depth, hfuel, _, rest => by
    rw [List.length_append, List.length_singleton] at hfuel
    obtain ⟨fuel, rfl⟩ : ∃ n, fuel = n + 1 := ⟨fuel - 1, by omega⟩
    rw [List.append_assoc]
    exact items_end hgap
  | v :: vs, _, _, .first hv hvs, fuel, depth, hfuel, hdepth, rest => by
    rw [Value.depthItems, Nat.max_le] at hdepth
    have hpos := hvs.length_pos
    obtain ⟨gap, c, token, rfl, hgap, hspace, hc, htoken⟩ := hv.exists_token
    simp only [List.length_append, List.length_cons] at hfuel
    obtain ⟨fuel, rfl⟩ : ∃ n, fuel = n + 1 := ⟨fuel - 1, by omega⟩
    have hlength : (c :: token).length ≤ fuel := by rw [List.length_cons]; omega
    have hfirst := value_of_spells v htoken fuel depth hlength hdepth.1 (hvs.delimited rest)
    have hrest := items_of_spells vs hvs fuel depth (by omega) hdepth.2 rest
    rw [List.append_assoc, List.append_assoc]
    exact items_first hgap hspace hc hfirst hrest
  | v :: vs, _, _, .later hcomma hv hvs, fuel, depth, hfuel, hdepth, rest => by
    rw [Value.depthItems, Nat.max_le] at hdepth
    have hpos := hvs.length_pos
    obtain ⟨gap, c, token, rfl, hgap, hspace, hc, htoken⟩ := hv.exists_token
    simp only [List.length_append, List.length_cons] at hfuel
    obtain ⟨fuel, rfl⟩ : ∃ n, fuel = n + 1 := ⟨fuel - 1, by omega⟩
    have hlength : (c :: token).length ≤ fuel := by rw [List.length_cons]; omega
    have hfirst := value_of_spells v htoken fuel depth hlength hdepth.1 (hvs.delimited rest)
    have hrest := items_of_spells vs hvs fuel depth (by omega) hdepth.2 rest
    simp only [List.append_assoc, List.cons_append]
    exact items_later hgap hspace hc hfirst hrest hcomma

theorem fields_of_spells : (fs : List (String × Value)) → {first : Bool} → {cs : List Char} →
    SpellsFields first fs cs → (fuel depth : Nat) → cs.length ≤ fuel → Value.depthFields fs ≤ depth →
    (rest : List Char) → fields fuel depth first (cs ++ rest) = .ok (Value.sortKeysFields fs, rest)
  | [], _, _, .nil hgap, fuel, depth, hfuel, _, rest => by
    rw [List.length_append, List.length_singleton] at hfuel
    obtain ⟨fuel, rfl⟩ : ∃ n, fuel = n + 1 := ⟨fuel - 1, by omega⟩
    rw [List.append_assoc]
    exact fields_end hgap
  | (k, v) :: fs, _, _, .first hgap hcolon hv hfs, fuel, depth, hfuel, hdepth, rest => by
    rw [Value.depthFields, Nat.max_le] at hdepth
    simp only [List.length_append, List.length_cons] at hfuel
    obtain ⟨fuel, rfl⟩ : ∃ n, fuel = n + 1 := ⟨fuel - 1, by omega⟩
    have hfirst := value_of_spells v hv fuel depth (by omega) hdepth.1 (hfs.delimited rest)
    have hrest := fields_of_spells fs hfs fuel depth (by omega) hdepth.2 rest
    have hread := fields_first (k := k) hgap hcolon hfirst hrest
    simp only [List.append_assoc, List.cons_append] at hread ⊢
    exact hread
  | (k, v) :: fs, _, _, .later hcomma hgap hcolon hv hfs, fuel, depth, hfuel, hdepth, rest => by
    rw [Value.depthFields, Nat.max_le] at hdepth
    simp only [List.length_append, List.length_cons] at hfuel
    obtain ⟨fuel, rfl⟩ : ∃ n, fuel = n + 1 := ⟨fuel - 1, by omega⟩
    have hfirst := value_of_spells v hv fuel depth (by omega) hdepth.1 (hfs.delimited rest)
    have hrest := fields_of_spells fs hfs fuel depth (by omega) hdepth.2 rest
    have hread := fields_later (k := k) hgap hcolon hfirst hrest hcomma
    simp only [List.append_assoc, List.cons_append] at hread ⊢
    exact hread

end

/-! ### Whole texts -/

/-- A text of a tree, perhaps with space behind it, is read as the tree, if containers are nested no more than 127
deep. -/
theorem read_of_spells {text : String} (htext : text.toList = cs ++ gap) (h : Spells v cs) (hgap : IsGap gap)
    (hdepth : v.depth ≤ 127) : read text = .ok v.sortKeys := by
  have hdelimited : Delimited gap := fun c hc => Or.inl (hgap c (List.mem_of_mem_head? hc))
  have hfuel : cs.length ≤ 2 * text.toList.length + 2 := by
    rw [htext, List.length_append]
    omega
  have hvalue := value_of_spells v h (2 * text.toList.length + 2) 127 hfuel hdepth hdelimited
  have hspace : skipSpace gap = [] := by
    have hskip := skipSpace_gap hgap []
    rw [List.append_nil] at hskip
    exact hskip
  have hdocument : document text.toList = .ok v.sortKeys := by
    simp only [document, ← htext] at hvalue ⊢
    simp only [hvalue, hspace, bind, Except.bind, pure, Except.pure]
  rw [read, hdocument]
  rfl

theorem spells_compactText (h : v.FloatFree) : Spells v (compactText v).toList := by
  rw [compactText, String.toList_ofList]
  exact spells_compact v h

theorem spells_prettyText (h : v.FloatFree) : Spells v (prettyText v).toList := by
  rw [prettyText, String.toList_ofList]
  exact spells_pretty 0 v h

end FlowCheck.Json
