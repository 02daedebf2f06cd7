import FlowCheck.Proofs.Text.Digits
import FlowCheck.Proofs.Text.Quoting
import FlowCheck.Value.Basic

/-!
# Values shown in messages

A message shows a value of the wrong type, and the fields of a mapping are compared with what is shown.

* The two ways to lay out a double agree on each double that is written without an exponent, and no text without an
  exponent is one with an exponent (`DecimalStyle.text_pointed_of_eq`).
* What is shown of anything but a text is made of few characters (`Value.mem_shown`), and no text shown is the
  beginning of another one (`Value.shown_eq_of_isPrefix_string`).
* What is shown tells the value, up to the elements of lists and the fields of mappings (`Value.shown_eq_iff`);
  doubles apart, which the two layouts show in different ways.
-/

namespace FlowCheck

/-! ### Decimal texts -/

namespace DecimalStyle

variable {style : DecimalStyle} {digits : List Char} {point : Int} {c : Char} {x y : Double}

theorem mem_positionalText (h : c ∈ style.positionalText digits point) : c ∈ digits ∨ c = '0' ∨ c = '.' := by
  have hzeros : ∀ {n : Nat}, c ∈ List.replicate n '0' → c = '0' := List.eq_of_mem_replicate
  unfold positionalText at h
  split at h
  · simp only [List.cons_append, List.mem_cons, List.mem_append] at h
    rcases h with h | h | h | h
    · exact Or.inr (Or.inl h)
    · exact Or.inr (Or.inr h)
    · exact Or.inr (Or.inl (hzeros h))
    · exact Or.inl h
  split at h
  · simp only [List.mem_append] at h
    rcases h with (h | h) | h
    · exact Or.inl h
    · exact Or.inr (Or.inl (hzeros h))
    · split at h
      · exact Or.inr (by simpa [or_comm] using h)
      · exact absurd h List.not_mem_nil
  · simp only [List.mem_append, List.mem_cons] at h
    rcases h with h | h | h
    · exact Or.inl (List.mem_of_mem_take h)
    · exact Or.inr (Or.inr h)
    · exact Or.inl (List.mem_of_mem_drop h)

theorem mem_exponentText (h : c ∈ style.exponentText digits point) :
    c ∈ digits ∨ c.isDigit = true ∨ c ∈ ['.', 'e', '+', '-'] := by
  simp only [exponentText, List.mem_append, List.mem_cons] at h
  rcases h with ((h | h) | h | h) | h
  · exact Or.inl (List.mem_of_mem_take h)
  · split at h
    · exact absurd h List.not_mem_nil
    · rcases List.mem_cons.1 h with rfl | h
      · exact Or.inr (Or.inr (by decide))
      · exact Or.inl (List.mem_of_mem_drop h)
  · exact Or.inr (Or.inr (by simp [h]))
  · split at h
    · exact Or.inr (Or.inr (by simp [List.mem_singleton.1 h]))
    · exact absurd h List.not_mem_nil
  · rcases mem_toString_int h with h | h
    · exact Or.inr (Or.inl h)
    · exact Or.inr (Or.inr (by simp [h]))

/-- A double has digits, a place for the point, and perhaps a sign; the style only says where the point stands. -/
theorem exists_layout (x : Double) : ∃ (m : Nat) (point : Int) (sign : List Char), sign ⊆ ['-'] ∧
    ∀ style : DecimalStyle, (style.text x).toList = sign ++
      if style.positional point then style.positionalText (Nat.toDigits 10 m) point
      else style.exponentText (Nat.toDigits 10 m) point := by
  refine ⟨x.shortest.1, if x.isZero then 1 else (Nat.toDigits 10 x.shortest.1).length + x.shortest.2,
    if x.negative then ['-'] else [], by split <;> simp, fun style => ?_⟩
  rw [text, String.toList_ofList]
  cases x.negative <;> rfl

theorem mem_text (h : c ∈ (style.text x).toList) : c.isDigit = true ∨ c ∈ ['.', 'e', '+', '-'] := by
  obtain ⟨m, point, sign, hsign, htext⟩ := exists_layout x
  rw [htext, List.mem_append] at h
  rcases h with h | h
  · exact Or.inr (by simp [List.mem_singleton.1 (hsign h)])
  split at h
  · rcases mem_positionalText h with h | rfl | rfl
    · exact Or.inl (isDigit_of_mem_decimal h)
    · exact Or.inl rfl
    · exact Or.inr (by decide)
  · rcases mem_exponentText h with h | h
    · exact Or.inl (isDigit_of_mem_decimal h)
    · exact h

/-- No text without an exponent is one with an exponent. -/
theorem text_pointed_of_eq (h : pointed.text y = json.text x) : pointed.text x = json.text x := by
  obtain ⟨m, point, sign, -, htext⟩ := exists_layout x
  obtain ⟨m', point', sign', hsign', htext'⟩ := exists_layout y
  cases hpoint : json.positional point with
  | true => rw [← String.toList_inj, htext, htext, hpoint]; rfl
  | false =>
    have hexponent : 'e' ∈ (json.text x).toList := by
      rw [htext, hpoint]
      simp [exponentText]
    rw [← h, htext', List.mem_append] at hexponent
    rcases hexponent with he | he
    · exact absurd (hsign' he) (by decide)
    · have hpositional : 'e' ∈ pointed.positionalText (Nat.toDigits 10 m') point' := he
      rcases mem_positionalText hpositional with he | he | he
      · exact absurd (isDigit_of_mem_decimal he) (by decide)
      · exact absurd he (by decide)
      · exact absurd he (by decide)

end DecimalStyle

/-! ### Shown values -/

namespace Value

variable {v found : Value} {s : String} {style other : DecimalStyle}

@[simp] theorem shown_null : Value.null.shown style = "null" := rfl

@[simp] theorem shown_bool (b : Bool) : (Value.bool b).shown style = "boolean `" ++ toString b ++ "`" := rfl

@[simp] theorem shown_int (n : WideInt) : (Value.int n).shown style = "integer `" ++ toString n.val ++ "`" := rfl

@[simp] theorem shown_float (x : Double) : (Value.float x).shown style = "floating point `" ++ style.text x ++ "`" :=
  rfl

@[simp] theorem shown_string (s : String) : (Value.string s).shown style = "string " ++ Text.quoted s := rfl

@[simp] theorem shown_list (items : List Value) : (Value.list items).shown style = "sequence" := rfl

@[simp] theorem shown_object (fields : List (String × Value)) : (Value.object fields).shown style = "map" := rfl

/-- The characters beside digits in which values are shown, texts apart. -/
def shownLetters : List Char :=
  "abcefgilmnopqrstu \x60-+.".toList

/-- Only a text of the document is shown with other characters. -/
theorem mem_shown {c : Char} (h : c ∈ (v.shown style).toList) (hv : ∀ s, v ≠ .string s) :
    c.isDigit = true ∨ c ∈ shownLetters := by
  have hword : ∀ word ∈ ["null", "boolean `", "true", "false", "integer `", "floating point `", "`", "sequence", "map"],
      word.toList ⊆ shownLetters := by decide
  cases v with
  | null => exact Or.inr (hword "null" (by simp) h)
  | bool b =>
    rw [shown_bool, String.toList_append, String.toList_append, List.mem_append, List.mem_append] at h
    rcases h with (h | h) | h
    · exact Or.inr (hword "boolean `" (by simp) h)
    · cases b with
      | true => exact Or.inr (hword "true" (by simp) h)
      | false => exact Or.inr (hword "false" (by simp) h)
    · exact Or.inr (hword "`" (by simp) h)
  | int n =>
    rw [shown_int, String.toList_append, String.toList_append, List.mem_append, List.mem_append] at h
    rcases h with (h | h) | h
    · exact Or.inr (hword "integer `" (by simp) h)
    · rcases mem_toString_int h with hdigit | rfl
      · exact Or.inl hdigit
      · exact Or.inr (by decide)
    · exact Or.inr (hword "`" (by simp) h)
  | float x =>
    have hmark : ['.', 'e', '+', '-'] ⊆ shownLetters := by decide
    rw [shown_float, String.toList_append, String.toList_append, List.mem_append, List.mem_append] at h
    rcases h with (h | h) | h
    · exact Or.inr (hword "floating point `" (by simp) h)
    · exact (DecimalStyle.mem_text h).imp_right fun hmem => hmark hmem
    · exact Or.inr (hword "`" (by simp) h)
  | string s => exact absurd rfl (hv s)
  | list items => exact Or.inr (hword "sequence" (by simp) h)
  | object fields => exact Or.inr (hword "map" (by simp) h)

/-- What is shown of a text does not begin like anything else that is shown. -/
theorem shown_eq_of_isPrefix_string (h : (v.shown style).toList <+: ((Value.string s).shown other).toList) :
    v.shown style = (Value.string s).shown other := by
  rw [shown_string, String.toList_append] at h
  cases v with
  | string t =>
    rw [shown_string, String.toList_append, List.prefix_append_right_inj] at h
    rw [shown_string, shown_string, Text.eq_of_isPrefix_quoted h]
  | _ => simp at h

/-- What the other layout shows of a value is shown of it in this layout too. -/
theorem shown_pointed_of_eq (h : v.shown .pointed = found.shown .json) :
    found.shown .pointed = found.shown .json := by
  cases found with
  | float x =>
    have hlist := congrArg String.toList h
    cases v with
    | float y =>
      rw [shown_float, shown_float, String.append_left_inj, String.append_right_inj] at h
      rw [shown_float, shown_float, DecimalStyle.text_pointed_of_eq h]
    | _ => simp at hlist
  | _ => rfl

/-- The trees are equal, both lists, or both mappings. -/
def LooksLike : Value → Value → Prop
  | .list _, .list _ => True
  | .object _, .object _ => True
  | v, w => v = w

theorem looksLike_refl (v : Value) : v.LooksLike v := by
  cases v with
  | list items => trivial
  | object fields => trivial
  | _ => rfl

/-- What is shown tells the value, but not what is in a list or in a mapping. -/
theorem looksLike_of_shown_eq (hfound : ∀ x, found ≠ .float x) (h : v.shown .pointed = found.shown .json) :
    v.LooksLike found := by
  have hlist := congrArg String.toList h
  cases found with
  | null =>
    cases v with
    | null => rfl
    | _ => simp at hlist
  | bool b =>
    cases v with
    | bool c =>
      have hbool : ∀ a b : Bool, toString a = toString b → a = b := by decide
      rw [shown_bool, shown_bool, String.append_left_inj, String.append_right_inj] at h
      rw [hbool c b h]
      rfl
    | _ => simp at hlist
  | int n =>
    cases v with
    | int m =>
      rw [shown_int, shown_int, String.append_left_inj, String.append_right_inj] at h
      have hval : m.val = n.val := toString_int_inj h
      have hint := WideInt.ofInt?_val m
      rw [hval, WideInt.ofInt?_val, Option.some.injEq] at hint
      rw [hint]
      rfl
    | _ => simp at hlist
  | float x => exact absurd rfl (hfound x)
  | string s =>
    cases v with
    | string t =>
      rw [shown_string, shown_string, String.append_right_inj, Text.quoted_inj] at h
      rw [h]
      rfl
    | _ => simp at hlist
  | list items =>
    cases v with
    | list others => trivial
    | _ => simp at hlist
  | object fields =>
    cases v with
    | object others => trivial
    | _ => simp at hlist

theorem shown_eq_iff (hfound : ∀ x, found ≠ .float x) :
    v.shown .pointed = found.shown .json ↔ v.LooksLike found := by
  refine ⟨looksLike_of_shown_eq hfound, fun h => ?_⟩
  cases found with
  | float x => exact absurd rfl (hfound x)
  | list items =>
    cases v with
    | list others => rfl
    | _ => cases h
  | object fields =>
    cases v with
    | object others => rfl
    | _ => cases h
  | _ =>
    cases v <;> cases h
    rfl

end Value

end FlowCheck
