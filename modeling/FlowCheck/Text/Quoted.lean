import FlowCheck.Text.Hex
import FlowCheck.Text.Visible

/-!
# Quoted texts in messages

A message shows a text of the document between double quotes, or one character of it between single quotes: the quote,
the backslash and the usual control characters behind a backslash, every other character that could not be seen as its
code point in braces.  So a quoted text never spans two lines (`newline_notMem_quoted`).
-/

namespace FlowCheck.Text

/-- One character between two `quote`s. -/
def escaped (quote c : Char) : List Char :=
  if c = quote then ['\\', quote]
  else if c = '\\' then ['\\', '\\']
  else if c = '\n' then ['\\', 'n']
  else if c = '\r' then ['\\', 'r']
  else if c = '\t' then ['\\', 't']
  else if c = '\x00' then ['\\', '0']
  else if c.toNat < 0x20 ∨ isInvisible c = true then ['\\', 'u', '\x7b'] ++ hex c.toNat ++ ['\x7d']
  else [c]

/-- The text between double quotes, with escapes. -/
def quoted (s : String) : String :=
  String.ofList ('"' :: s.toList.flatMap (escaped '"') ++ ['"'])

/-- The character between single quotes, with an escape if it needs one. -/
def quotedChar (c : Char) : String :=
  String.ofList ('\'' :: escaped '\'' c ++ ['\''])

private theorem newline_notMem_hex (n : Nat) : '\n' ∉ hex n := by
  induction n using Nat.strongRecOn with
  | ind n ih =>
    by_cases h : n < 16
    · rw [hex, Nat.toDigits_of_lt_base h, List.mem_singleton]
      have : ∀ m < 16, '\n' ≠ Nat.digitChar m := by decide
      exact this n h
    · rw [hex, Nat.toDigits_of_base_le (by decide) (by omega), List.mem_append, List.mem_singleton]
      have : ∀ m < 16, '\n' ≠ Nat.digitChar m := by decide
      rintro (h' | h')
      · exact ih (n / 16) (by omega) h'
      · exact this (n % 16) (by omega) h'

private theorem newline_notMem_escaped {quote : Char} (hq : quote ≠ '\n') (c : Char) :
    '\n' ∉ escaped quote c := by
  unfold escaped
  split
  · simp [hq.symm]
  split
  · decide
  split
  · decide
  split
  · decide
  split
  · decide
  split
  · decide
  split
  · simp only [List.mem_append, not_or]
    exact ⟨⟨by decide, newline_notMem_hex c.toNat⟩, by decide⟩
  · rename_i h _ _ _ _
    simpa using Ne.symm h

/-- A quoted text stays on its line. -/
theorem newline_notMem_quoted (s : String) : '\n' ∉ (quoted s).toList := by
  simp only [quoted, String.toList_ofList, List.mem_append, List.mem_cons, List.mem_flatMap,
    List.not_mem_nil, or_false]
  rintro ((h | ⟨c, -, h⟩) | h)
  · exact absurd h (by decide)
  · exact newline_notMem_escaped (by decide) c h
  · exact absurd h (by decide)

theorem newline_notMem_quotedChar (c : Char) : '\n' ∉ (quotedChar c).toList := by
  simp only [quotedChar, String.toList_ofList, List.mem_append, List.mem_cons, List.not_mem_nil, or_false]
  rintro ((h | h) | h)
  · exact absurd h (by decide)
  · exact newline_notMem_escaped (by decide) c h
  · exact absurd h (by decide)

end FlowCheck.Text
