/-!
# Searching a text for a mark

`splitAt? mark cs` cuts a text at the first place where a mark stands; putting the mark back between the two
parts gives the text again (`append_of_splitAt?`).
-/

namespace FlowCheck.Text

/-- What stands before the first occurrence of the mark, and what stands after it. -/
def splitAt? (mark : List Char) : List Char → Option (List Char × List Char)
  | [] => if mark.isEmpty then some ([], []) else none
  | c :: cs =>
    if mark.isPrefixOf (c :: cs) then some ([], (c :: cs).drop mark.length)
    else (splitAt? mark cs).map fun parts => (c :: parts.1, parts.2)

/-- The text after the mark, if the text begins with it. -/
def afterStart? (mark cs : List Char) : Option (List Char) :=
  if mark.isPrefixOf cs then some (cs.drop mark.length) else none

private theorem append_drop_of_isPrefixOf {mark cs : List Char} (h : mark.isPrefixOf cs = true) :
    mark ++ cs.drop mark.length = cs := by
  obtain ⟨rest, rfl⟩ := List.isPrefixOf_iff_prefix.1 h
  simp

theorem append_of_splitAt? {mark cs before after : List Char} (h : splitAt? mark cs = some (before, after)) :
    before ++ mark ++ after = cs := by
  induction cs generalizing before after with
  | nil =>
    simp only [splitAt?] at h
    split at h
    · rename_i hm
      simp only [Option.some.injEq, Prod.mk.injEq] at h
      obtain ⟨rfl, rfl⟩ := h
      simpa using hm
    · cases h
  | cons c cs ih =>
    simp only [splitAt?] at h
    split at h
    · rename_i hm
      simp only [Option.some.injEq, Prod.mk.injEq] at h
      obtain ⟨rfl, rfl⟩ := h
      simpa using append_drop_of_isPrefixOf hm
    · obtain ⟨⟨b, a⟩, hs, he⟩ := Option.map_eq_some_iff.1 h
      simp only [Prod.mk.injEq] at he
      obtain ⟨rfl, rfl⟩ := he
      simpa using ih hs

end FlowCheck.Text
