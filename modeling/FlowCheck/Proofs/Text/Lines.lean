import FlowCheck.Proofs.Text.Digits
import FlowCheck.Text.Quoted
import Mathlib.Data.List.Infix

/-!
# Lines of texts

A text is cut into lines at its line feeds.  Joined by line feeds, lines can be told again exactly if there is no line
feed in any of them (`lines_intercalate_iff`).

A text that is put together from others *breaks from* some sources if it stays on one line unless a source that
does not stands in it (`BreaksFrom`).  Texts with no line feed and the sources themselves break from the
sources, and so does what is put together from texts that do.
-/

namespace FlowCheck.Text

/-! ### Cutting at a character -/

/-- The character at which a text is cut is in none of the parts. -/
theorem notMem_of_mem_splitOn {x : Char} {cs part : List Char} (h : part ∈ cs.splitOn x) : x ∉ part := by
  induction cs generalizing part with
  | nil =>
    rw [List.splitOn_nil, List.mem_singleton] at h
    rw [h]
    exact List.not_mem_nil
  | cons c cs ih =>
    rw [List.splitOn_cons_eq_if_modifyHead] at h
    split at h
    · rcases List.mem_cons.1 h with rfl | h
      · exact List.not_mem_nil
      · exact ih h
    · rename_i hc
      obtain ⟨first, rest, hparts⟩ := List.exists_cons_of_ne_nil (List.splitOn_ne_nil x cs)
      rw [hparts] at h ih
      rcases List.mem_cons.1 h with rfl | h
      · rintro (_ | ⟨_, hmem⟩)
        · exact hc (beq_self_eq_true x)
        · exact ih List.mem_cons_self hmem
      · exact ih (List.mem_cons_of_mem _ h)

theorem map_ofList_map_toList (parts : List String) : (parts.map String.toList).map String.ofList = parts := by
  rw [List.map_map]
  exact (List.map_congr_left fun s _ => String.ofList_toList).trans (List.map_id parts)

/-- The parts of a text between line feeds. -/
def lines (s : String) : List String :=
  (s.toList.splitOn '\n').map String.ofList

/-- There is no line feed in the text. -/
def OneLine (s : String) : Prop :=
  '\n' ∉ s.toList

theorem oneLine_of_bytes {s : String} (h : 10 ∉ s.toByteArray.data.toList) : OneLine s := by
  intro hmem
  refine h ?_
  rw [← String.utf8Encode_toList, List.utf8Encode, List.data_toByteArray, List.mem_flatMap]
  exact ⟨'\n', hmem, by decide⟩

/-- The bytes of a text are looked at first: most texts have no line feed, and need not be decoded to see it. -/
instance (s : String) : Decidable (OneLine s) :=
  if h : 10 ∈ s.toByteArray.data.toList then inferInstanceAs (Decidable ('\n' ∉ s.toList))
  else isTrue (oneLine_of_bytes h)

theorem oneLine_of_mem_lines {s line : String} (h : line ∈ lines s) : OneLine line := by
  obtain ⟨part, hpart, rfl⟩ := List.mem_map.1 h
  rw [OneLine, String.toList_ofList]
  exact notMem_of_mem_splitOn hpart

/-- Lines that are joined by line feeds are the lines of the result, unless there is a line feed in one of them. -/
theorem lines_intercalate_iff {parts : List String} (hne : parts ≠ []) :
    lines ("\n".intercalate parts) = parts ↔ ∀ part ∈ parts, OneLine part := by
  constructor
  · intro h part hpart
    rw [← h] at hpart
    exact oneLine_of_mem_lines hpart
  · intro h
    have hparts : ∀ part ∈ parts.map String.toList, '\n' ∉ part := List.forall_mem_map.2 h
    have hfeed : "\n".toList = ['\n'] := rfl
    rw [lines, String.toList_intercalate, hfeed, List.splitOn_intercalate '\n' hparts (by simpa using hne),
      map_ofList_map_toList]

/-! ### Texts without line feeds -/

@[simp] theorem oneLine_append {s t : String} : OneLine (s ++ t) ↔ OneLine s ∧ OneLine t := by
  simp [OneLine, not_or]

theorem OneLine.between {before s after : String} (h : OneLine s) (hbefore : OneLine before) (hafter : OneLine after) :
    OneLine (before ++ s ++ after) :=
  oneLine_append.2 ⟨oneLine_append.2 ⟨hbefore, h⟩, hafter⟩

@[simp] theorem oneLine_toString {s : String} : OneLine (toString s) ↔ OneLine s :=
  Iff.rfl

@[simp] theorem oneLine_repr (n : Nat) : OneLine n.repr := by
  exact notMem_repr rfl n

@[simp] theorem oneLine_quoted (s : String) : OneLine (quoted s) :=
  newline_notMem_quoted s

@[simp] theorem oneLine_quotedChar (c : Char) : OneLine (quotedChar c) :=
  newline_notMem_quotedChar c

/-! ### Where line feeds come from -/

variable {sources more : List String} {s t : String}

/-- If the text has a line feed, so has one of the sources that stands in it. -/
def BreaksFrom (sources : List String) (s : String) : Prop :=
  ¬OneLine s → ∃ source ∈ sources, ¬OneLine source ∧ source.toList <:+: s.toList

theorem OneLine.breaksFrom (h : OneLine s) : BreaksFrom sources s :=
  fun hnot => absurd h hnot

theorem breaksFrom_of_mem (h : s ∈ sources) : BreaksFrom sources s :=
  fun hnot => ⟨s, h, hnot, List.infix_refl _⟩

theorem BreaksFrom.mono (h : BreaksFrom sources s) (hsub : sources ⊆ more) : BreaksFrom more s := by
  intro hnot
  obtain ⟨source, hmem, hbreak⟩ := h hnot
  exact ⟨source, hsub hmem, hbreak⟩

/-- It is enough that the first part breaks from the sources if the second one has no line feed. -/
theorem BreaksFrom.append_of_imp (hs : OneLine t → BreaksFrom sources s) (ht : BreaksFrom sources t) :
    BreaksFrom sources (s ++ t) := by
  intro hnot
  rw [String.toList_append]
  by_cases hline : OneLine t
  · have hfirst : ¬OneLine s := fun h => hnot (oneLine_append.2 ⟨h, hline⟩)
    obtain ⟨source, hmem, hbreak, hstands⟩ := hs hline hfirst
    exact ⟨source, hmem, hbreak, hstands.trans (List.prefix_append _ _).isInfix⟩
  · obtain ⟨source, hmem, hbreak, hstands⟩ := ht hline
    exact ⟨source, hmem, hbreak, hstands.trans (List.suffix_append _ _).isInfix⟩

theorem BreaksFrom.append (hs : BreaksFrom sources s) (ht : BreaksFrom sources t) : BreaksFrom sources (s ++ t) :=
  .append_of_imp (fun _ => hs) ht

theorem BreaksFrom.between {before after : String} (h : BreaksFrom sources s) (hbefore : OneLine before)
    (hafter : OneLine after) : BreaksFrom sources (before ++ s ++ after) :=
  (hbefore.breaksFrom.append h).append hafter.breaksFrom

theorem breaksFrom_intercalate {separator : String} (hseparator : OneLine separator) {parts : List String}
    (h : ∀ part ∈ parts, BreaksFrom sources part) : BreaksFrom sources (separator.intercalate parts) := by
  induction parts with
  | nil =>
    rw [String.intercalate_nil]
    exact OneLine.breaksFrom (by decide)
  | cons part parts ih =>
    obtain ⟨hpart, hparts⟩ := List.forall_mem_cons.1 h
    cases parts with
    | nil => simpa using hpart
    | cons next rest =>
      rw [String.intercalate_cons_cons]
      exact (hpart.append hseparator.breaksFrom).append (ih hparts)

theorem breaksFrom_nil : BreaksFrom [] s ↔ OneLine s :=
  ⟨fun h => by_contra fun hnot => by simpa using h hnot, OneLine.breaksFrom⟩

theorem oneLine_intercalate {separator : String} (hseparator : OneLine separator) {parts : List String}
    (h : ∀ part ∈ parts, OneLine part) : OneLine (separator.intercalate parts) :=
  breaksFrom_nil.1 (breaksFrom_intercalate hseparator fun part hpart => (h part hpart).breaksFrom)

end FlowCheck.Text
