import FlowCheck.Proofs.Findings
import FlowCheck.Proofs.Text.Lines

/-!
# Line feeds in reports

The report of a result has the lines that it is made of, unless a finding spans several (`isLined_iff`).  A
finding breaks from some sources if its text does: a line feed in it is one of a source that stands in it.
Names of codes have none, so that only its path and its message matter (`breaksFrom_of_parts`).
-/

namespace FlowCheck

open Text

variable {sources : List String}

/-! ### Findings -/

/-- If the line of the finding has a line feed, so has one of the sources that stands in it. -/
def Finding.BreaksFrom (sources : List String) (finding : Finding) : Prop :=
  Text.BreaksFrom sources finding.text

theorem Code.oneLine_name (code : Code) : OneLine code.name := by
  cases code <;> decide

section Finding

variable {message : String} {code : Code} {severity : Severity}

/-- The path of a finding may be cut from its message. -/
theorem breaksFrom_of_parts {path : Option String}
    (hpath : OneLine message → Text.BreaksFrom sources (path.getD "<document>"))
    (hmessage : Text.BreaksFrom sources message) :
    Finding.BreaksFrom sources ⟨path, message, code.name, severity⟩ := by
  have hmark : OneLine ": " := by decide
  have hend : OneLine (" (" ++ code.name ++ ")") := code.oneLine_name.between (by decide) (by decide)
  have htext : Finding.text ⟨path, message, code.name, severity⟩ =
      path.getD "<document>" ++ (": " ++ (message ++ (" (" ++ code.name ++ ")"))) := by
    simp [Finding.text, String.append_assoc, toString]
  rw [Finding.BreaksFrom, htext]
  refine Text.BreaksFrom.append_of_imp (fun hrest => hpath ?_)
    (hmark.breaksFrom.append (hmessage.append hend.breaksFrom))
  exact (oneLine_append.1 (oneLine_append.1 hrest).2).1

theorem breaksFrom_of_message {path : Option String} (hpath : OneLine (path.getD "<document>"))
    (hmessage : Text.BreaksFrom sources message) :
    Finding.BreaksFrom sources ⟨path, message, code.name, severity⟩ :=
  breaksFrom_of_parts (fun _ => hpath.breaksFrom) hmessage

end Finding

/-! ### Paths -/

@[simp] theorem Path.oneLine_field {path : Path} {name : String} :
    OneLine (path.field name).text ↔ OneLine path.text ∧ OneLine name := by
  rw [Path.text_field, oneLine_append, oneLine_append]
  simp +decide

@[simp] theorem Path.oneLine_index {path : Path} {i : Nat} : OneLine (path.index i).text ↔ OneLine path.text := by
  rw [Path.text_index]
  simp +decide

@[simp] theorem Path.oneLine_mk {root : String} : OneLine (Path.mk root []).text ↔ OneLine root := by
  simp [Path.text]

/-! ### Reports -/

namespace ValidationResult

variable {result : ValidationResult}

/-- The report can be read line by line: a header and, for each kind of finding that there is, a title and one
line for each finding, in order. -/
def IsLined (result : ValidationResult) : Prop :=
  Text.lines result.text = result.lines

instance (result : ValidationResult) : Decidable result.IsLined :=
  inferInstanceAs (Decidable (_ = _))

theorem oneLine_header (result : ValidationResult) : OneLine result.header := by
  unfold header
  split
  · decide
  · simp +decide

theorem oneLine_sectionLines {title : String} (htitle : OneLine title) {findings : List Finding} :
    (∀ line ∈ sectionLines title findings, OneLine line) ↔ ∀ finding ∈ findings, OneLine finding.text := by
  cases findings with
  | nil => simp [sectionLines]
  | cons finding findings => simp +decide [sectionLines, htitle]

/-- A report can be read line by line unless a finding spans several. -/
theorem isLined_iff : result.IsLined ↔ ∀ finding ∈ result.findings, OneLine finding.text := by
  have hne : result.lines ≠ [] := List.cons_ne_nil _ _
  rw [IsLined, text, lines_intercalate_iff hne, lines, List.forall_mem_cons, List.forall_mem_append,
    oneLine_sectionLines (by decide), oneLine_sectionLines (by decide), findings, List.forall_mem_append]
  exact and_iff_right result.oneLine_header

/-- A source that stands in a finding has no line feed. -/
def QuotesLines (result : ValidationResult) (sources : List String) : Prop :=
  ∀ finding ∈ result.findings, ∀ s ∈ sources, s.toList <:+: finding.text.toList → OneLine s

/-- If the findings break from some sources, a report can be read line by line unless a source with a line feed stands
in a finding. -/
theorem isLined_iff_quotesLines (h : ∀ finding ∈ result.findings, finding.BreaksFrom sources) :
    result.IsLined ↔ result.QuotesLines sources := by
  rw [isLined_iff]
  constructor
  · exact fun hlines finding hfinding s _ hstands hbreak => hlines finding hfinding (hstands.subset hbreak)
  · intro hsources finding hfinding
    by_contra hnot
    obtain ⟨s, hs, hbreak, hstands⟩ := h finding hfinding hnot
    exact hbreak (hsources finding hfinding s hs hstands)

end ValidationResult

end FlowCheck
