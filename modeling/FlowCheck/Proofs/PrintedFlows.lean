import FlowCheck.CommandLine.Execution
import FlowCheck.Proofs.FlowTexts
import FlowCheck.Proofs.ReadTrees
import FlowCheck.Proofs.Text.Words
import FlowCheck.Proofs.Yaml.Reading

/-!
# Printed flows

A command prints a flow as a text of it, without the blanks at its end, and a line feed (`isPrinted_flowText`).

The text that a flow was read from says a sorted tree (`Reading.exists_sorted_of_flow`), so the flow reads back from
what is printed for it.  The JSON text has no blanks to lose (`Flow.IsPrinted.flow_eq_of_json`); to the YAML text those
that it had are put back (`Flow.IsPrinted.flow_eq_of_yaml`), as the last text of a flow may end with them.
-/

namespace FlowCheck

open CommandLine (FlowFormat)

variable {limits : InputLimits} {format : InputFormat} {output : FlowFormat} {flow : Flow} {text stdout : String}

/-! ### Blanks at the end -/

namespace Text

/-- What is dropped at the end are blanks. -/
theorem exists_blanks_of_dropEndBlanks (cs : List Char) :
    ∃ blanks, cs = dropEndBlanks cs ++ blanks ∧ ∀ c ∈ blanks, isBlank c = true := by
  refine ⟨(cs.reverse.takeWhile isBlank).reverse, ?_, fun c hc => ?_⟩
  · rw [dropEndBlanks, ← List.reverse_append, List.takeWhile_append_dropWhile, List.reverse_reverse]
  · exact List.mem_takeWhile_imp (List.mem_reverse.1 hc)

theorem dropEndBlanks_concat {c : Char} (hc : isBlank c = false) (cs : List Char) :
    dropEndBlanks (cs ++ [c]) = cs ++ [c] := by
  rw [dropEndBlanks_eq]
  exact List.rdropWhile_concat_neg _ _ _ (by rw [hc]; decide)

end Text

/-! ### What is printed -/

/-- A flow as a YAML text: fields in declaration order, tags first. -/
def Flow.yamlText (flow : Flow) : String :=
  Yaml.text (.object (Flow.record.encodeEntries flow))

/-- The text is the YAML text of the flow, but for blanks at its end. -/
def Flow.IsYamlText (flow : Flow) (text : String) : Prop :=
  ∃ blanks, Text.blank blanks = true ∧ flow.yamlText = text ++ blanks

/-- The output is a text of the flow and a line feed. -/
inductive Flow.IsPrinted (flow : Flow) : FlowFormat → String → Prop
  | json {text : String} (h : flow.IsJsonText text) : IsPrinted flow .json (text ++ "\n")
  | yaml {text : String} (h : flow.IsYamlText text) : IsPrinted flow .yaml (text ++ "\n")

theorem Json.exists_pretty_eq_concat (fields : List (String × Value)) :
    ∃ cs, pretty 0 (.object fields) = cs ++ ['\x7d'] := by
  cases fields with
  | nil => exact ⟨['\x7b'], rfl⟩
  | cons field fields => exact ⟨_, rfl⟩

theorem isPrinted_flowText (output : FlowFormat) (flow : Flow) :
    flow.IsPrinted output (CommandLine.Execution.flowText output flow ++ "\n") := by
  cases output with
  | json =>
    refine .json (Or.inr ?_)
    -- there are no blanks after the brace
    obtain ⟨cs, hcs⟩ := Json.exists_pretty_eq_concat (Flow.record.encodeEntries flow)
    simp only [CommandLine.Execution.flowText, Json.prettyText, String.toList_ofList]
    rw [hcs, Text.dropEndBlanks_concat (by decide)]
  | yaml =>
    refine .yaml ?_
    obtain ⟨blanks, htext, hblanks⟩ := Text.exists_blanks_of_dropEndBlanks flow.yamlText.toList
    have hprinted : CommandLine.Execution.flowText .yaml flow =
        String.ofList (Text.dropEndBlanks flow.yamlText.toList) := rfl
    refine ⟨String.ofList blanks, Text.blank_iff.2 (by simpa using hblanks), ?_⟩
    rw [hprinted, ← String.ofList_append, ← htext, String.ofList_toList]

/-! ### Reading it back -/

/-- The flow of a text reads back from the JSON text that is printed for it, if it holds no double. -/
theorem Flow.IsPrinted.flow_eq_of_json (h : flow.IsPrinted .json stdout) (hdepth : limits.maxNestingDepth.toNat ≤ 127)
    (hread : Reading.flow limits format text = .ok flow) (hfree : flow.FloatFree)
    (hsize : stdout.utf8ByteSize ≤ limits.maxInputBytes.toNat) :
    Reading.flow limits .json stdout = .ok flow ∧ Reading.flow limits .auto stdout = .ok flow := by
  obtain ⟨tree, hsorted, hflow⟩ := Reading.exists_sorted_of_flow hread
  cases h with
  | json htext =>
    exact flow_of_jsonText_gap hdepth hsorted hflow hfree htext String.toList_append (Json.isGap_newline 0) hsize

/-- A text that begins with its first field is taken for YAML. -/
theorem resolve_yamlText (flow : Flow) : InputFormat.auto.resolve flow.yamlText = .yaml := by
  obtain ⟨v, fields, hfields⟩ : ∃ v fields, Flow.record.encodeEntries flow = ("metadata", v) :: fields := ⟨_, _, rfl⟩
  have hkey : Yaml.Printer.writeText 2 "metadata" = "metadata".toList := by
    decide +kernel
  have hsimple : Yaml.Printer.isSimpleKey "metadata" = true := by
    decide
  obtain ⟨cs, hcs⟩ := Yaml.exists_text_object hsimple v fields
  rw [hkey, ← hfields] at hcs
  rw [InputFormat.resolve, Flow.yamlText, hcs]
  rfl

/-- An accepted flow reads back from its YAML text. -/
theorem flow_of_yamlText {tree : Value} (hdepth : limits.maxNestingDepth.toNat ≤ 128) (hsorted : tree.Sorted)
    (h : Reading.flowOfTree limits tree = .ok flow) (hfree : flow.FloatFree)
    (hsize : flow.yamlText.utf8ByteSize ≤ limits.maxInputBytes.toNat) :
    Reading.flow limits .yaml flow.yamlText = .ok flow ∧ Reading.flow limits .auto flow.yamlText = .ok flow := by
  obtain ⟨hwithin, hcheck⟩ := flowOfTree_eq_ok.1 h
  have hlevels : (Value.object (Flow.record.encodeEntries flow)).depth ≤ 128 :=
    ((depth_encodeEntries_le hcheck).trans (InputLimits.checkTree_eq_ok.1 hwithin).1).trans hdepth
  have hread : Yaml.read flow.yamlText = .ok flow.written :=
    Yaml.read_text (Schema.floatFree_encode (.record Flow.record) (Flow.floatFree_record hfree)) hlevels
  have hresolved : ∀ format : InputFormat, format.resolve flow.yamlText = .yaml →
      Reading.flow limits format flow.yamlText = .ok flow := by
    intro format hformat
    refine flow_of_decode_eq_written hsorted h ?_ hsize
    rw [hformat]
    exact hread
  exact ⟨hresolved .yaml rfl, hresolved .auto (resolve_yamlText flow)⟩

/-- With the blanks that its YAML text has at the end, the flow of a text reads back from what is printed for it, if it
holds no double. -/
theorem Flow.IsPrinted.flow_eq_of_yaml (h : flow.IsPrinted .yaml stdout) (hdepth : limits.maxNestingDepth.toNat ≤ 128)
    (hread : Reading.flow limits format text = .ok flow) (hfree : flow.FloatFree)
    (hsize : flow.yamlText.utf8ByteSize ≤ limits.maxInputBytes.toNat) :
    ∃ text blanks, stdout = text ++ "\n" ∧ Text.blank blanks = true ∧
      Reading.flow limits .yaml (text ++ blanks) = .ok flow ∧
      Reading.flow limits .auto (text ++ blanks) = .ok flow := by
  obtain ⟨tree, hsorted, hflow⟩ := Reading.exists_sorted_of_flow hread
  cases h with
  | yaml htext =>
    obtain ⟨blanks, hblanks, htext⟩ := htext
    have hback := flow_of_yamlText hdepth hsorted hflow hfree hsize
    rw [htext] at hback
    exact ⟨_, blanks, rfl, hblanks, hback⟩

end FlowCheck
