import FlowCheck.Proofs.Json.Reading
import FlowCheck.Proofs.Outcomes

/-!
# Flows as JSON texts

A flow that was read from a document is written as a JSON text that reads back as the same flow, whether the
encoding is named or found out (`flow_of_jsonText`).

* The text says the written tree (`Flow.IsJsonText.spells`), if the flow holds no double, and it starts with a
  brace (`Flow.IsJsonText.resolve_eq_json`).
* The written tree reads back within the same limits (`read_written`), and in declaration order it is no deeper than
  a document that the flow was read from (`depth_encodeEntries_le`).
-/

namespace FlowCheck

variable {limits : InputLimits} {tree : Value} {flow : Flow} {text : String}

/-! ### Texts of a flow -/

/-- A flow as a JSON text, in either layout: fields in declaration order, tags first. -/
def Flow.IsJsonText (flow : Flow) (text : String) : Prop :=
  text = Json.compactText (.object (Flow.record.encodeEntries flow)) ∨
    text = Json.prettyText (.object (Flow.record.encodeEntries flow))

namespace Flow.IsJsonText

theorem toList_eq_cons (h : flow.IsJsonText text) : ∃ cs, text.toList = '\x7b' :: cs := by
  rcases h with rfl | rfl
  · rw [Json.compactText, String.toList_ofList]
    exact ⟨_, rfl⟩
  · rw [Json.prettyText, String.toList_ofList]
    exact ⟨_, rfl⟩

/-- A text is taken for JSON, when its encoding is found out, if it begins with one of a flow. -/
theorem resolve_eq_json (h : flow.IsJsonText text) {line : String} {rest : List Char}
    (hline : line.toList = text.toList ++ rest) : InputFormat.auto.resolve line = .json := by
  obtain ⟨cs, hcs⟩ := h.toList_eq_cons
  rw [InputFormat.resolve, hline, hcs]
  rfl

theorem spells (h : flow.IsJsonText text) (hfree : flow.FloatFree) :
    Json.Spells (.object (Flow.record.encodeEntries flow)) text.toList := by
  have htree := Schema.floatFree_encode (.record Flow.record) (Flow.floatFree_record hfree)
  rcases h with rfl | rfl
  · exact Json.spells_compactText htree
  · exact Json.spells_prettyText htree

end Flow.IsJsonText

/-! ### Reading them back -/

/-- A text that says the written tree of a flow reads back as the flow. -/
theorem flow_of_decode_eq_written {format : InputFormat} (hsorted : tree.Sorted)
    (h : Reading.flowOfTree limits tree = .ok flow)
    (hdecode : Reading.decode (format.resolve text) text = .ok flow.written)
    (hsize : text.utf8ByteSize ≤ limits.maxInputBytes.toNat) : Reading.flow limits format text = .ok flow := by
  have hmeasured : limits.checkText text = .ok () := by
    rw [InputLimits.checkText, if_pos hsize]
    rfl
  have hsaid : Reading.tree limits format text = .ok flow.written := by
    simp only [Reading.tree, hmeasured, hdecode, Except.mapError, checkTree_written hsorted h, bind, Except.bind, pure,
      Except.pure]
  rw [Reading.flow_eq_flowOfTree hsaid, read_written hsorted h]

/-- The same for a JSON text of the flow, perhaps with space behind it. -/
theorem flow_of_jsonText_gap {line : String} {gap : List Char} (hdepth : limits.maxNestingDepth.toNat ≤ 127)
    (hsorted : tree.Sorted) (h : Reading.flowOfTree limits tree = .ok flow) (hfree : flow.FloatFree)
    (htext : flow.IsJsonText text) (hline : line.toList = text.toList ++ gap) (hgap : Json.IsGap gap)
    (hsize : line.utf8ByteSize ≤ limits.maxInputBytes.toNat) :
    Reading.flow limits .json line = .ok flow ∧ Reading.flow limits .auto line = .ok flow := by
  obtain ⟨hwithin, hcheck⟩ := flowOfTree_eq_ok.1 h
  have hlevels : (Value.object (Flow.record.encodeEntries flow)).depth ≤ 127 :=
    ((depth_encodeEntries_le hcheck).trans (InputLimits.checkTree_eq_ok.1 hwithin).1).trans hdepth
  have hread : Json.read line = .ok flow.written := Json.read_of_spells hline (htext.spells hfree) hgap hlevels
  have hresolved : ∀ format : InputFormat, format.resolve line = .json →
      Reading.flow limits format line = .ok flow := by
    intro format hformat
    refine flow_of_decode_eq_written hsorted h ?_ hsize
    rw [hformat]
    exact hread
  exact ⟨hresolved .json rfl, hresolved .auto (htext.resolve_eq_json hline)⟩

/-- A flow that was read from a document, whose mappings are in the order of their keys as readers build them, reads
back from its JSON texts, if it holds no double. -/
theorem flow_of_jsonText {limits : InputLimits} {tree : Value} {flow : Flow} {text : String}
    (hdepth : limits.maxNestingDepth.toNat ≤ 127) (hsorted : tree.Sorted)
    (h : Reading.flowOfTree limits tree = .ok flow) (hfree : flow.FloatFree) (htext : flow.IsJsonText text)
    (hsize : text.utf8ByteSize ≤ limits.maxInputBytes.toNat) :
    Reading.flow limits .json text = .ok flow ∧ Reading.flow limits .auto text = .ok flow :=
  flow_of_jsonText_gap hdepth hsorted h hfree htext (List.append_nil _).symm Json.isGap_nil hsize

/-- A document with quotes, control characters and integers of both signs. -/
def awkward : Value :=
  .object [
    ("metadata", .object [("description", .string "\x01\t\"é\\\""), ("name", .string "f"),
      ("version", .string "1.0.0")]),
    ("steps", .list [.object [("id", .string "a"), ("name", .string "A"),
      ("step", .object [
        ("config", .object [("", .list []), ("\n\"", .list [.int ⟨-10, by decide, by decide⟩, .null])]),
        ("connectorRef", .string "c"), ("operation", .string "o"),
        ("timeout", .int (.ofNat 18446744073709551615 (by decide))), ("type", .string "connector")])]])]

/-- What the awkward document is read as. -/
def awkwardFlow : Flow where
  metadata := ⟨"f", "1.0.0", some "\x01\t\"é\\\"", none, [], [], none, none⟩
  triggers := []
  steps := [⟨"a", "A", none,
    .connector ⟨"c", "o",
      some (.object [("", .list []), ("\n\"", .list [.int ⟨-10, by decide, by decide⟩, .null])]),
      some 18446744073709551615⟩, none, [], [], none⟩]
  observability := none

/-- The pretty text of the awkward flow. -/
def awkwardText : String :=
  Json.prettyText (.object (Flow.record.encodeEntries awkwardFlow))

theorem flow_of_jsonText_of_awkward :
    awkward.Sorted ∧ Reading.flowOfTree {} awkward = .ok awkwardFlow ∧ awkwardFlow.FloatFree ∧
      awkwardFlow.IsJsonText awkwardText ∧
      Reading.flow {} .json awkwardText = .ok awkwardFlow ∧ Reading.flow {} .auto awkwardText = .ok awkwardFlow := by
  have hsorted : awkward.Sorted := by
    simp only [awkward, Value.Sorted, Value.SortedFields, Value.SortedItems]
    decide
  have hfree : awkwardFlow.FloatFree := by
    refine ⟨rfl, ?_, ?_⟩ <;> simp [awkwardFlow, StepKind.FloatFree]
  have htext : awkwardFlow.IsJsonText awkwardText := .inr rfl
  have hsize : awkwardText.utf8ByteSize ≤ ({} : InputLimits).maxInputBytes.toNat := by
    rw [awkwardText, Json.prettyText, String.utf8ByteSize_ofList]
    decide +kernel
  exact ⟨hsorted, rfl, hfree, htext, flow_of_jsonText (by decide) hsorted rfl hfree htext hsize⟩

end FlowCheck
