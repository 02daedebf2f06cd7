import FlowCheck.Proofs.PrintedFlows

/-!
# Commands agree, file by file

* `validate` judges each file as if it were given alone: the outcome for several files and what is printed are put
  together from the runs over single files (`JudgesFileByFile`).  A file that cannot be read gets a report like all
  others.
* `normalize` reads the tree of a text, judges it, and reads the flow of the tree.  The last step has an error of its
  own, but none that a tree comes to which was judged valid (`normalizeText_normalizesIfValid`), so that a file is
  normalized just when `validate` reports it as valid.  What it prints reads back as the flow.
-/

namespace FlowCheck.CommandLine.Execution

variable {w : Workspace} {settings : ValidatorConfig} {configFile : Option String} {format : InputFormat}
  {file text : String} {flow : Flow}

private theorem join_line (s : String) : String.join [s ++ "\n"] = s ++ "\n" := by
  simp

/-! ### Reports -/

theorem document_of_read (h : w.read file = .ok text) : document w file = .ok text := by
  rw [document, h]
  rfl

theorem judge_of_read (h : w.read file = .ok text) :
    (judge w settings format file).result = validateText settings format text := by
  simp only [judge, document_of_read h]

/-- A file that cannot be read has one finding, which says why. -/
theorem judge_of_fault {fault : FileFault} (h : w.read file = .error fault) :
    (judge w settings format file).result =
      ⟨[.parseError ("failed to read " ++ file ++ ": " ++ fault.message)], []⟩ := by
  simp only [judge, document, h]
  rfl

/-- Only the text of the file counts. -/
theorem judge_eq_of_read_eq {other : Workspace} (h : other.read file = w.read file) :
    judge other settings format file = judge w settings format file := by
  simp only [judge, document, h]

theorem floatFree_tree (report : FileReport) : report.tree.FloatFree := by
  have hfinding : ∀ finding : Finding, ((finding.path.map Value.string).getD .null).FloatFree := by
    intro finding
    cases finding.path <;> trivial
  refine ⟨trivial, trivial, Value.floatFreeItems_iff.2 ?_, Value.floatFreeItems_iff.2 ?_, trivial⟩
  all_goals
    intro v hv
    obtain ⟨finding, -, rfl⟩ := List.mem_map.1 hv
    exact ⟨hfinding finding, trivial, trivial, trivial, trivial⟩

theorem depth_tree_le (report : FileReport) : report.tree.depth ≤ 4 := by
  have hpath : ∀ finding : Finding, ((finding.path.map Value.string).getD .null).depth = 1 := by
    intro finding
    cases finding.path <;> rfl
  have hmax {a b : Nat} (ha : a ≤ 2) (hb : b ≤ 2) : 1 + max 1 (max 1 (max (1 + a) (max (1 + b) 0))) ≤ 4 := by
    omega
  rw [FileReport.tree]
  simp only [Value.depth, Value.depthFields]
  refine hmax (Value.depthItems_le_iff.2 ?_) (Value.depthItems_le_iff.2 ?_)
  all_goals
    intro v hv
    obtain ⟨finding, -, rfl⟩ := List.mem_map.1 hv
    change 1 + Value.depthFields [_, _, _, _] ≤ 2
    simp only [Value.depthFields, Value.depth, hpath]
    decide

/-- The list of reports is read back. -/
theorem read_reportText_json (reports : List FileReport) :
    Json.read (reportText .json reports) = .ok (.list (reports.map (·.tree.sortKeys))) := by
  have hfloat : (Value.list (reports.map FileReport.tree)).FloatFree :=
    Value.floatFreeItems_iff.2 (List.forall_mem_map.2 fun report _ => floatFree_tree report)
  have hdepth : (Value.list (reports.map FileReport.tree)).depth ≤ 127 := by
    have hitems : Value.depthItems (reports.map FileReport.tree) ≤ 4 :=
      Value.depthItems_le_iff.2 (List.forall_mem_map.2 fun report _ => depth_tree_le report)
    rw [Value.depth]
    omega
  have hline : (reportText .json reports).toList =
      (Json.prettyText (.list (reports.map FileReport.tree))).toList ++ ['\n'] := by
    change (String.join [_]).toList = _
    rw [join_line, String.toList_append]
    rfl
  have hread := Json.read_of_spells hline (Json.spells_prettyText hfloat) (Json.isGap_newline 0) hdepth
  rw [Value.sortKeys, Value.sortKeysItems_eq_map, List.map_map] at hread
  exact hread

/-- A blank line stands between two reports, each of which is as it would be alone. -/
theorem reportText_text (reports : List FileReport) :
    reportText .text reports = "\n".intercalate (reports.map fun report => reportText .text [report]) := by
  rfl

theorem reportText_text_singleton (report : FileReport) :
    reportText .text [report] = report.file ++ "\n" ++ (report.result.text ++ "\n") := by
  change String.join [_, _] = _
  simp

/-! ### Single files and batches -/

/-- Judging files one by one.  The report on a file is the one it gets alone, and depends on nothing but its text. -/
structure JudgesFileByFile (w : Workspace) (settings : ValidatorConfig) (configFile : Option String)
    (format : InputFormat) (files : List String) : Prop where
  /-- All is well just when all reports say so. -/
  outcome : ∀ output, (validate w files format output configFile).outcome =
    .ok (files.all fun file => (judge w settings format file).result.valid)
  outcome_alone : ∀ file ∈ files, ∀ output, (validate w [file] format output configFile).outcome =
    .ok (judge w settings format file).result.valid
  /-- The lines on all files are those on each of them, in order and with a blank line between two. -/
  text : (validate w files format .text configFile).stdout =
    "\n".intercalate (files.map fun file => (validate w [file] format .text configFile).stdout)
  text_alone : ∀ file ∈ files, (validate w [file] format .text configFile).stdout =
    file ++ "\n" ++ ((judge w settings format file).result.text ++ "\n")
  /-- The list for all files has the elements of the lists for each of them, in order. -/
  json : Json.read (validate w files format .json configFile).stdout =
    .ok (.list (files.map fun file => (judge w settings format file).tree.sortKeys))
  json_alone : ∀ file ∈ files, Json.read (validate w [file] format .json configFile).stdout =
    .ok (.list [(judge w settings format file).tree.sortKeys])
  /-- Nothing else in the workspace changes a report. -/
  judge_eq : ∀ file ∈ files, ∀ other : Workspace, other.read file = w.read file →
    judge other settings format file = judge w settings format file

theorem judgesFileByFile (h : Execution.config w configFile = .ok settings) (format : InputFormat)
    (files : List String) : JudgesFileByFile w settings configFile format files := by
  have houtcome : ∀ files output, (validate w files format output configFile).outcome =
      .ok (files.all fun file => (judge w settings format file).result.valid) := by
    intro files output
    simp only [validate, h, List.all_map]
    rfl
  have hstdout : ∀ files output, (validate w files format output configFile).stdout =
      reportText output (files.map (judge w settings format)) := by
    intro files output
    simp only [validate, h]
  refine ⟨houtcome files, fun file _ output => ?_, ?_, fun file _ => ?_, ?_, fun file _ => ?_,
    fun file _ other => judge_eq_of_read_eq⟩
  · rw [houtcome, List.all_cons, List.all_nil, Bool.and_true]
  · simp only [hstdout, List.map_cons, List.map_nil]
    rw [reportText_text, List.map_map]
    rfl
  · rw [hstdout, List.map_cons, List.map_nil, reportText_text_singleton]
    rfl
  · rw [hstdout, read_reportText_json, List.map_map]
    rfl
  · rw [hstdout, read_reportText_json]
    rfl

/-! ### Normalizing -/

/-- `normalize` prints the flow of a text just when the report on it is valid, and never ends with an error. -/
structure NormalizesIfValid (settings : ValidatorConfig) (format : InputFormat) (text : String)
    (result : ValidationResult) (run : FlowFormat → Execution) : Prop where
  printed : result.valid = true → ∃ flow, Reading.flow settings.limits format text = .ok flow ∧
    Quiet (Rule.run flow settings.rules) ∧
    ∀ output, (run output).outcome = .ok true ∧ flow.IsPrinted output (run output).stdout
  /-- What is printed in JSON reads back as the flow, if there is no double in it, within the same limits. -/
  reread : result.valid = true → settings.limits.maxNestingDepth.toNat ≤ 127 →
    ∀ flow, Reading.flow settings.limits format text = .ok flow → flow.FloatFree →
      (run .json).stdout.utf8ByteSize ≤ settings.limits.maxInputBytes.toNat →
      Reading.flow settings.limits .json (run .json).stdout = .ok flow ∧
        Reading.flow settings.limits .auto (run .json).stdout = .ok flow
  /-- In YAML it reads back with the blanks that the text of the flow has at its end. -/
  rereadYaml : result.valid = true → settings.limits.maxNestingDepth.toNat ≤ 128 →
    ∀ flow, Reading.flow settings.limits format text = .ok flow → flow.FloatFree →
      flow.yamlText.utf8ByteSize ≤ settings.limits.maxInputBytes.toNat →
      ∃ printed blanks, (run .yaml).stdout = printed ++ "\n" ∧ Text.blank blanks = true ∧
        Reading.flow settings.limits .yaml (printed ++ blanks) = .ok flow ∧
        Reading.flow settings.limits .auto (printed ++ blanks) = .ok flow
  /-- Without a flow the report goes to the other stream. -/
  refused : result.valid = false → ∀ output, (run output).outcome = .ok false ∧ (run output).stdout = "" ∧
    (run output).stderr = result.text ++ "\n"

/-- A flow is there for the second reading of a tree that was judged valid. -/
theorem normalizeText_of_valid (hvalid : (validateText settings format text).valid = true)
    (hflow : Reading.flow settings.limits format text = .ok flow) (output : FlowFormat) :
    (normalizeText settings format output text).outcome = .ok true ∧
      (normalizeText settings format output text).stdout = flowText output flow ++ "\n" := by
  cases htree : Reading.tree settings.limits format text with
  | error error => cases (Reading.flow_eq_error_of_tree htree).symm.trans hflow
  | ok tree =>
    have hresult : (Outcome.ofTree settings tree).result.valid = true := by
      rw [← ofText_eq_ofTree htree]
      exact hvalid
    have hsecond : Reading.flowOfTree settings.limits tree = .ok flow := by
      rw [← Reading.flow_eq_flowOfTree htree, hflow]
    simp only [normalizeText, htree, hresult, hsecond]
    exact ⟨rfl, join_line _⟩

theorem normalizeText_normalizesIfValid (settings : ValidatorConfig) (format : InputFormat) (text : String) :
    NormalizesIfValid settings format text (validateText settings format text)
      fun output => normalizeText settings format output text := by
  have hagrees := agrees_of_reported (validateText_eq_reported settings format text)
    (fun _ => Reading.grounded_of_flow) fun _ => Reading.steps_ne_nil_of_flow
  constructor
  · intro hvalid
    obtain ⟨flow, hflow, hquiet⟩ := hagrees.read_of_valid hvalid
    refine ⟨flow, hflow, hquiet, fun output => ?_⟩
    obtain ⟨houtcome, hstdout⟩ := normalizeText_of_valid hvalid hflow output
    exact ⟨houtcome, hstdout ▸ isPrinted_flowText output flow⟩
  · intro hvalid hdepth flow hflow hfree hsize
    have hprinted := (normalizeText_of_valid hvalid hflow .json).2 ▸ isPrinted_flowText .json flow
    exact hprinted.flow_eq_of_json hdepth hflow hfree hsize
  · intro hvalid hdepth flow hflow hfree hsize
    have hprinted := (normalizeText_of_valid hvalid hflow .yaml).2 ▸ isPrinted_flowText .yaml flow
    exact hprinted.flow_eq_of_yaml hdepth hflow hfree hsize
  · intro hvalid output
    cases htree : Reading.tree settings.limits format text with
    | error error =>
      have hresult : validateText settings format text = .ofFindings error.findings := by
        rw [validateText_eq_reported, Reading.flow_eq_error_of_tree htree, reported]
      simp only [normalizeText, htree, hresult]
      exact ⟨rfl, rfl, join_line _⟩
    | ok tree =>
      have hresult : validateText settings format text = (Outcome.ofTree settings tree).result := by
        rw [validateText, ofText_eq_ofTree htree]
      rw [hresult] at hvalid ⊢
      simp only [normalizeText, htree, hvalid]
      exact ⟨rfl, rfl, join_line _⟩

theorem normalize_of_read (hconfig : Execution.config w configFile = .ok settings) (hread : w.read file = .ok text)
    (format : InputFormat) (output : FlowFormat) :
    normalize w file format output configFile =
      { normalizeText settings format output text with
        events := configEvents w configFile ++ (normalizeText settings format output text).events } := by
  simp only [normalize, hconfig, document_of_read hread]
  rfl

/-! ### Agreement -/

/-- The commands agree: `validate` judges each file by itself, a file that cannot be read like all others, and
`normalize` prints the flow of a file just when `validate` reports the file as valid. -/
theorem commands_agree (h : Execution.config w configFile = .ok settings) (format : InputFormat)
    (files : List String) :
    JudgesFileByFile w settings configFile format files ∧
      ∀ file ∈ files,
        (∀ fault, w.read file = .error fault → (judge w settings format file).result =
          ⟨[.parseError ("failed to read " ++ file ++ ": " ++ fault.message)], []⟩) ∧
        ∀ text, w.read file = .ok text → NormalizesIfValid settings format text (judge w settings format file).result
          fun output => normalize w file format output configFile := by
  refine ⟨judgesFileByFile h format files, fun file _ => ⟨fun fault => judge_of_fault, fun text hread => ?_⟩⟩
  have htext := normalizeText_normalizesIfValid settings format text
  rw [judge_of_read hread]
  simp only [normalize_of_read h hread]
  exact ⟨htext.printed, htext.reread, htext.rereadYaml, htext.refused⟩

/-- A configuration without settings, a flow, a document that is none, and a file that is no text. -/
def fourEntries : List (String × FileEntry) :=
  [("c", .text ""), ("f", .text (Json.compactText (.object Structure.terse))), ("n", .text "null"), ("r", .bytes)]

def fourFiles : Workspace where
  root := []
  entries := fourEntries.map fun entry => ([entry.1], entry.2)
  environment := []

theorem lookUp_fourFiles : ∀ entry ∈ fourEntries, fourFiles.lookUp entry.1 = .ok ([entry.1], entry.2) := by
  have hsegments : ∀ entry ∈ fourEntries, FilePath.segments entry.1 = [entry.1] := by
    simp only [fourEntries, List.forall_mem_cons]
    decide +kernel
  intro entry hentry
  have hsegment := hsegments entry hentry
  simp only [fourEntries, List.mem_cons, List.not_mem_nil, or_false] at hentry
  rcases hentry with rfl | rfl | rfl | rfl
  all_goals
    rw [Workspace.lookUp, Workspace.namesDirectory, FilePath.components, hsegment]
    rfl

theorem read_fourFiles {name text : String} (h : (name, .text text) ∈ fourEntries) :
    fourFiles.read name = .ok text := by
  rw [Workspace.read, lookUp_fourFiles (name, .text text) h]
  rfl

theorem config_fourFiles : Execution.config fourFiles (some "c") = .ok {} := by
  have hmem : ("c", FileEntry.text "") ∈ fourEntries := .head _
  rw [Execution.config, ValidatorConfig.load, ValidatorConfig.ofFile?, Workspace.pathExists, read_fourFiles hmem,
    lookUp_fourFiles _ hmem]
  rfl

theorem tree_fourFiles :
    Reading.tree {} .json (Json.compactText (.object Structure.terse)) = .ok (.object Structure.terse) := by
  have hsize : ({} : InputLimits).checkText (Json.compactText (.object Structure.terse)) = .ok () := by
    rw [InputLimits.checkText, if_pos]
    · rfl
    · rw [Json.compactText, String.utf8ByteSize_ofList]
      decide +kernel
  have hsorted : (Value.object Structure.terse).Sorted := by
    simp only [Structure.terse, Value.Sorted, Value.SortedFields, Value.SortedItems]
    decide
  have hread : Json.read (Json.compactText (.object Structure.terse)) = .ok (.object Structure.terse) := by
    have hspells := Json.spells_compactText (v := .object Structure.terse) (by simp [Structure.terse])
    rw [Json.read_of_spells (List.append_nil _).symm hspells Json.isGap_nil (by decide +kernel),
      Value.sortKeys_of_sorted _ hsorted]
  simp only [Reading.tree, hsize, InputFormat.resolve, Reading.decode, hread]
  rfl

theorem utf8ByteSize_terseFlow {stdout : String} (h : terseFlow.IsPrinted .json stdout) :
    stdout.utf8ByteSize ≤ ({} : InputLimits).maxInputBytes.toNat := by
  cases h with
  | json htext =>
    rcases htext with rfl | rfl
    · rw [Json.compactText, String.utf8ByteSize_append, String.utf8ByteSize_ofList]
      decide +kernel
    · rw [Json.prettyText, String.utf8ByteSize_append, String.utf8ByteSize_ofList]
      decide +kernel

theorem utf8ByteSize_yamlText_terseFlow :
    terseFlow.yamlText.utf8ByteSize ≤ ({} : InputLimits).maxInputBytes.toNat := by
  rw [Flow.yamlText, Yaml.text, String.utf8ByteSize_ofList]
  decide +kernel

theorem commands_agree_on_fourFiles :
    Execution.config fourFiles (some "c") = .ok {} ∧
      JudgesFileByFile fourFiles {} (some "c") .json ["n", "f", "r"] ∧
      (validate fourFiles ["n", "f", "r"] .json .text (some "c")).outcome = .ok false ∧
      (judge fourFiles {} .json "r").result =
        ⟨[.parseError "failed to read r: stream did not contain valid UTF-8"], []⟩ ∧
      (∀ output, (normalize fourFiles "f" .json output (some "c")).outcome = .ok true ∧
        terseFlow.IsPrinted output (normalize fourFiles "f" .json output (some "c")).stdout) ∧
      (Reading.flow {} .json (normalize fourFiles "f" .json .json (some "c")).stdout = .ok terseFlow ∧
        Reading.flow {} .auto (normalize fourFiles "f" .json .json (some "c")).stdout = .ok terseFlow) ∧
      (∃ printed blanks, (normalize fourFiles "f" .json .yaml (some "c")).stdout = printed ++ "\n" ∧
        Text.blank blanks = true ∧ Reading.flow {} .yaml (printed ++ blanks) = .ok terseFlow ∧
        Reading.flow {} .auto (printed ++ blanks) = .ok terseFlow) ∧
      ∀ output, (normalize fourFiles "n" .json output (some "c")).outcome = .ok false ∧
        (normalize fourFiles "n" .json output (some "c")).stdout = "" := by
  obtain ⟨hbatch, hfiles⟩ := commands_agree config_fourFiles .json ["n", "f", "r"]
  have hflow : fourFiles.read "f" = .ok _ := read_fourFiles (.tail _ (.head _))
  have hnull : fourFiles.read "n" = .ok "null" := read_fourFiles (.tail _ (.tail _ (.head _)))
  have hraw : fourFiles.read "r" = .error .notText := by
    rw [Workspace.read, lookUp_fourFiles ("r", .bytes) (.tail _ (.tail _ (.tail _ (.head _))))]
    rfl
  have hinvalid : (judge fourFiles {} .json "n").result.valid = false := by
    rw [judge_of_read hnull]
    rfl
  have hterse : Reading.flow {} .json (Json.compactText (.object Structure.terse)) = .ok terseFlow := by
    rw [Reading.flow_eq_flowOfTree tree_fourFiles]
    rfl
  have hvalid : (judge fourFiles {} .json "f").result.valid = true := by
    rw [judge_of_read hflow, validateText_eq_reported, hterse]
    exact valid_ofFindings.2 quiet_run_terseFlow
  have hnormalized := (hfiles "f" (by simp)).2 _ hflow
  have hrefused := ((hfiles "n" (by simp)).2 _ hnull).refused hinvalid
  have hrun : ∀ output, (normalize fourFiles "f" .json output (some "c")).outcome = .ok true ∧
      terseFlow.IsPrinted output (normalize fourFiles "f" .json output (some "c")).stdout := by
    obtain ⟨flow, hread, -, hrun⟩ := hnormalized.printed hvalid
    cases hterse.symm.trans hread
    exact hrun
  have hfree : terseFlow.FloatFree := by
    refine ⟨rfl, ?_, ?_⟩ <;> simp [terseFlow, StepKind.FloatFree]
  refine ⟨config_fourFiles, hbatch, ?_, (hfiles "r" (by simp)).1 _ hraw, hrun, ?_,
    hnormalized.rereadYaml hvalid (by decide) terseFlow hterse hfree utf8ByteSize_yamlText_terseFlow,
    fun output => ⟨(hrefused output).1, (hrefused output).2.1⟩⟩
  · rw [hbatch.outcome]
    simp [hinvalid]
  · exact hnormalized.reread hvalid (by decide) terseFlow hterse hfree (utf8ByteSize_terseFlow (hrun .json).2)

end FlowCheck.CommandLine.Execution
