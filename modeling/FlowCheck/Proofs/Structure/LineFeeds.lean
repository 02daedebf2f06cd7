import FlowCheck.Proofs.LineFeeds
import FlowCheck.Proofs.Structure.Blame
import FlowCheck.Proofs.Text.Shown

/-!
# Line feeds in findings on the structure

A message about a mismatch quotes values with escapes; as it is it shows only a name that is unknown
(`Mismatch.breaksFrom_message`).  The field that a finding blames is a key, or cut from the message
(`breaksFrom_blamedField`).  So each finding on the structure of a tree breaks from the texts of the tree
(`breaksFrom_of_check`).
-/

namespace FlowCheck

open Text

variable {sources lexicon : List String} {m : Mismatch}

/-! ### Messages -/

theorem IsPhrase.oneLine {s : String} (h : IsPhrase lexicon s) (hlexicon : ∀ word ∈ lexicon, OneLine word) :
    OneLine s := by
  intro hmem
  rcases h _ hmem with halpha | hblank | ⟨word, hword, hchar⟩
  · cases halpha
  · cases hblank
  · exact hlexicon word hword hchar

theorem Value.oneLine_shown (v : Value) (style : DecimalStyle) : OneLine (v.shown style) := by
  cases v with
  | null => exact show OneLine "null" by decide
  | list items => exact show OneLine "sequence" by decide
  | object fields => exact show OneLine "map" by decide
  | bool b =>
    rw [shown_bool]
    cases b <;> decide
  | int n =>
    have hnumber : OneLine (toString n.val) := fun h => absurd (mem_toString_int h) (by decide)
    rw [shown_int, oneLine_append, oneLine_append]
    exact ⟨⟨by decide, hnumber⟩, by decide⟩
  | float x =>
    have hnumber : OneLine (style.text x) := fun h => absurd (DecimalStyle.mem_text h) (by decide)
    rw [shown_float, oneLine_append, oneLine_append]
    exact ⟨⟨by decide, hnumber⟩, by decide⟩
  | string s =>
    rw [shown_string, oneLine_append]
    exact ⟨by decide, oneLine_quoted s⟩

theorem Value.oneLine_describe (v : Value) : OneLine v.describe := by
  cases v <;> simp +decide [describe]

theorem Mismatch.oneLine_alternatives {names : List String} (h : ∀ name ∈ names, OneLine name) :
    OneLine (alternatives names) := by
  unfold alternatives
  split
  · decide
  · simp_all +decide
  · simp_all +decide
  · have hnames : ∀ part ∈ names.map (fun name => s!"`{name}`"), OneLine part :=
      List.forall_mem_map.2 fun name hname => by simp +decide [h name hname]
    exact oneLine_append.2 ⟨by decide, oneLine_intercalate (by decide) hnames⟩

/-- The only part of a document that a message shows as it is is a name that is unknown. -/
theorem Mismatch.breaksFrom_message (h : m.Worded lexicon sources) (hlexicon : ∀ word ∈ lexicon, OneLine word) :
    BreaksFrom sources m.message := by
  cases m with
  | missingField name =>
    have hname : OneLine name := hlexicon name h
    exact (hname.between (by decide) (by decide)).breaksFrom
  | unknownVariant found names =>
    obtain ⟨hfound, hsub⟩ := h
    have hnames : OneLine (alternatives names) := oneLine_alternatives fun name hname => hlexicon name (hsub hname)
    exact ((breaksFrom_of_mem hfound).between (by decide) (by decide)).append hnames.breaksFrom
  | wrongType found expected | wrongValue found expected =>
    have hexpected : OneLine expected := IsPhrase.oneLine h hlexicon
    have hshown : OneLine (found.shown .json) := found.oneLine_shown .json
    exact (oneLine_append.2 ⟨hshown.between (by decide) (by decide), hexpected⟩).breaksFrom
  | wrongLength length expected =>
    have hexpected : OneLine expected := IsPhrase.oneLine h hlexicon
    have hlength : OneLine (toString length) := by simp
    exact (oneLine_append.2 ⟨hlength.between (by decide) (by decide), hexpected⟩).breaksFrom
  | badDate fault => cases fault <;> exact OneLine.breaksFrom (by decide)

namespace Structure

/-! ### The field that is blamed -/

theorem oneLine_backticked {mark : String} {message : String} {name : String}
    (h : backticked mark message.toList = some name) (hmessage : OneLine message) : OneLine name := by
  obtain ⟨⟨before, after⟩, hparts, rfl⟩ := Option.map_eq_some_iff.1 h
  obtain ⟨⟨opening, rest⟩, hopening, hclosing⟩ := Option.bind_eq_some_iff.1 hparts
  have hname := append_of_splitAt? hclosing
  have hrest := append_of_splitAt? hopening
  intro hmem
  rw [String.toList_ofList] at hmem
  refine hmessage ?_
  dsimp only at hname hmem
  rw [← hrest, ← hname]
  simp [hmem]

/-- If a message has no line feed, one in the field that it is about is one of a key. -/
theorem breaksFrom_blamedField {v : Value} {message field : String} (h : blamedField v message = some field)
    (hmessage : OneLine message) (hv : v.texts ⊆ sources) : BreaksFrom sources field := by
  cases v with
  | object fields =>
    have hkey : ∀ entry ∈ fields, BreaksFrom sources entry.1 := fun entry hentry =>
      breaksFrom_of_mem (hv (Value.texts_subset_of_field hentry List.mem_cons_self))
    rcases Option.or_eq_some_iff.1 h with hmissing | ⟨-, hother⟩
    · obtain ⟨name, hname, hfound⟩ := Option.bind_eq_some_iff.1 hmissing
      split at hfound
      · cases hfound
      · cases hfound
        exact (oneLine_backticked hname hmessage).breaksFrom
    rcases Option.or_eq_some_iff.1 hother with hunknown | ⟨-, hmistyped⟩
    · obtain ⟨name, -, hfound⟩ := Option.bind_eq_some_iff.1 hunknown
      dsimp only at hfound
      split at hfound
      · cases hfound
        exact OneLine.breaksFrom (by decide)
      · obtain ⟨entry, hentry, rfl⟩ := Option.map_eq_some_iff.1 hfound
        exact hkey entry (List.mem_of_find?_eq_some hentry)
    · obtain ⟨shown, -, hfound⟩ := Option.bind_eq_some_iff.1 hmistyped
      split at hfound
      · rename_i entry hfilter
        cases hfound
        exact hkey entry (List.mem_of_mem_filter (hfilter ▸ List.mem_singleton_self entry))
      · cases hfound
  | _ => cases h

/-! ### Findings -/

variable {α : Type} {path : Path} {v : Value}

theorem Coerced.words_subset {schema : Schema α} (h : Coerced schema) : schema.words ⊆ Flow.record.words := by
  intro word hword
  cases h with
  | flow => exact hword
  | trigger => simp [Flow.record, hword]
  | stepKind | transport | policy => simp [Flow.record, Step.record, hword]
  | metadata | step | observability =>
    rw [Schema.words] at hword
    simp [Flow.record, hword]
  | owner | compliance | rbac =>
    rw [Schema.words] at hword
    simp [Flow.record, Metadata.record, hword]
  | httpAuth | rateLimit =>
    rw [Schema.words] at hword
    simp [Flow.record, Trigger.schema, Trigger.variants, HttpTrigger.record, hword]
  | branchCondition =>
    rw [Schema.words] at hword
    simp [Flow.record, Step.record, StepKind.schema, StepKind.variants, BranchStep.record, hword]
  | payloadSampling =>
    rw [Schema.words] at hword
    simp [Flow.record, Observability.record, hword]

theorem oneLine_flowWords : ∀ word ∈ Flow.record.words, OneLine word := by
  decide +kernel

/-- The names in the types that documents are read as have no line feeds. -/
theorem Coerced.oneLine_words {schema : Schema α} (h : Coerced schema) : ∀ word ∈ schema.words, OneLine word :=
  fun word hword => oneLine_flowWords word (h.words_subset hword)

theorem breaksFrom_schema {message : String} (hpath : OneLine path.text) (hmessage : OneLine message) :
    ∀ finding ∈ [Finding.schema path.text message], finding.BreaksFrom sources :=
  List.forall_mem_singleton.2 (breaksFrom_of_message hpath hmessage.breaksFrom)

/-- The path of a finding may be extended by a field that the message is about. -/
theorem breaksFrom_mismatchFinding {schema : Schema α} (hschema : Coerced schema) {path : Option Path}
    (hpath : ∀ p ∈ path, OneLine p.text) (hv : v.texts ⊆ sources) (h : schema.decode .direct v = .error m) :
    (mismatchFinding path v m).BreaksFrom sources := by
  have hworded : m.Worded schema.words sources := Schema.worded_of_decode schema (List.Subset.refl _) hv h
  have hmessage := Mismatch.breaksFrom_message hworded hschema.oneLine_words
  have hdocument : OneLine "<document>" := by decide
  simp only [mismatchFinding]
  -- A field that is missing is cut from the message, so what its name can break from is known only if that has
  -- one line.
  cases hblamed : blamedField v m.message with
  | none =>
    cases path with
    | none => exact breaksFrom_of_message hdocument hmessage
    | some path => exact breaksFrom_of_message (hpath path rfl) hmessage
  | some field =>
    have hfield := fun hline => breaksFrom_blamedField hblamed hline hv
    cases path with
    | none =>
      dsimp only
      split
      · exact breaksFrom_of_message hdocument hmessage
      · exact breaksFrom_of_parts hfield hmessage
    | some path =>
      have hpoint : OneLine (path.text ++ ".") := oneLine_append.2 ⟨hpath path rfl, by decide⟩
      refine breaksFrom_of_parts (fun hline => ?_) hmessage
      rw [Option.getD_some, Path.text_field]
      exact hpoint.breaksFrom.append (hfield hline)

theorem breaksFrom_conformance {schema : Schema α} (hschema : Coerced schema) (hpath : OneLine path.text)
    (hv : v.texts ⊆ sources) : ∀ finding ∈ conformance schema path v, finding.BreaksFrom sources := by
  unfold conformance
  split
  · exact List.forall_mem_nil _
  · rename_i mismatch hmismatch
    exact List.forall_mem_singleton.2
      (breaksFrom_mismatchFinding hschema (fun p hp => by cases hp; exact hpath) hv hmismatch)

theorem breaksFrom_partsFirst {parts whole : List Finding} (hparts : ∀ finding ∈ parts, finding.BreaksFrom sources)
    (hwhole : ∀ finding ∈ whole, finding.BreaksFrom sources) :
    ∀ finding ∈ partsFirst parts whole, finding.BreaksFrom sources := by
  unfold partsFirst
  split
  · exact hwhole
  · exact hparts

theorem breaksFrom_elements {check : Path → Value → List Finding} (hpath : OneLine path.text) (hv : v.texts ⊆ sources)
    (h : ∀ path v, OneLine path.text → v.texts ⊆ sources → ∀ finding ∈ check path v, finding.BreaksFrom sources) :
    ∀ finding ∈ elements path v check, finding.BreaksFrom sources := by
  unfold elements
  split
  · rename_i items
    refine forall_mem_flatten_mapIdx.2 fun i hi => h _ _ (Path.oneLine_index.2 hpath) ?_
    exact List.Subset.trans (Value.texts_subset_of_mem (List.getElem_mem hi)) hv
  · exact breaksFrom_schema hpath (oneLine_append.2 ⟨by decide, v.oneLine_describe⟩)

theorem breaksFrom_mapping {check : List (String × Value) → List Finding} (hpath : OneLine path.text)
    (hv : v.texts ⊆ sources)
    (h : ∀ fields, (Value.object fields).texts ⊆ sources → ∀ finding ∈ check fields, finding.BreaksFrom sources) :
    ∀ finding ∈ mapping path v check, finding.BreaksFrom sources := by
  unfold mapping
  split
  · exact h _ hv
  · exact breaksFrom_schema hpath (oneLine_append.2 ⟨by decide, v.oneLine_describe⟩)

section Fields

variable {fields : List (String × Value)} {name : String} {check : Value → List Finding}

theorem breaksFrom_present (hfields : (Value.object fields).texts ⊆ sources)
    (h : ∀ v, v.texts ⊆ sources → ∀ finding ∈ check v, finding.BreaksFrom sources) :
    ∀ finding ∈ present fields name check, finding.BreaksFrom sources := by
  unfold present
  split
  · rename_i v hlookup
    exact h v (List.Subset.trans (Value.texts_subset_of_lookup hlookup) hfields)
  · exact List.forall_mem_nil _

theorem breaksFrom_given (hfields : (Value.object fields).texts ⊆ sources)
    (h : ∀ v, v.texts ⊆ sources → ∀ finding ∈ check v, finding.BreaksFrom sources) :
    ∀ finding ∈ given fields name check, finding.BreaksFrom sources := by
  refine breaksFrom_present hfields fun v hv => ?_
  split
  · exact List.forall_mem_nil _
  · exact h v hv

theorem breaksFrom_demanded (hname : OneLine name) (hfields : (Value.object fields).texts ⊆ sources)
    (h : ∀ v, v.texts ⊆ sources → ∀ finding ∈ check v, finding.BreaksFrom sources) :
    ∀ finding ∈ demanded fields name check, finding.BreaksFrom sources := by
  unfold demanded
  split
  · rename_i v hlookup
    exact h v (List.Subset.trans (Value.texts_subset_of_lookup hlookup) hfields)
  · have hmessage : OneLine s!"missing field `{name}`" := hname.between (by decide) (by decide)
    have hpath : OneLine (Path.mk name []).text := Path.oneLine_mk.2 hname
    have hfinding : ∀ finding ∈ [Finding.schema (Path.mk name []).text s!"missing field `{name}`"],
        finding.BreaksFrom sources := breaksFrom_schema hpath hmessage
    simpa [Path.text] using hfinding

theorem texts_taggedFields (tag : String) (hv : v.texts ⊆ sources) :
    (Value.object (taggedFields tag v)).texts ⊆ sources := by
  unfold taggedFields
  split
  · split
    · exact hv
    · exact List.nil_subset _
  · exact List.nil_subset _

end Fields

/-! ### Parts of documents -/

theorem breaksFrom_metadata (hv : v.texts ⊆ sources) : ∀ finding ∈ metadata v, finding.BreaksFrom sources := by
  refine breaksFrom_mapping (by decide) hv fun fields hfields => breaksFrom_partsFirst ?_ ?_
  · simp only [List.forall_mem_append]
    refine ⟨⟨?_, ?_⟩, ?_⟩
    · exact breaksFrom_present hfields fun v hv => breaksFrom_elements (by decide) hv fun path v hpath hv =>
        breaksFrom_conformance .owner hpath hv
    · exact breaksFrom_given hfields fun v hv => breaksFrom_conformance .compliance (by decide) hv
    · exact breaksFrom_given hfields fun v hv => breaksFrom_conformance .rbac (by decide) hv
  · exact breaksFrom_conformance .metadata (by decide) hv

theorem breaksFrom_trigger (hpath : OneLine path.text) (hv : v.texts ⊆ sources) :
    ∀ finding ∈ trigger path v, finding.BreaksFrom sources := by
  have hfields := texts_taggedFields "http" hv
  have hbelow : ∀ name, OneLine name → OneLine (path.field name).text := fun name hname =>
    Path.oneLine_field.2 ⟨hpath, hname⟩
  refine breaksFrom_partsFirst ?_ (breaksFrom_conformance .trigger hpath hv)
  simp only [List.forall_mem_append]
  refine ⟨?_, ?_⟩
  · exact breaksFrom_given hfields fun v hv => breaksFrom_conformance .httpAuth (hbelow _ (by decide)) hv
  · exact breaksFrom_given hfields fun v hv => breaksFrom_conformance .rateLimit (hbelow _ (by decide)) hv

theorem breaksFrom_stepKind (hpath : OneLine path.text) (hv : v.texts ⊆ sources) :
    ∀ finding ∈ stepKind path v, finding.BreaksFrom sources := by
  have hbelow : OneLine (path.field "conditions").text := Path.oneLine_field.2 ⟨hpath, by decide⟩
  refine breaksFrom_partsFirst ?_ (breaksFrom_conformance .stepKind hpath hv)
  exact breaksFrom_present (texts_taggedFields "branch" hv) fun v hv =>
    breaksFrom_elements hbelow hv fun path v hpath hv => breaksFrom_conformance .branchCondition hpath hv

theorem breaksFrom_step (hpath : OneLine path.text) (hv : v.texts ⊆ sources) :
    ∀ finding ∈ step path v, finding.BreaksFrom sources := by
  have hbelow : ∀ name, OneLine name → OneLine (path.field name).text := fun name hname =>
    Path.oneLine_field.2 ⟨hpath, hname⟩
  refine breaksFrom_mapping hpath hv fun fields hfields =>
    breaksFrom_partsFirst ?_ (breaksFrom_conformance .step hpath hv)
  simp only [List.forall_mem_append]
  refine ⟨⟨?_, ?_⟩, ?_⟩
  · exact breaksFrom_present hfields fun v hv => breaksFrom_stepKind (hbelow _ (by decide)) hv
  · exact breaksFrom_given hfields fun v hv => breaksFrom_conformance .transport (hbelow _ (by decide)) hv
  · exact breaksFrom_present hfields fun v hv => breaksFrom_elements (hbelow _ (by decide)) hv fun path v hpath hv =>
      breaksFrom_conformance .policy hpath hv

theorem breaksFrom_observability (hv : v.texts ⊆ sources) :
    ∀ finding ∈ observability v, finding.BreaksFrom sources := by
  refine breaksFrom_mapping (by decide) hv fun fields hfields =>
    breaksFrom_partsFirst ?_ (breaksFrom_conformance .observability (by decide) hv)
  exact breaksFrom_given hfields fun v hv => breaksFrom_conformance .payloadSampling (by decide) hv

theorem breaksFrom_parts {fields : List (String × Value)} (hfields : (Value.object fields).texts ⊆ sources) :
    ∀ finding ∈ parts fields, finding.BreaksFrom sources := by
  simp only [parts, List.forall_mem_append]
  refine ⟨⟨⟨?_, ?_⟩, ?_⟩, ?_⟩
  · exact breaksFrom_demanded (by decide) hfields fun v hv => breaksFrom_metadata hv
  · exact breaksFrom_present hfields fun v hv => breaksFrom_elements (by decide) hv fun path v hpath hv =>
      breaksFrom_trigger hpath hv
  · exact breaksFrom_demanded (by decide) hfields fun v hv => breaksFrom_elements (by decide) hv fun path v hpath hv =>
      breaksFrom_step hpath hv
  · exact breaksFrom_given hfields fun v hv => breaksFrom_observability hv

theorem breaksFrom_shape (flow : Flow) : ∀ finding ∈ shape flow, finding.BreaksFrom sources := by
  have hmessage : OneLine "flow must define at least one step" := by decide
  have hpath : OneLine "steps" := by decide
  unfold shape
  split
  · exact List.forall_mem_singleton.2 (breaksFrom_of_message hpath hmessage.breaksFrom)
  · exact List.forall_mem_nil _

/-- A line feed in a finding on the structure of a tree is one of a text of the tree. -/
theorem breaksFrom_of_check {tree : Value} {findings : List Finding} (h : check tree = .error findings) :
    ∀ finding ∈ findings, finding.BreaksFrom tree.texts := by
  unfold check at h
  split at h
  · rename_i fields
    dsimp only at h
    split at h
    · cases h
      exact breaksFrom_parts (List.Subset.refl _)
    · split at h
      · rename_i mismatch hmismatch
        cases h
        exact List.forall_mem_singleton.2
          (breaksFrom_mismatchFinding .flow (fun _ hp => nomatch hp) (List.Subset.refl _) hmismatch)
      · split at h
        · cases h
        · cases h
          exact breaksFrom_shape _
  · cases h
    have hdocument : OneLine "<document>" := by decide
    have hopening : OneLine "flow document must be a mapping, found " := by decide
    exact List.forall_mem_singleton.2
      (breaksFrom_of_message hdocument (oneLine_append.2 ⟨hopening, tree.oneLine_describe⟩).breaksFrom)

end Structure

end FlowCheck
