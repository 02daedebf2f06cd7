import FlowCheck.Proofs.FlowNames
import FlowCheck.Proofs.Structure.Messages
import FlowCheck.Structure.Basic

/-!
# Blame and fault

When a mapping is rejected, some field is at fault for the reason given (`Coerced.exists_faulty`).  The field that is
blamed is found by the message alone.  It is at fault if no part of the document in the message reads like another
message, and if the mismatch is about a field itself or no healthy field fits what the message says (`Telling`,
`narrowed_paths_end_in_faulty_fields`).

Each of these is needed (`healthy_fields_are_blamed`): a text may read like a message about a missing field, the
element of a list may be shown like another field, and the name that is unknown may stand in two fields.
-/

namespace FlowCheck

variable {α : Type} {fields : List (String × Value)} {m : Mismatch} {k name : String}

/-- The mismatch is about the field with the name itself: it is missing, or its own value is what the message
shows.  Of unknown names, only tags are told from all others. -/
def Mismatch.IsOwn (name : String) (slot : Option Value) : Mismatch → Prop
  | .missingField missing => missing = name
  | .unknownVariant s _ => name = tagField ∧ slot = some (.string (Structure.toldName s))
  | .wrongType found _ | .wrongValue found _ => slot = some found
  | .wrongLength _ _ | .badDate _ => False

/-- What fits a message about a field itself is that field. -/
theorem Mismatch.Fits.eq_of_isOwn (h : m.Fits fields k) (hown : m.IsOwn name (fields.lookup name)) : k = name := by
  have hwrong : ∀ {found : Value}, fields.lookup name = some found →
      (∃ v, fields.filter (fun field => field.2.shown .pointed == found.shown .json) = [(k, v)]) → k = name := by
    rintro found hlookup ⟨v, hfilter⟩
    have hv : v.shown .pointed = found.shown .json := by
      have hmem := List.mem_filter.1 (hfilter ▸ List.mem_singleton_self (k, v))
      exact beq_iff_eq.1 hmem.2
    have hfound : (name, found) ∈ fields.filter fun field => field.2.shown .pointed == found.shown .json :=
      List.mem_filter.2 ⟨Entries.mem_of_lookup hlookup, beq_iff_eq.2 (Value.shown_pointed_of_eq hv)⟩
    rw [hfilter] at hfound
    exact (congrArg Prod.fst (List.mem_singleton.1 hfound)).symm
  cases m with
  | missingField missing => exact h.1.symm.trans hown
  | unknownVariant s names =>
    obtain ⟨rfl, hslot⟩ := hown
    exact h.2 hslot
  | wrongType found expected => exact hwrong hown h
  | wrongValue found expected => exact hwrong hown h
  | wrongLength length expected => exact h.elim
  | badDate fault => exact h.elim

namespace Structure

/-- The types that parts of a document are read as on their own, and the type of the whole document. -/
inductive Coerced : {α : Type} → Schema α → Prop
  | flow : Coerced (.record Flow.record)
  | metadata : Coerced (.record Metadata.record)
  | owner : Coerced (.record Owner.record)
  | compliance : Coerced (.record Compliance.record)
  | rbac : Coerced (.record Rbac.record)
  | trigger : Coerced Trigger.schema
  | httpAuth : Coerced (.record HttpAuth.record)
  | rateLimit : Coerced (.record RateLimit.record)
  | step : Coerced (.record Step.record)
  | stepKind : Coerced StepKind.schema
  | branchCondition : Coerced (.record BranchCondition.record)
  | transport : Coerced Transport.schema
  | policy : Coerced Policy.schema
  | observability : Coerced (.record Observability.record)
  | payloadSampling : Coerced (.record PayloadSampling.record)

theorem Coerced.plain {schema : Schema α} (h : Coerced schema) : schema.Plain := by
  cases h with
  | flow => exact Flow.plain_record
  | metadata => exact Metadata.plain_record
  | owner => exact Owner.plain_record
  | compliance => exact Compliance.plain_record
  | rbac => exact Rbac.plain_record
  | trigger => exact Trigger.plain_schema
  | httpAuth => exact HttpAuth.plain_record
  | rateLimit => exact RateLimit.plain_record
  | step => exact Step.plain_record
  | stepKind => exact StepKind.plain_schema
  | branchCondition => exact BranchCondition.plain_record
  | transport => exact Transport.plain_schema
  | policy => exact Policy.plain_schema
  | observability => exact Observability.plain_record
  | payloadSampling => exact PayloadSampling.plain_record

/-- A mapping is rejected for the reason of a field at fault. -/
theorem Coerced.exists_faulty {schema : Schema α} (h : Coerced schema)
    (hreject : schema.decode .direct (.object fields) = .error m) : ∃ name, schema.Faulty fields name m := by
  cases h with
  | trigger | stepKind | transport | policy => exact Schema.exists_faulty hreject
  | _ => exact Record.exists_faulty hreject

/-- The message tells a field at fault. -/
structure Telling (schema : Schema α) (fields : List (String × Value)) (m : Mismatch) : Prop where
  /-- What it shows of the document does not read like another message. -/
  unmarked : m.Unmarked
  /-- It is about a field itself, or no healthy field fits what it says. -/
  clear : (∃ name, schema.Faulty fields name m ∧ m.IsOwn name (fields.lookup name)) ∨
    ∀ k, m.Fits fields k → ∃ reason, schema.Faulty fields k reason

theorem Telling.faulty_of_blamedField {schema : Schema α} (htelling : Telling schema fields m) (hplain : m.Plain)
    (h : blamedField (.object fields) m.message = some k) : ∃ reason, schema.Faulty fields k reason := by
  have hfits := fits_of_blamedField hplain htelling.unmarked h
  rcases htelling.clear with ⟨name, hfaulty, hown⟩ | hclear
  · exact ⟨m, hfits.eq_of_isOwn hown ▸ hfaulty⟩
  · exact hclear k hfits

/-- A path that ends in a field was narrowed to the field that is blamed. -/
theorem blamedField_of_path_field {path : Path}
    (h : (mismatchFinding (some path) (.object fields) m).path = some (path.field k).text) :
    blamedField (.object fields) m.message = some k := by
  rw [Path.text_field] at h
  cases hblamed : blamedField (.object fields) m.message with
  | none =>
    -- the path itself is shorter
    simp only [mismatchFinding, hblamed, Finding.schema, Option.some.injEq] at h
    have hlength := congrArg String.length h
    simp only [String.length_append] at hlength
    have hdot : ".".length = 1 := rfl
    omega
  | some name =>
    simp only [mismatchFinding, hblamed, Finding.schema, Option.some.injEq, Path.text_field] at h
    rw [(String.append_right_inj _).1 h]

theorem blamedField_of_path_root (h : (mismatchFinding none (.object fields) m).path = some k) :
    blamedField (.object fields) m.message = some k := by
  cases hblamed : blamedField (.object fields) m.message with
  | none => simp [mismatchFinding, hblamed, Finding.schemaRoot] at h
  | some name =>
    simp only [mismatchFinding, hblamed] at h
    split at h
    · cases h
    · exact h

/-- When a mapping is rejected, some field is at fault for the reason given; and if the message tells it, a path is
narrowed to fields at fault only. -/
theorem narrowed_paths_end_in_faulty_fields {schema : Schema α} (hcoerced : Coerced schema)
    (hreject : schema.decode .direct (.object fields) = .error m) :
    (∃ name, schema.Faulty fields name m) ∧
      (Telling schema fields m →
        (∀ path k, (mismatchFinding (some path) (.object fields) m).path = some (path.field k).text →
          ∃ reason, schema.Faulty fields k reason) ∧
        ∀ k, (mismatchFinding none (.object fields) m).path = some k → ∃ reason, schema.Faulty fields k reason) := by
  have hplain := Schema.plain_of_decode schema hcoerced.plain hreject
  refine ⟨hcoerced.exists_faulty hreject, fun htelling => ⟨fun path k h => ?_, fun k h => ?_⟩⟩
  · exact htelling.faulty_of_blamedField hplain (blamedField_of_path_field h)
  · exact htelling.faulty_of_blamedField hplain (blamedField_of_path_root h)

/-- A trigger whose quality of service is a text. -/
def wordyTrigger (qos : String) : List (String × Value) :=
  [("broker", .string "b"), ("qos", .string qos), ("topic", .string "t"), ("type", .string "mqtt")]

theorem narrowed_paths_end_in_faulty_fields_of_wordyTrigger :
    Trigger.schema.decode .direct (.object (wordyTrigger "high")) = .error (.wrongType (.string "high") "u32") ∧
      Telling Trigger.schema (wordyTrigger "high") (.wrongType (.string "high") "u32") ∧
      (mismatchFinding (some ((Path.mk "triggers" []).index 0)) (.object (wordyTrigger "high"))
        (.wrongType (.string "high") "u32")).path = some "triggers[0].qos" ∧
      ∃ reason, Trigger.schema.Faulty (wordyTrigger "high") "qos" reason := by
  have hreject : Trigger.schema.decode .direct (.object (wordyTrigger "high")) =
      .error (.wrongType (.string "high") "u32") := rfl
  have htelling : Telling Trigger.schema (wordyTrigger "high") (.wrongType (.string "high") "u32") := by
    refine ⟨by decide, Or.inl ⟨"qos", ?_, rfl⟩⟩
    exact Or.inr (Or.inr (Or.inr (Or.inl ⟨rfl, rfl⟩)))
  have hpath : (mismatchFinding (some ((Path.mk "triggers" []).index 0)) (.object (wordyTrigger "high"))
      (.wrongType (.string "high") "u32")).path = some "triggers[0].qos" := by
    rfl
  exact ⟨hreject, htelling, hpath,
    ((narrowed_paths_end_in_faulty_fields .trigger hreject).2 htelling).1 _ "qos" hpath⟩

/-- The mapping is rejected, and a field is blamed that is not at fault. -/
def Misblames (schema : Schema α) (fields : List (String × Value)) (k : String) : Prop :=
  ∃ m, schema.decode .direct (.object fields) = .error m ∧ blamedField (.object fields) m.message = some k ∧
    ¬∃ reason, schema.Faulty fields k reason

/-- Metadata with an integer in the list of tags, and the same integer under a name that is not known. -/
def numberedMetadata : List (String × Value) :=
  [("name", .string "f"), ("tags", .list [.int (.ofNat 5 (by decide))]), ("version", .string "1.0.0"),
    ("z", .int (.ofNat 5 (by decide)))]

/-- A trigger with an unknown method, and the same text under a name that is not known. -/
def doubledTrigger : List (String × Value) :=
  [("description", .string "Q"), ("method", .string "Q"), ("path", .string "/"), ("type", .string "http")]

/-- A document with the trigger. -/
def documentOn (trigger : List (String × Value)) : Value :=
  .object [("metadata", .object [("name", .string "f"), ("version", .string "1.0.0")]),
    ("steps", .list [.object [("id", .string "a"), ("name", .string "A"),
      ("step", .object [("expression", .string "x"), ("type", .string "map")])]]),
    ("triggers", .list [.object trigger])]

theorem healthy_fields_are_blamed :
    Misblames Trigger.schema (wordyTrigger "missing field `ghost`") "ghost" ∧
      Structure.check (documentOn (wordyTrigger "missing field `ghost`")) =
        .error [.schema "triggers[0].ghost" "invalid type: string \"missing field `ghost`\", expected u32"] ∧
      Misblames (.record Metadata.record) numberedMetadata "z" ∧
      Misblames Trigger.schema doubledTrigger "description" := by
  have hmethods : HttpMethod.choices.names = ["GET", "POST", "PUT", "PATCH", "DELETE"] := by cbv
  have hdoubled : Trigger.schema.decode .direct (.object doubledTrigger) =
      .error (.unknownVariant "Q" HttpMethod.choices.names) := rfl
  rw [hmethods] at hdoubled
  refine ⟨⟨_, rfl, rfl, ?_⟩, rfl, ⟨_, rfl, rfl, ?_⟩, ⟨_, hdoubled, rfl, ?_⟩⟩
  · rintro ⟨reason, h | h⟩
    · exact absurd h.1 (by decide)
    · have hmember : MqttTrigger.record.Faulty .buffered _ "ghost" reason := h
      exact absurd hmember.mem_names (by decide)
  · rintro ⟨reason, h⟩
    have hrecord : Metadata.record.Faulty .direct numberedMetadata "z" reason := h
    exact absurd hrecord.mem_names (by decide)
  · rintro ⟨reason, h | h⟩
    · exact absurd h.1 (by decide)
    · have hmember : HttpTrigger.record.Faulty .buffered _ "description" reason := h
      exact absurd hmember.mem_names (by decide)

end Structure

end FlowCheck
