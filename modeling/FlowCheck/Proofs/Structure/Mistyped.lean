import FlowCheck.Proofs.Structure.Blame
import Mathlib.Data.List.Nodup

/-!
# Mistyped fields

A message about a value of the wrong type, or out of range, shows the value and does not name the field.  The field is
searched by what is shown: if it is the only field with such a value (`HeldOnce`), it is named, for each value but a
double (`mistyped_field_is_named_iff`).

There is one exception.  The message is searched from its start, and a text of the document stands in it before
what is expected.  So the text leads astray (`Misleads`) if it has the words that end a value, or reads like a
message about a field that is not there or about a name that some field holds.  Nothing else that is shown does
(`eq_string_of_misleads`), and each of the three ways hides the field (`mistyped_field_is_not_named`).
-/

namespace FlowCheck

variable {α : Type} {fields : List (String × Value)} {m : Mismatch} {v found : Value} {cs tail : List Char}
  {mark name k key opening expected message : String}

namespace Structure

/-! ### Names behind marks -/

/-- The marks of messages about a missing field and about an unknown name. -/
def marks : List String :=
  ["missing field `", "unknown variant `"]

/-- Behind the first place of the mark stands the name, up to a backtick. -/
def Tells (mark name : String) (cs : List Char) : Prop :=
  ∃ before after, cs = before ++ mark.toList ++ (name.toList ++ '\x60' :: after) ∧
    ¬mark.toList <:+: before ∧ '\x60' ∉ name.toList

theorem exists_opening (hmark : mark ∈ marks) : ∃ w, mark.toList = w ++ ['\x60'] ∧ '\x60' ∉ w := by
  simp only [marks, List.mem_cons, List.not_mem_nil, or_false] at hmark
  rcases hmark with rfl | rfl
  · exact ⟨"missing field ".toList, rfl, by decide⟩
  · exact ⟨"unknown variant ".toList, rfl, by decide⟩

theorem backticked_eq_some_iff (hmark : mark ∈ marks) : backticked mark cs = some name ↔ Tells mark name cs := by
  obtain ⟨w, hw, hbacktick⟩ := exists_opening hmark
  have hsingle : ∀ {p : List Char}, ¬[] ++ ['\x60'] <:+: p ↔ '\x60' ∉ p := by
    intro p
    rw [List.nil_append, List.singleton_infix_iff]
  constructor
  · intro h
    obtain ⟨⟨shown, after⟩, hparts, rfl⟩ := Option.map_eq_some_iff.1 h
    obtain ⟨⟨before, rest⟩, hmarked, hrest⟩ := Option.bind_eq_some_iff.1 hparts
    rw [hw] at hmarked
    obtain ⟨hcs, hbefore⟩ := (Text.splitAt?_concat_eq_some_iff hbacktick).1 hmarked
    obtain ⟨hshown, hfirst⟩ := (Text.splitAt?_concat_eq_some_iff (w := []) List.not_mem_nil).1 hrest
    have hname : (String.ofList shown).toList = shown := String.toList_ofList
    refine ⟨before, after, ?_, by rwa [hw], by rw [hname]; exact hsingle.1 hfirst⟩
    rw [hcs, hw, hname]
    simpa using hshown
  · rintro ⟨before, after, hcs, hbefore, hname⟩
    rw [hw] at hcs hbefore
    have hmarked : Text.splitAt? (w ++ ['\x60']) cs = some (before, name.toList ++ '\x60' :: after) :=
      (Text.splitAt?_concat_eq_some_iff hbacktick).2 ⟨hcs, hbefore⟩
    have hrest : Text.splitAt? ['\x60'] (name.toList ++ '\x60' :: after) = some (name.toList, after) :=
      (Text.splitAt?_concat_eq_some_iff (w := []) List.not_mem_nil).2 ⟨by simp, hsingle.2 hname⟩
    rw [backticked, hw, hmarked, Option.bind_some, hrest, Option.map_some, String.ofList_toList]

theorem tells_append_iff (htail : '\x60' ∉ tail) : Tells mark name (cs ++ tail) ↔ Tells mark name cs := by
  constructor
  · rintro ⟨before, after, hcs, hbefore, hname⟩
    have hcut : before ++ mark.toList ++ name.toList ++ '\x60' :: after = cs ++ tail := by simp [hcs]
    obtain ⟨u, rfl⟩ := Text.exists_of_append_cons_eq htail hcut
    exact ⟨before, u, by simp, hbefore, hname⟩
  · rintro ⟨before, after, rfl, hbefore, hname⟩
    exact ⟨before, after ++ tail, by simp, hbefore, hname⟩

theorem Tells.subset (h : Tells mark name cs) : mark.toList ⊆ cs := by
  obtain ⟨before, after, rfl, -, -⟩ := h
  intro c hc
  simp [hc]

/-- No mark begins in the words that open a message about a value. -/
theorem backticked_opening (hmark : mark ∈ marks) (hopening : opening ∈ ["invalid type: ", "invalid value: "]) :
    backticked mark (opening.toList ++ cs) = backticked mark cs := by
  have hapart : ∀ mark ∈ marks, ∀ opening ∈ ["invalid type: ", "invalid value: "], ∀ s ∈ opening.toList.tails, s ≠ [] →
      ¬mark.toList <+: s ∧ ¬s <+: mark.toList := by
    decide
  rw [backticked, backticked, Text.splitAt?_append_of_apart (hapart mark hmark opening hopening), Option.bind_map]
  rfl

/-- In a message about a value, names are told by what is shown of the value only. -/
theorem backticked_wrong_iff (hmark : mark ∈ marks) (hopening : opening ∈ ["invalid type: ", "invalid value: "])
    (hexpected : '\x60' ∉ expected.toList) :
    backticked mark (wrong opening found expected) = some name ↔ Tells mark name (found.shown .json).toList := by
  have htail : '\x60' ∉ ", expected".toList ++ (" " ++ expected).toList := by simpa using hexpected
  rw [wrong, backticked_opening hmark hopening, backticked_eq_some_iff hmark, tells_append_iff htail]

/-! ### Texts that lead astray -/

/-- What is shown ends a value too early, or reads like a message about a field that is not there, or about a
name that some field holds. -/
def Misleads (fields : List (String × Value)) (shown : String) : Prop :=
  ", expected".toList <:+: shown.toList ∨
    (∃ name, Tells "missing field `" name shown.toList ∧ fields.lookup name = none) ∨
      ∃ name, Tells "unknown variant `" name shown.toList ∧ ∃ key, (key, .string name) ∈ fields

/-- Nothing but a text leads astray. -/
theorem eq_string_of_misleads (h : Misleads fields (v.shown .json)) : ∃ s, v = .string s := by
  by_contra hne
  have hletter : ∀ c ∈ (v.shown .json).toList, c.isDigit = true ∨ c ∈ Value.shownLetters :=
    fun c hc => Value.mem_shown hc fun s hs => hne ⟨s, hs⟩
  rcases h with hcut | ⟨name, htold, -⟩ | ⟨name, htold, -⟩
  · have hcomma : ',' ∈ (v.shown .json).toList := hcut.subset (by decide)
    exact absurd (hletter ',' hcomma) (by decide)
  · have hd : 'd' ∈ (v.shown .json).toList := htold.subset (by decide)
    exact absurd (hletter 'd' hd) (by decide)
  · have hk : 'k' ∈ (v.shown .json).toList := htold.subset (by decide)
    exact absurd (hletter 'k' hk) (by decide)

/-- A text does not tell itself. -/
theorem not_tells_self (hmark : mark ∈ marks) : ¬Tells mark name ((Value.string name).shown .json).toList := by
  intro h
  obtain ⟨w, hw, -⟩ := exists_opening hmark
  have hshown : '\x60' ∈ ((Value.string name).shown .json).toList := h.subset (by simp [hw])
  have hquoted : '\x60' ∈ (Text.quoted name).toList := by simpa using hshown
  obtain ⟨before, after, -, -, hname⟩ := h
  exact hname (Text.backtick_mem_of_mem_quoted hquoted)

/-! ### The three searches -/

section Searches

variable (hopening : opening ∈ ["invalid type: ", "invalid value: "]) (hexpected : '\x60' ∉ expected.toList)

include hopening hexpected

theorem missingField_wrong_iff :
    missingField fields (wrong opening found expected) = some name ↔
      Tells "missing field `" name (found.shown .json).toList ∧ fields.lookup name = none := by
  have htold : ∀ name, backticked "missing field `" (wrong opening found expected) = some name ↔
      Tells "missing field `" name (found.shown .json).toList :=
    fun name => backticked_wrong_iff (by decide) hopening hexpected
  rw [missingField, Option.bind_eq_some_iff]
  constructor
  · rintro ⟨other, hother, h⟩
    split at h
    · cases h
    · rename_i habsent
      cases h
      exact ⟨(htold name).1 hother, Option.not_isSome_iff_eq_none.1 habsent⟩
  · rintro ⟨hname, habsent⟩
    exact ⟨name, (htold name).2 hname, by simp [habsent]⟩

theorem exists_tells_of_unknownName (h : unknownName fields (wrong opening found expected) = some key) :
    ∃ name, Tells "unknown variant `" name (found.shown .json).toList ∧ (key, .string name) ∈ fields := by
  obtain ⟨name, hmark, hsearch⟩ := Option.bind_eq_some_iff.1 h
  refine ⟨name, (backticked_wrong_iff (by decide) hopening hexpected).1 hmark, ?_⟩
  dsimp only at hsearch
  split at hsearch
  · rename_i htype
    cases hsearch
    obtain ⟨v, hlookup, hv⟩ := (Option.any_eq_true ..).1 htype
    rw [asString?_beq_iff.1 hv] at hlookup
    exact Entries.mem_of_lookup hlookup
  · obtain ⟨field, hfind, rfl⟩ := Option.map_eq_some_iff.1 hsearch
    have hheld := List.find?_some hfind
    rw [← asString?_beq_iff.1 hheld]
    exact List.mem_of_find?_eq_some hfind

theorem notMem_of_unknownName (h : unknownName fields (wrong opening found expected) = none)
    (hname : Tells "unknown variant `" name (found.shown .json).toList) : (key, .string name) ∉ fields := by
  intro hmem
  rw [unknownName, (backticked_wrong_iff (by decide) hopening hexpected).2 hname, Option.bind_some] at h
  dsimp only at h
  split at h
  · cases h
  · have hnot := List.find?_eq_none.1 (Option.map_eq_none_iff.1 h) _ hmem
    exact hnot (asString?_beq_iff.2 rfl)

end Searches

/-! ### The field that is named -/

/-- The field holds the value, and no other field holds one that is shown in the same way. -/
structure HeldOnce (fields : List (String × Value)) (k : String) (v : Value) : Prop where
  mem : (k, v) ∈ fields
  unique : ∀ field ∈ fields, field.2.LooksLike v → field.1 = k

theorem HeldOnce.filter_eq (hheld : HeldOnce fields k v) (hkeys : (fields.map (·.1)).Nodup)
    (hfloat : ∀ x, v ≠ .float x) :
    fields.filter (fun field => field.2.shown .pointed == v.shown .json) = [(k, v)] := by
  obtain ⟨before, after, rfl⟩ := List.append_of_mem hheld.mem
  rw [List.map_append, List.map_cons, List.nodup_middle, ← List.map_append, List.nodup_cons] at hkeys
  have hothers : ∀ field ∈ before ++ after, ¬(field.2.shown .pointed == v.shown .json) = true := by
    intro field hmem hshown
    have hlooks : field.2.LooksLike v := (Value.shown_eq_iff hfloat).1 (beq_iff_eq.1 hshown)
    have hk : field.1 = k := by
      refine hheld.unique field ?_ hlooks
      rcases List.mem_append.1 hmem with hbefore | hafter
      · exact List.mem_append_left _ hbefore
      · exact List.mem_append_right _ (List.mem_cons_of_mem _ hafter)
    exact hkeys.1 (List.mem_map.2 ⟨field, hmem, hk⟩)
  obtain ⟨hbefore, hafter⟩ := List.forall_mem_append.1 hothers
  have hself : ((k, v) :: after).filter (fun field => field.2.shown .pointed == v.shown .json) =
      (k, v) :: after.filter fun field => field.2.shown .pointed == v.shown .json :=
    List.filter_cons_of_pos (beq_iff_eq.2 ((Value.shown_eq_iff hfloat).2 (Value.looksLike_refl v)))
  rw [List.filter_append, hself, List.filter_eq_nil_iff.2 hbefore, List.filter_eq_nil_iff.2 hafter, List.nil_append]

/-- The field is named unless what is shown of its value leads astray. -/
theorem blamedField_wrong_iff (hopening : opening ∈ ["invalid type: ", "invalid value: "])
    (hmessage : message.toList = wrong opening v expected) (hexpected : '\x60' ∉ expected.toList)
    (hkeys : (fields.map (·.1)).Nodup) (hheld : HeldOnce fields k v) (hfloat : ∀ x, v ≠ .float x) :
    blamedField (.object fields) message = some k ↔ ¬Misleads fields (v.shown .json) := by
  rw [blamedField, hmessage]
  cases hmissing : missingField fields (wrong opening v expected) with
  | some name =>
    obtain ⟨hname, habsent⟩ := (missingField_wrong_iff hopening hexpected).1 hmissing
    have hne : name ≠ k := by
      rintro rfl
      exact absurd (List.lookup_eq_none_iff.1 habsent _ hheld.mem) (by simp)
    refine iff_of_false ?_ (not_not_intro (Or.inr (Or.inl ⟨name, hname, habsent⟩)))
    simpa using hne
  | none =>
    cases hunknown : unknownName fields (wrong opening v expected) with
    | some key =>
      obtain ⟨name, hname, hmem⟩ := exists_tells_of_unknownName hopening hexpected hunknown
      have hne : key ≠ k := by
        rintro rfl
        have hentry := List.inj_on_of_nodup_map hkeys hmem hheld.mem rfl
        obtain rfl : Value.string name = v := congrArg Prod.snd hentry
        exact not_tells_self (by decide) hname
      refine iff_of_false ?_ (not_not_intro (Or.inr (Or.inr ⟨name, hname, key, hmem⟩)))
      simpa using hne
    | none =>
      rw [Option.none_or, Option.none_or, mistypedField_eq_some_iff hopening]
      constructor
      · rintro ⟨hwhole, -⟩ (hcut | ⟨name, hname, habsent⟩ | ⟨name, hname, key, hmem⟩)
        · exact hwhole hcut
        · have hsome := (missingField_wrong_iff hopening hexpected).2 ⟨hname, habsent⟩
          rw [hmissing] at hsome
          cases hsome
        · exact notMem_of_unknownName hopening hexpected hunknown hname hmem
      · intro h
        exact ⟨fun hcut => h (Or.inl hcut), v, hheld.filter_eq hkeys hfloat⟩

end Structure

/-- The value of the wrong type, or out of range, that a message is about. -/
def Mismatch.found? : Mismatch → Option Value
  | .wrongType found _ | .wrongValue found _ => some found
  | .missingField _ | .unknownVariant _ _ | .wrongLength _ _ | .badDate _ => none

theorem Mismatch.exists_wrong (hfound : m.found? = some v) (hplain : m.Plain) :
    ∃ opening ∈ ["invalid type: ", "invalid value: "], ∃ expected,
      m.message.toList = Structure.wrong opening v expected ∧ '\x60' ∉ expected.toList := by
  cases m with
  | wrongType found expected =>
    cases hfound
    exact ⟨_, List.mem_cons_self .., expected, Structure.toList_wrongType v expected, hplain⟩
  | wrongValue found expected =>
    cases hfound
    exact ⟨_, List.mem_cons_of_mem _ (List.mem_cons_self ..), expected, Structure.toList_wrongValue v expected, hplain⟩
  | _ => cases hfound

namespace Structure

/-- A finding is at the path of the field exactly if the field is blamed. -/
theorem conformance_eq_iff {schema : Schema α} (hreject : schema.decode .direct (.object fields) = .error m)
    (path : Path) :
    conformance schema path (.object fields) = [.schema (path.field k).text m.message] ↔
      blamedField (.object fields) m.message = some k := by
  rw [conformance, hreject]
  constructor
  · intro h
    exact blamedField_of_path_field (congrArg Finding.path (List.cons.inj h).1)
  · intro hblamed
    simp only [mismatchFinding, hblamed]

/-- The same for the document as a whole, which has no path. -/
theorem mismatchFinding_none_eq_iff (hk : k ≠ "") :
    mismatchFinding none (.object fields) m = .schema k m.message ↔
      blamedField (.object fields) m.message = some k := by
  constructor
  · intro h
    exact blamedField_of_path_root (congrArg Finding.path h)
  · intro hblamed
    have hempty : k.isEmpty = false := by simpa using hk
    simp [mismatchFinding, hblamed, hempty]

/-- If a message is about a value that one field only holds, the finding is at the path of this field, unless
the value is a text that leads astray. -/
theorem mistyped_field_is_named_iff {schema : Schema α} (hmodelled : Modelled schema)
    (hkeys : (fields.map (·.1)).Nodup) (hreject : schema.decode .direct (.object fields) = .error m)
    (hfound : m.found? = some v) (hheld : HeldOnce fields k v) (hfloat : ∀ x, v ≠ .float x) :
    (∀ path, conformance schema path (.object fields) = [.schema (path.field k).text m.message] ↔
        ∀ s, v = .string s → ¬Misleads fields ((Value.string s).shown .json)) ∧
      (k ≠ "" → (mismatchFinding none (.object fields) m = .schema k m.message ↔
        ∀ s, v = .string s → ¬Misleads fields ((Value.string s).shown .json))) := by
  have hplain : m.Plain := Schema.plain_of_decode schema hmodelled.plain hreject
  obtain ⟨opening, hopening, expected, hmessage, hexpected⟩ := m.exists_wrong hfound hplain
  have hblamed : blamedField (.object fields) m.message = some k ↔
      ∀ s, v = .string s → ¬Misleads fields ((Value.string s).shown .json) := by
    rw [blamedField_wrong_iff hopening hmessage hexpected hkeys hheld hfloat]
    constructor
    · rintro h s rfl
      exact h
    · intro h hmisleads
      obtain ⟨s, rfl⟩ := eq_string_of_misleads hmisleads
      exact h s rfl hmisleads
  exact ⟨fun path => (conformance_eq_iff hreject path).trans hblamed,
    fun hk => (mismatchFinding_none_eq_iff hk).trans hblamed⟩

theorem modelled_trigger : Modelled Trigger.schema :=
  .element (.field .flow (.there (.here .defaulted)))

/-- The text of the quality of service is held by no other field, unless it is one of three texts. -/
theorem heldOnce_wordyTrigger {qos : String} (hqos : qos ∉ ["b", "t", "mqtt"]) :
    HeldOnce (wordyTrigger qos) "qos" (.string qos) := by
  refine ⟨by simp [wordyTrigger], fun field hmem hlooks => ?_⟩
  simp only [List.mem_cons, List.not_mem_nil, or_false, not_or] at hqos
  simp only [wordyTrigger, List.mem_cons, List.not_mem_nil, or_false] at hmem
  rcases hmem with rfl | rfl | rfl | rfl
  · exact absurd (Value.string.inj hlooks).symm hqos.1
  · rfl
  · exact absurd (Value.string.inj hlooks).symm hqos.2.1
  · exact absurd (Value.string.inj hlooks).symm hqos.2.2

/-- A text that names a field which is there does not lead astray. -/
theorem not_misleads_topic :
    ¬Misleads (wordyTrigger "missing field `topic`") ((Value.string "missing field `topic`").shown .json) := by
  rintro (hcut | ⟨name, hname, habsent⟩ | ⟨name, hname, key, hmem⟩)
  · exact absurd hcut (by decide)
  · have htopic : backticked "missing field `" ((Value.string "missing field `topic`").shown .json).toList =
        some "topic" := by rfl
    obtain rfl : "topic" = name := Option.some.inj (htopic.symm.trans ((backticked_eq_some_iff (by decide)).2 hname))
    cases habsent
  · have hnone : backticked "unknown variant `" ((Value.string "missing field `topic`").shown .json).toList = none := by
      rfl
    rw [(backticked_eq_some_iff (by decide)).2 hname] at hnone
    cases hnone

theorem mistyped_field_is_named_of_wordyTrigger :
    Modelled Trigger.schema ∧ ((wordyTrigger "missing field `topic`").map (·.1)).Nodup ∧
      Trigger.schema.decode .direct (.object (wordyTrigger "missing field `topic`")) =
        .error (.wrongType (.string "missing field `topic`") "u32") ∧
      HeldOnce (wordyTrigger "missing field `topic`") "qos" (.string "missing field `topic`") ∧
      ¬Misleads (wordyTrigger "missing field `topic`") ((Value.string "missing field `topic`").shown .json) ∧
      conformance Trigger.schema ((Path.mk "triggers" []).index 0) (.object (wordyTrigger "missing field `topic`")) =
        [.schema "triggers[0].qos" "invalid type: string \"missing field `topic`\", expected u32"] := by
  have hkeys : ((wordyTrigger "missing field `topic`").map (·.1)).Nodup := by decide
  have hreject : Trigger.schema.decode .direct (.object (wordyTrigger "missing field `topic`")) =
      .error (.wrongType (.string "missing field `topic`") "u32") := rfl
  have hheld : HeldOnce (wordyTrigger "missing field `topic`") "qos" (.string "missing field `topic`") :=
    heldOnce_wordyTrigger (by decide)
  have hnamed := (mistyped_field_is_named_iff modelled_trigger hkeys hreject rfl hheld fun _ => nofun).1
    ((Path.mk "triggers" []).index 0)
  refine ⟨modelled_trigger, hkeys, hreject, hheld, not_misleads_topic, hnamed.2 ?_⟩
  rintro s hs
  cases hs
  exact not_misleads_topic

/-- A text that holds the end of a message hides its field, though the field is at fault and no other one holds
the text; and texts that read like other messages send the reader to fields that are healthy or not there. -/
theorem mistyped_field_is_not_named :
    Modelled Trigger.schema ∧ Trigger.schema.decode .direct (.object (wordyTrigger "high, expected low")) =
        .error (.wrongType (.string "high, expected low") "u32") ∧
      Trigger.schema.Faulty (wordyTrigger "high, expected low") "qos"
        (.wrongType (.string "high, expected low") "u32") ∧
      HeldOnce (wordyTrigger "high, expected low") "qos" (.string "high, expected low") ∧
      Structure.check (documentOn (wordyTrigger "high, expected low")) =
        .error [.schema "triggers[0]" "invalid type: string \"high, expected low\", expected u32"] ∧
      Structure.check (documentOn (wordyTrigger "missing field `ghost`")) =
        .error [.schema "triggers[0].ghost" "invalid type: string \"missing field `ghost`\", expected u32"] ∧
      Structure.check (documentOn (wordyTrigger "unknown variant `t`")) =
        .error [.schema "triggers[0].topic" "invalid type: string \"unknown variant `t`\", expected u32"] := by
  refine ⟨modelled_trigger, rfl, ?_, heldOnce_wordyTrigger (by decide), rfl, rfl, rfl⟩
  exact Or.inr (Or.inr (Or.inr (Or.inl ⟨rfl, rfl⟩)))

end Structure

end FlowCheck
