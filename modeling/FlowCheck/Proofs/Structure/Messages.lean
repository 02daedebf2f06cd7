import FlowCheck.Proofs.Schema.Names
import FlowCheck.Proofs.Text.Shown
import FlowCheck.Structure.Blame
import Mathlib.Data.List.TakeWhile

/-!
# What messages tell

The field to blame is searched in the text of a message.  If no part of the document in the message reads like the
beginning of another message (`Mismatch.Unmarked`), the search finds again what the mismatch was about, and a field is
blamed only if it fits (`Structure.fits_of_blamedField`): a missing field of the name, a field that holds the unknown
name, or the only field that is shown like the value.
-/

namespace FlowCheck

variable {fields : List (String × Value)} {m : Mismatch} {found : Value} {names : List String}
  {w : List Char} {k name : String}

/-! ### Marks in messages -/

/-- What messages about a missing field and about an unknown name begin with, up to the backtick. -/
def openings : List (List Char) :=
  ["missing field ".toList, "unknown variant ".toList]

/-- What a message shows of the document, with the backtick that ends a name. -/
def Mismatch.excerpt : Mismatch → List Char
  | .unknownVariant found _ => found.toList ++ ['\x60']
  | .wrongType found _ | .wrongValue found _ => (found.shown .json).toList
  | .missingField _ | .wrongLength _ _ | .badDate _ => []

/-- No part of the document that the message shows reads like another message. -/
def Mismatch.Unmarked (m : Mismatch) : Prop :=
  ∀ w ∈ openings, ¬w ++ ['\x60'] <:+: m.excerpt

instance (m : Mismatch) : Decidable m.Unmarked :=
  inferInstanceAs (Decidable (∀ w ∈ openings, ¬w ++ ['\x60'] <:+: m.excerpt))

private theorem backtick_notMem : ∀ w ∈ openings, '\x60' ∉ w := by
  decide

private theorem blank_mem : ∀ w ∈ openings, ' ' ∈ w := by
  decide

theorem not_isInfix_segment (hw : w ∈ openings) {p rest : List Char} (hp : '\x60' ∉ p) (hsuffix : ¬w <:+ p)
    (hrest : ¬w ++ ['\x60'] <:+: rest) : ¬w ++ ['\x60'] <:+: p ++ '\x60' :: rest :=
  Text.not_isInfix_append_cons (backtick_notMem w hw) (fun h => hsuffix (Text.isSuffix_of_isInfix_concat hp h)) hrest

theorem not_isInfix_name (hw : w ∈ openings) (hname : IsPlain name) {rest : List Char}
    (hrest : ¬w ++ ['\x60'] <:+: rest) : ¬w ++ ['\x60'] <:+: name.toList ++ '\x60' :: rest :=
  not_isInfix_segment hw hname.2 (fun h => hname.1 (h.subset (blank_mem w hw))) hrest

private theorem toList_backticked (name : String) : s!"`{name}`".toList = '\x60' :: (name.toList ++ ['\x60']) := by
  change ("`" ++ name ++ "`").toList = _
  simp

theorem not_isInfix_names (hw : w ∈ openings) (hplain : ∀ name ∈ names, IsPlain name) {p : List Char}
    (hp : '\x60' ∉ p) (hsuffix : ¬w <:+ p) :
    ¬w ++ ['\x60'] <:+: p ++ (", ".intercalate (names.map fun name => s!"`{name}`")).toList := by
  induction names generalizing p with
  | nil => exact Text.not_isInfix_of_notMem (by simpa using hp)
  | cons name names ih =>
    obtain ⟨hname, hnames⟩ := List.forall_mem_cons.1 hplain
    have hnil : ¬w ++ ['\x60'] <:+: [] := Text.not_isInfix_of_notMem List.not_mem_nil
    cases names with
    | nil =>
      have hone := not_isInfix_segment hw hp hsuffix (not_isInfix_name hw hname hnil)
      rwa [List.map_singleton, String.intercalate_singleton, toList_backticked]
    | cons other names =>
      have hcomma : ∀ w ∈ openings, ¬w <:+ ", ".toList := by decide
      have hrest := ih hnames (p := ", ".toList) (by decide) (hcomma w hw)
      have hmore := not_isInfix_segment hw hp hsuffix (not_isInfix_name hw hname hrest)
      rw [List.map_cons, List.map_cons, String.intercalate_cons_cons, String.toList_append, String.toList_append,
        toList_backticked, ← List.map_cons (f := fun name => s!"`{name}`")]
      simpa using hmore

/-- The names that were expected begin no other message. -/
theorem not_isInfix_alternatives (hw : w ∈ openings) (hplain : ∀ name ∈ names, IsPlain name) :
    ¬w ++ ['\x60'] <:+: (", " ++ Mismatch.alternatives names).toList := by
  have hexpected : ∀ w ∈ openings, ¬w <:+ ", expected ".toList := by decide
  have hor : ∀ w ∈ openings, ¬w <:+ " or ".toList := by decide
  have hone : ∀ w ∈ openings, ¬w <:+ ", expected one of ".toList := by decide
  have hnil : ¬w ++ ['\x60'] <:+: [] := Text.not_isInfix_of_notMem List.not_mem_nil
  match names, hplain with
  | [], _ => exact Text.not_isInfix_of_notMem (by decide)
  | [a], hplain =>
    have ha := not_isInfix_name hw (hplain a (by simp)) hnil
    have h := not_isInfix_segment hw (by decide) (hexpected w hw) ha
    change ¬_ <:+: (", " ++ ("expected `" ++ a ++ "`")).toList
    simpa using h
  | [a, b], hplain =>
    have hb := not_isInfix_name hw (hplain b (by simp)) hnil
    have ha := not_isInfix_name hw (hplain a (by simp)) (not_isInfix_segment hw (by decide) (hor w hw) hb)
    have h := not_isInfix_segment hw (by decide) (hexpected w hw) ha
    change ¬_ <:+: (", " ++ ("expected `" ++ a ++ "` or `" ++ b ++ "`")).toList
    simpa using h
  | a :: b :: c :: rest, hplain =>
    have h := not_isInfix_names hw hplain (by decide) (hone w hw)
    rw [← String.toList_append] at h
    exact h

/-! ### Reading messages -/

namespace Structure

theorem backticked_eq_none {mark : String} {message : List Char} (hmark : mark.toList ≠ [])
    (h : ¬mark.toList <:+: message) : backticked mark message = none := by
  rw [backticked, (Text.splitAt?_eq_none_iff hmark).2 h]
  rfl

theorem backticked_append (mark : String) (cs rest : List Char) :
    backticked mark (mark.toList ++ (cs ++ '\x60' :: rest)) = some (String.ofList (cs.takeWhile (· != '\x60'))) := by
  rw [backticked, Text.splitAt?_append, Option.bind_some]
  have hname := Text.splitAt?_singleton_map '\x60' cs rest
  obtain ⟨parts, hparts, hfst⟩ := Option.map_eq_some_iff.1 hname
  rw [hparts, Option.map_some, hfst]

variable {s expected opening : String} {length : Nat} {fault : Instant.Fault}

theorem toList_missingField (name : String) :
    (Mismatch.missingField name).message.toList = "missing field `".toList ++ (name.toList ++ ['\x60']) := by
  change ("missing field `" ++ name ++ "`").toList = _
  simp

theorem toList_unknownVariant (s : String) (names : List String) :
    (Mismatch.unknownVariant s names).message.toList =
      "unknown variant `".toList ++ (s.toList ++ '\x60' :: (", " ++ Mismatch.alternatives names).toList) := by
  change ("unknown variant `" ++ s ++ "`, " ++ Mismatch.alternatives names).toList = _
  simp

/-- A message about a wrong type or a wrong value. -/
def wrong (opening : String) (found : Value) (expected : String) : List Char :=
  opening.toList ++ ((found.shown .json).toList ++ (", expected".toList ++ (" " ++ expected).toList))

private theorem toList_opening (opening : String) (found : Value) (expected : String) :
    (opening ++ found.shown .json ++ ", expected " ++ expected).toList = wrong opening found expected := by
  have hcut : ", expected ".toList = ", expected".toList ++ " ".toList := rfl
  simp only [wrong, String.toList_append, hcut, List.append_assoc]

theorem toList_wrongType (found : Value) (expected : String) :
    (Mismatch.wrongType found expected).message.toList = wrong "invalid type: " found expected :=
  toList_opening "invalid type: " found expected

theorem toList_wrongValue (found : Value) (expected : String) :
    (Mismatch.wrongValue found expected).message.toList = wrong "invalid value: " found expected :=
  toList_opening "invalid value: " found expected

theorem not_isInfix_wrong (hopening : opening ∈ ["invalid type: ", "invalid value: "]) (hw : w ∈ openings)
    (hfound : ¬w ++ ['\x60'] <:+: (found.shown .json).toList) (hexpected : '\x60' ∉ expected.toList) :
    ¬w ++ ['\x60'] <:+: wrong opening found expected := by
  have htail : '\x60' ∉ ", expected".toList ++ (" " ++ expected).toList := by
    simpa using hexpected
  intro h
  rw [wrong, ← List.append_assoc] at h
  have hhead := Text.isInfix_of_isInfix_append htail h
  simp only [openings, List.mem_cons, List.not_mem_nil, or_false] at hopening hw
  rcases hopening with rfl | rfl <;> rcases hw with rfl | rfl
  all_goals exact hfound (by simpa [List.infix_cons_iff, List.cons_prefix_cons] using hhead)

theorem not_isInfix_unknownVariant (hs : ¬"missing field `".toList <:+: s.toList ++ ['\x60'])
    (hplain : ∀ name ∈ names, IsPlain name) :
    ¬"missing field `".toList <:+: (Mismatch.unknownVariant s names).message.toList := by
  have hopening : "missing field ".toList ∈ openings := .head _
  have hrest := Text.not_isInfix_append_cons (backtick_notMem _ hopening) hs (not_isInfix_alternatives hopening hplain)
  rw [toList_unknownVariant]
  simpa [List.infix_cons_iff, List.cons_prefix_cons] using hrest

/-! ### Fields that fit -/

/-- The name that a message calls unknown, as it is read from the message. -/
def toldName (s : String) : String :=
  String.ofList (s.toList.takeWhile (· != '\x60'))

end Structure

/-- The field with the name fits what the message says; a tag comes before all other fields. -/
def Mismatch.Fits (fields : List (String × Value)) (k : String) : Mismatch → Prop
  | .missingField name => name = k ∧ fields.lookup k = none
  | .unknownVariant s _ =>
    (k, .string (Structure.toldName s)) ∈ fields ∧
      (fields.lookup tagField = some (.string (Structure.toldName s)) → k = tagField)
  | .wrongType found _ | .wrongValue found _ =>
    ∃ v, fields.filter (fun field => field.2.shown .pointed == found.shown .json) = [(k, v)]
  | .wrongLength _ _ | .badDate _ => False

namespace Structure

theorem fits_of_missingField (hplain : IsPlain name)
    (h : blamedField (.object fields) (Mismatch.missingField name).message = some k) :
    (Mismatch.missingField name).Fits fields k := by
  have hname : name.toList.takeWhile (· != '\x60') = name.toList :=
    List.takeWhile_eq_self_iff.2 fun c hc => bne_iff_ne.2 fun heq => hplain.2 (heq ▸ hc)
  have hmissing : backticked "missing field `" (Mismatch.missingField name).message.toList = some name := by
    rw [toList_missingField, backticked_append, hname, String.ofList_toList]
  have hunknown : backticked "unknown variant `" (Mismatch.missingField name).message.toList = none := by
    have hopening : "unknown variant ".toList ∈ openings := .tail _ (.head _)
    have hrest := not_isInfix_name hopening hplain (Text.not_isInfix_of_notMem List.not_mem_nil)
    refine backticked_eq_none (by decide) ?_
    rw [toList_missingField]
    simpa [List.infix_cons_iff, List.cons_prefix_cons] using hrest
  have hmistyped : mistypedField fields (Mismatch.missingField name).message.toList = none := by
    rw [toList_missingField]
    rfl
  rw [blamedField, missingField, unknownName, hmissing, hunknown, hmistyped, Option.bind_some] at h
  cases hlookup : fields.lookup name with
  | none =>
    rw [hlookup] at h
    cases h
    exact ⟨rfl, hlookup⟩
  | some v =>
    rw [hlookup] at h
    cases h

theorem asString?_beq_iff {v : Value} : (v.asString? == some s) = true ↔ v = .string s := by
  cases v <;> simp [Value.asString?]

/-- Only a field that holds the name is blamed for it. -/
theorem fits_of_unknownVariant (hs : ¬"missing field `".toList <:+: s.toList ++ ['\x60'])
    (hplain : ∀ name ∈ names, IsPlain name)
    (h : blamedField (.object fields) (Mismatch.unknownVariant s names).message = some k) :
    (Mismatch.unknownVariant s names).Fits fields k := by
  have hmissing : backticked "missing field `" (Mismatch.unknownVariant s names).message.toList = none :=
    backticked_eq_none (by decide) (not_isInfix_unknownVariant hs hplain)
  have hunknown : backticked "unknown variant `" (Mismatch.unknownVariant s names).message.toList =
      some (toldName s) := by
    rw [toList_unknownVariant, backticked_append, toldName]
  have hmistyped : mistypedField fields (Mismatch.unknownVariant s names).message.toList = none := by
    rw [toList_unknownVariant]
    rfl
  rw [blamedField, missingField, unknownName, hmissing, hunknown, hmistyped] at h
  simp only [Option.bind_none, Option.none_or, Option.bind_some, Option.or_none] at h
  split at h
  · rename_i htype
    cases h
    obtain ⟨v, hlookup, hv⟩ := (Option.any_eq_true ..).1 htype
    exact ⟨Entries.mem_of_lookup (hlookup.trans (congrArg some (asString?_beq_iff.1 hv))), fun _ => rfl⟩
  · rename_i htype
    obtain ⟨field, hfind, rfl⟩ := Option.map_eq_some_iff.1 h
    have hheld := List.find?_some hfind
    refine ⟨?_, fun hlookup => absurd ?_ htype⟩
    · rw [← asString?_beq_iff.1 hheld]
      exact List.mem_of_find?_eq_some hfind
    · change (fields.lookup tagField).any _ = true
      rw [hlookup, Option.any_some]
      exact asString?_beq_iff.2 rfl

/-- In a message that opens like no other, the value that it shows is all there is to search for. -/
theorem blamedField_of_unmarked {message : String} (h : ∀ w ∈ openings, ¬w ++ ['\x60'] <:+: message.toList) :
    blamedField (.object fields) message = mistypedField fields message.toList := by
  have hmissing : backticked "missing field `" message.toList = none :=
    backticked_eq_none (by decide) (h _ (.head _))
  have hunknown : backticked "unknown variant `" message.toList = none :=
    backticked_eq_none (by decide) (h _ (.tail _ (.head _)))
  rw [blamedField, missingField, unknownName, hmissing, hunknown, Option.bind_none, Option.bind_none, Option.none_or,
    Option.none_or]

theorem shownValue_wrong (hopening : opening ∈ ["invalid type: ", "invalid value: "]) :
    shownValue (wrong opening found expected) =
      (Text.splitAt? ", expected".toList
        ((found.shown .json).toList ++ (", expected".toList ++ (" " ++ expected).toList))).map
        fun parts => String.ofList parts.1 := by
  simp only [List.mem_cons, List.not_mem_nil, or_false] at hopening
  rcases hopening with rfl | rfl <;> rfl

/-- The text that is cut out of the message is all that is shown of the value, if it is shown of any value at all. -/
theorem shown_eq_of_splitAt? {v : Value} {before after : List Char}
    (h : Text.splitAt? ", expected".toList
      ((found.shown .json).toList ++ (", expected".toList ++ (" " ++ expected).toList)) = some (before, after))
    (hv : (v.shown .pointed).toList = before) : v.shown .pointed = found.shown .json := by
  obtain ⟨rest, hrest⟩ := Text.isPrefix_of_splitAt? h
  cases rest with
  | nil => rw [← String.toList_inj, hv, ← hrest, List.append_nil]
  | cons c rest =>
    -- the cut is before a comma inside what is shown, so that this is a text
    have hcut := Text.append_of_splitAt? h
    rw [← hrest, List.append_assoc, List.append_assoc, List.append_cancel_left_eq] at hcut
    have hcomma : ',' ∈ (found.shown .json).toList := by
      rw [← hrest, ← (List.cons.inj hcut).1]
      exact List.mem_append_right before List.mem_cons_self
    cases found with
    | string s => exact Value.shown_eq_of_isPrefix_string ⟨c :: rest, by rw [hv, hrest]⟩
    | _ => exact absurd (Value.mem_shown hcomma fun _ => nofun) (by decide)

/-- A field is blamed for a value if it is the only one that is shown like the value, and what is shown is not
cut short. -/
theorem mistypedField_eq_some_iff (hopening : opening ∈ ["invalid type: ", "invalid value: "]) :
    mistypedField fields (wrong opening found expected) = some k ↔
      ¬", expected".toList <:+: (found.shown .json).toList ∧
        ∃ v, fields.filter (fun field => field.2.shown .pointed == found.shown .json) = [(k, v)] := by
  have hmark : ", expected".toList = ", expecte".toList ++ ['d'] := rfl
  rw [mistypedField, shownValue_wrong hopening]
  constructor
  · intro h
    obtain ⟨shown, hshown, h⟩ := Option.bind_eq_some_iff.1 h
    obtain ⟨⟨before, after⟩, hsplit, rfl⟩ := Option.map_eq_some_iff.1 hshown
    split at h
    · rename_i field hfilter
      cases h
      have hfield : field ∈ fields.filter fun field => field.2.shown .pointed == String.ofList before := by
        rw [hfilter]
        exact List.mem_singleton_self _
      have hbefore : field.2.shown .pointed = String.ofList before := beq_iff_eq.1 (List.mem_filter.1 hfield).2
      have htext : (String.ofList before).toList = before := String.toList_ofList
      have hall := shown_eq_of_splitAt? hsplit (by rw [hbefore, htext])
      rw [← hall, hbefore, htext]
      exact ⟨Text.not_isInfix_of_splitAt? (by decide) hsplit, field.2, hfilter⟩
    · cases h
  · rintro ⟨hwhole, v, hfilter⟩
    have hsplit : Text.splitAt? ", expected".toList
        ((found.shown .json).toList ++ (", expected".toList ++ (" " ++ expected).toList)) =
          some ((found.shown .json).toList, (" " ++ expected).toList) := by
      rw [hmark] at hwhole ⊢
      exact (Text.splitAt?_concat_eq_some_iff (by decide)).2 ⟨(List.append_assoc ..).symm, hwhole⟩
    rw [hsplit, Option.map_some, Option.bind_some, String.ofList_toList, hfilter]

theorem filter_of_wrong {message : String} (hopening : opening ∈ ["invalid type: ", "invalid value: "])
    (hmessage : message.toList = wrong opening found expected)
    (hfound : ∀ w ∈ openings, ¬w ++ ['\x60'] <:+: (found.shown .json).toList)
    (hexpected : '\x60' ∉ expected.toList) (h : blamedField (.object fields) message = some k) :
    ∃ v, fields.filter (fun field => field.2.shown .pointed == found.shown .json) = [(k, v)] := by
  have hunmarked : ∀ w ∈ openings, ¬w ++ ['\x60'] <:+: message.toList := by
    intro w hw
    rw [hmessage]
    exact not_isInfix_wrong hopening hw (hfound w hw) hexpected
  rw [blamedField_of_unmarked hunmarked, hmessage] at h
  exact ((mistypedField_eq_some_iff hopening).1 h).2

theorem blamedField_wrongLength (hexpected : '\x60' ∉ expected.toList) :
    blamedField (.object fields) (Mismatch.wrongLength length expected).message = none := by
  have hmessage : (Mismatch.wrongLength length expected).message.toList =
      "invalid length ".toList ++ ((toString length).toList ++ (", expected ".toList ++ expected.toList)) := by
    change ("invalid length " ++ toString length ++ ", expected " ++ expected).toList = _
    simp only [String.toList_append, List.append_assoc]
  have hbacktick : '\x60' ∉ (Mismatch.wrongLength length expected).message.toList := by
    simp only [hmessage, List.mem_append, not_or]
    exact ⟨by decide, backtick_notMem_toString length, by decide, hexpected⟩
  rw [blamedField_of_unmarked fun _ _ => Text.not_isInfix_of_notMem hbacktick, mistypedField, hmessage]
  rfl

theorem blamedField_badDate : blamedField (.object fields) (Mismatch.badDate fault).message = none := by
  cases fault <;> rfl

/-- A field is blamed only if it fits. -/
theorem fits_of_blamedField (hplain : m.Plain) (hunmarked : m.Unmarked)
    (h : blamedField (.object fields) m.message = some k) : m.Fits fields k := by
  cases m with
  | missingField name => exact fits_of_missingField hplain h
  | unknownVariant s names => exact fits_of_unknownVariant (hunmarked _ (.head _)) hplain h
  | wrongType found expected => exact filter_of_wrong (.head _) (toList_wrongType found expected) hunmarked hplain h
  | wrongValue found expected =>
    exact filter_of_wrong (.tail _ (.head _)) (toList_wrongValue found expected) hunmarked hplain h
  | wrongLength length expected =>
    rw [blamedField_wrongLength hplain] at h
    cases h
  | badDate fault =>
    rw [blamedField_badDate] at h
    cases h

end Structure

end FlowCheck
