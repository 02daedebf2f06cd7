import FlowCheck.Proofs.Schema.Words

/-!
# Names in mismatches

The names in a schema are plain if none of them has a blank or a backtick (`Schema.Plain`).  What a mismatch says in
words of its own, beside the parts of the document that it keeps, is then without marks: names are plain, and what is
expected has no backtick (`Schema.plain_of_decode`).
-/

namespace FlowCheck

variable {α ρ σ : Type} {route : Route} {m : Mismatch}

/-- Neither a blank nor a backtick. -/
def IsPlain (name : String) : Prop :=
  ' ' ∉ name.toList ∧ '\x60' ∉ name.toList

instance (name : String) : Decidable (IsPlain name) :=
  inferInstanceAs (Decidable (_ ∧ _))

/-- Beside the document, a mismatch only shows plain names and texts without backticks. -/
def Mismatch.Plain : Mismatch → Prop
  | .missingField name => IsPlain name
  | .unknownVariant _ names => ∀ name ∈ names, IsPlain name
  | .wrongType _ expected | .wrongValue _ expected | .wrongLength _ expected => '\x60' ∉ expected.toList
  | .badDate _ => True

mutual

@[simp] def Schema.Plain : {α : Type} → Schema α → Prop
  | _, .choice choices => ∀ a ∈ choices.values, ∀ name ∈ choices.name a :: choices.aliases a, IsPlain name
  | _, .list element => element.Plain
  | _, .record record => record.Plain
  | _, .tagged name variants _ _ _ _ => IsPlain name ∧ variants.Plain
  | _, .string | _, .bool | _, .unsigned _ | _, .number | _, .date | _, .texts | _, .free => True

@[simp] def Record.Plain : {α : Type} → Record α → Prop
  | _, .of name fields _ _ _ _ => IsPlain name ∧ fields.Plain

@[simp] def Field.Plain : {α : Type} → Field α → Prop
  | _, .required name schema | _, .optional name schema | _, .defaulted name schema _ _ _ =>
    IsPlain name ∧ schema.Plain

@[simp] def Fields.Plain : {ρ : Type} → Fields ρ → Prop
  | _, .nil => True
  | _, .cons field rest => field.Plain ∧ rest.Plain

@[simp] def Variants.Plain : {σ : Type} → Variants σ → Prop
  | _, .nil => True
  | _, .cons tag aliases record rest => (∀ name ∈ tag :: aliases, IsPlain name) ∧ record.Plain ∧ rest.Plain

end

/-! ### Plain words -/

mutual

theorem Schema.plain_words : {α : Type} → (schema : Schema α) → schema.Plain → ∀ word ∈ schema.words, IsPlain word
  | _, .choice _, h, word, hword => by
    obtain ⟨a, ha, hmem⟩ := List.mem_flatMap.1 hword
    exact h a ha word hmem
  | _, .list element, h, word, hword => Schema.plain_words element h word hword
  | _, .record record, h, word, hword => Record.plain_words record h word hword
  | _, .tagged name variants _ _ _ _, h, word, hword => by
    have htag : IsPlain tagField := by decide
    exact List.forall_mem_cons.2 ⟨h.1, List.forall_mem_cons.2 ⟨htag, Variants.plain_words variants h.2⟩⟩ word hword

theorem Record.plain_words : {α : Type} → (record : Record α) → record.Plain → ∀ word ∈ record.words, IsPlain word
  | _, .of _ fields _ _ _ _, h => List.forall_mem_cons.2 ⟨h.1, Fields.plain_words fields h.2⟩

theorem Field.plain_words : {α : Type} → (field : Field α) → field.Plain → ∀ word ∈ field.words, IsPlain word
  | _, .required _ schema, h | _, .optional _ schema, h | _, .defaulted _ schema _ _ _, h =>
    List.forall_mem_cons.2 ⟨h.1, Schema.plain_words schema h.2⟩

theorem Fields.plain_words : {ρ : Type} → (fields : Fields ρ) → fields.Plain → ∀ word ∈ fields.words, IsPlain word
  | _, .nil, _ => List.forall_mem_nil _
  | _, .cons field rest, h => List.forall_mem_append.2 ⟨Field.plain_words field h.1, Fields.plain_words rest h.2⟩

theorem Variants.plain_words : {σ : Type} → (variants : Variants σ) → variants.Plain →
    ∀ word ∈ variants.words, IsPlain word
  | _, .nil, _ => List.forall_mem_nil _
  | _, .cons _ _ record rest, h =>
    List.forall_mem_append.2
      ⟨h.1, List.forall_mem_append.2 ⟨Record.plain_words record h.2.1, Variants.plain_words rest h.2.2⟩⟩

end

/-- A phrase of plain words has no backtick. -/
theorem IsPhrase.backtick_notMem {words : List String} {s : String} (h : IsPhrase words s)
    (hplain : ∀ word ∈ words, IsPlain word) : '\x60' ∉ s.toList := by
  intro hmem
  rcases h _ hmem with halpha | hblank | ⟨word, hword, hchar⟩
  · cases halpha
  · cases hblank
  · exact (hplain word hword).2 hchar

theorem Mismatch.Worded.plain {words sources : List String} (h : m.Worded words sources)
    (hplain : ∀ word ∈ words, IsPlain word) : m.Plain := by
  cases m with
  | missingField name => exact hplain name h
  | unknownVariant found names => exact fun name hname => hplain name (h.2 hname)
  | wrongType found expected | wrongValue found expected | wrongLength length expected =>
    exact IsPhrase.backtick_notMem h hplain
  | badDate fault => trivial

/-- A mismatch with a schema of plain names is plain. -/
theorem Schema.plain_of_decode (schema : Schema α) (hplain : schema.Plain) {v : Value}
    (h : schema.decode route v = .error m) : m.Plain :=
  (Schema.worded_of_decode schema (List.Subset.refl _) (List.Subset.refl _) h).plain (schema.plain_words hplain)

theorem backtick_notMem_toString (count : Nat) : '\x60' ∉ (toString count).toList := by
  simpa [toString, Nat.repr] using notMem_decimal (c := '\x60') rfl count

end FlowCheck
