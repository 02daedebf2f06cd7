import FlowCheck.Proofs.Schema.Faults
import FlowCheck.Proofs.Schema.Texts
import FlowCheck.Proofs.Text.Digits

/-!
# What mismatches are made of

The words of a schema are the names of its structures, fields, members and choices (`Schema.words`).  A mismatch is
*worded* if it names words of the schema and texts of the tree only, and what it expects is made of letters, digits,
blanks and words (`Mismatch.Worded`).  Each mismatch with a schema is (`Schema.worded_of_decode`).
-/

namespace FlowCheck

variable {α ρ σ : Type} {route : Route} {m : Mismatch} {lexicon sources : List String}

/-! ### Words -/

/-- Letters, digits, blanks and the characters of words. -/
def IsPhrase (lexicon : List String) (s : String) : Prop :=
  ∀ c ∈ s.toList, c.isAlphanum = true ∨ c = ' ' ∨ ∃ word ∈ lexicon, c ∈ word.toList

theorem isPhrase_of_all {s : String} (h : s.toList.all (fun c => c.isAlphanum || c == ' ') = true) :
    IsPhrase lexicon s := by
  intro c hc
  rcases Bool.or_eq_true_iff.1 (List.all_eq_true.1 h c hc) with halpha | hblank
  · exact .inl halpha
  · exact .inr (.inl (eq_of_beq hblank))

theorem isPhrase_of_mem {word : String} (h : word ∈ lexicon) : IsPhrase lexicon word :=
  fun _ hc => .inr (.inr ⟨word, h, hc⟩)

theorem isPhrase_append {s t : String} : IsPhrase lexicon (s ++ t) ↔ IsPhrase lexicon s ∧ IsPhrase lexicon t := by
  simp only [IsPhrase, String.toList_append, List.forall_mem_append]

theorem isPhrase_toString (n : Nat) : IsPhrase lexicon (toString n) := by
  intro c hc
  have hmem : c ∈ Nat.toDigits 10 n := by simpa [toString, Nat.repr] using hc
  have hdigit : c.isDigit = true := isDigit_of_mem_decimal hmem
  exact .inl (by simp [Char.isAlphanum, hdigit])

/-- The names that are read as a choice. -/
def Choices.words (choices : Choices α) : List String :=
  choices.values.flatMap fun a => choices.name a :: choices.aliases a

mutual

/-- The names of the structures, fields, members and choices in a schema. -/
@[simp] def Schema.words : {α : Type} → Schema α → List String
  | _, .string | _, .bool | _, .unsigned _ | _, .number | _, .date | _, .texts | _, .free => []
  | _, .choice choices => choices.words
  | _, .list element => element.words
  | _, .record record => record.words
  | _, .tagged name variants _ _ _ _ => name :: tagField :: variants.words

@[simp] def Record.words : {α : Type} → Record α → List String
  | _, .of name fields _ _ _ _ => name :: fields.words

@[simp] def Field.words : {α : Type} → Field α → List String
  | _, .required name schema | _, .optional name schema | _, .defaulted name schema _ _ _ => name :: schema.words

@[simp] def Fields.words : {ρ : Type} → Fields ρ → List String
  | _, .nil => []
  | _, .cons field rest => field.words ++ rest.words

@[simp] def Variants.words : {σ : Type} → Variants σ → List String
  | _, .nil => []
  | _, .cons tag aliases record rest => tag :: aliases ++ (record.words ++ rest.words)

end

/-- Beside parts of the document that it shows, the mismatch names words and sources only. -/
def Mismatch.Worded (lexicon sources : List String) : Mismatch → Prop
  | .missingField name => name ∈ lexicon
  | .unknownVariant found names => found ∈ sources ∧ names ⊆ lexicon
  | .wrongType _ expected | .wrongValue _ expected | .wrongLength _ expected => IsPhrase lexicon expected
  | .badDate _ => True

/-! ### Failures -/

section Failures

variable {ε β : Type} {e : ε}

theorem bind_eq_error {x : Except ε α} {f : α → Except ε β} :
    (x >>= f) = .error e ↔ x = .error e ∨ ∃ a, x = .ok a ∧ f a = .error e := by
  cases x <;> simp [bind, Except.bind]

theorem map_eq_error {x : Except ε α} {f : α → β} : x.map f = .error e ↔ x = .error e := by
  cases x <;> simp [Except.map]

theorem exists_of_mapM_eq_error {f : α → Except ε β} {as : List α} (h : as.mapM f = .error e) :
    ∃ a ∈ as, f a = .error e := by
  induction as with
  | nil => cases h
  | cons a as ih =>
    rw [List.mapM_cons] at h
    rcases bind_eq_error.1 h with ha | ⟨b, -, h⟩
    · exact ⟨a, List.mem_cons_self, ha⟩
    · rcases bind_eq_error.1 h with has | ⟨bs, -, h⟩
      · obtain ⟨a', hmem, ha'⟩ := ih has
        exact ⟨a', List.mem_cons_of_mem _ hmem, ha'⟩
      · cases h

end Failures

/-! ### Mismatches with choices, integers, texts and lists -/

theorem Choices.names_subset_words (choices : Choices α) : choices.names ⊆ choices.words := by
  intro name hname
  obtain ⟨a, ha, hmem⟩ := List.mem_flatMap.1 hname
  exact List.mem_flatMap.2 ⟨a, ha, List.mem_mergeSort.1 hmem⟩

theorem Variants.tags_subset_words : {σ : Type} → (variants : Variants σ) → variants.tags ⊆ variants.words
  | _, .nil => List.nil_subset _
  | _, .cons own aliases record rest => by
    intro tag h
    rw [Variants.words, List.mem_append, List.mem_append]
    rcases List.mem_append.1 h with h | h
    · exact .inl (List.mem_mergeSort.1 h)
    · exact .inr (.inr (Variants.tags_subset_words rest h))

theorem Choices.worded_of_decode {choices : Choices α} (hwords : choices.words ⊆ lexicon) {v : Value}
    (hv : v.texts ⊆ sources) (h : choices.decode route v = .error m) : m.Worded lexicon sources := by
  have hread : ∀ name ∈ sources, choices.read name = .error m → m.Worded lexicon sources := by
    intro name hname h
    unfold Choices.read at h
    split at h
    · cases h
    · cases h
      exact ⟨hname, List.Subset.trans choices.names_subset_words hwords⟩
  unfold Choices.decode at h
  split at h
  · exact hread _ (hv List.mem_cons_self) h
  · rcases bind_eq_error.1 h with h | ⟨a, -, h⟩
    · exact hread _ (hv List.mem_cons_self) h
    · split at h
      · cases h
      · cases h
        exact isPhrase_of_all (s := "unit") (by decide)
  · cases h
    exact isPhrase_of_all (s := "map with a single key") (by decide)
  · cases h
    exact isPhrase_of_all (s := "string or map") (by decide)

theorem Width.worded_of_decode {w : Width} {v : Value} (h : w.decode v = .error m) : m.Worded lexicon sources := by
  have hname : IsPhrase lexicon w.name := isPhrase_of_all (by cases w <;> decide)
  unfold Width.decode at h
  split at h
  · split at h
    · cases h
    · cases h
      exact hname
  · cases h
    exact hname

theorem worded_of_decodeTexts {entries : List (String × Value)} (h : decodeTexts entries = .error m) :
    m.Worded lexicon sources := by
  induction entries with
  | nil => cases h
  | cons entry entries ih =>
    obtain ⟨key, v⟩ := entry
    cases v with
    | string s =>
      rcases bind_eq_error.1 h with h | ⟨texts, -, h⟩
      · exact ih h
      · cases h
    | _ =>
      cases h
      exact isPhrase_of_all (s := "a string") (by decide)

theorem isPhrase_elements (count : Nat) : IsPhrase lexicon (elements count) := by
  unfold elements
  split
  · exact isPhrase_of_all (by decide)
  · exact isPhrase_append.2 ⟨isPhrase_toString count, isPhrase_of_all (by decide)⟩

theorem worded_of_surplus {count length : Nat} (h : surplus? route count length = some m) :
    m.Worded lexicon sources := by
  cases route with
  | direct =>
    cases h
    exact isPhrase_of_all (s := "fewer elements in array") (by decide)
  | buffered =>
    cases h
    exact isPhrase_append.2 ⟨isPhrase_elements count, isPhrase_of_all (by decide)⟩
  | configuration => cases h

/-- A field that cannot be read from a list is not in it, or is not read from its element. -/
theorem Field.decodeItem_eq_error {expected : String} {index : Nat} {field : Field α} {items : List Value}
    (h : field.decodeItem route expected index items = .error m) :
    m = .wrongLength index expected ∨ field.read route items.head? = .error m := by
  cases field with
  | required name schema =>
    cases items with
    | nil =>
      cases h
      exact Or.inl rfl
    | cons v items =>
      rcases bind_eq_error.1 h with h | ⟨a, -, h⟩
      · exact Or.inr h
      · cases h
  | optional name schema =>
    cases items with
    | nil => cases h
    | cons v items =>
      refine Or.inr ?_
      cases v with
      | null => cases h
      | _ =>
        rcases bind_eq_error.1 h with h | ⟨a, -, h⟩
        · exact map_eq_error.2 h
        · cases h
  | defaulted name schema default omitted eq_default =>
    cases items with
    | nil => cases h
    | cons v items =>
      rcases bind_eq_error.1 h with h | ⟨a, -, h⟩
      · exact Or.inr h
      · cases h

/-! ### Mismatches with schemas -/

mutual

/-- A mismatch names words of the schema and texts of the tree only. -/
theorem Schema.worded_of_decode {route : Route} : {α : Type} → (schema : Schema α) → schema.words ⊆ lexicon →
    {v : Value} → v.texts ⊆ sources → {m : Mismatch} → schema.decode route v = .error m → m.Worded lexicon sources
  | _, .string, _, v, _, _, h => by
    cases v <;> cases h
    all_goals exact isPhrase_of_all (s := "a string") (by decide)
  | _, .bool, _, v, _, _, h => by
    cases v <;> cases h
    all_goals exact isPhrase_of_all (s := "a boolean") (by decide)
  | _, .number, _, v, _, _, h => by
    cases v <;> cases h
    all_goals exact isPhrase_of_all (s := "f64") (by decide)
  | _, .date, _, v, _, _, h => by
    cases v with
    | string s =>
      simp only [Schema.decode] at h
      cases hread : Instant.read s with
      | ok t => simp [hread, Except.mapError] at h
      | error fault =>
        simp only [hread, Except.mapError, Except.error.injEq] at h
        subst h
        trivial
    | _ =>
      cases h
      exact isPhrase_of_all (s := "an RFC 3339 formatted date and time string") (by decide)
  | _, .texts, _, v, _, _, h => by
    cases v with
    | object entries => exact worded_of_decodeTexts h
    | _ =>
      cases h
      exact isPhrase_of_all (s := "a map") (by decide)
  | _, .unsigned w, _, _, _, _, h => Width.worded_of_decode h
  | _, .free, _, _, _, _, h => nomatch h
  | _, .choice choices, hwords, _, hv, _, h => Choices.worded_of_decode hwords hv h
  | _, .list element, hwords, v, hv, _, h => by
    cases v with
    | list items =>
      obtain ⟨item, hmem, hitem⟩ := exists_of_mapM_eq_error h
      exact Schema.worded_of_decode element hwords (List.Subset.trans (Value.texts_subset_of_mem hmem) hv) hitem
    | _ =>
      cases h
      exact isPhrase_of_all (s := "a sequence") (by decide)
  | _, .record record, hwords, _, hv, _, h => Record.worded_of_decode record hwords hv h
  | _, .tagged name variants build _ _ _, hwords, v, hv, m, h => by
    obtain ⟨hname, hrest⟩ := List.cons_subset.1 hwords
    obtain ⟨hmissing, hvariants⟩ := List.cons_subset.1 hrest
    -- Mappings and lists differ in where the tag stands and what is left for the member, not in what is done with them.
    have hmember : ∀ {tag content : Value}, v.tagged? = some (tag, content) → (match tag with
        | .string tag =>
          match variants.decode? tag content with
          | some result => result.map build
          | none => throw (.unknownVariant tag variants.tags)
        | tag => throw (.wrongType tag "variant identifier") : Except Mismatch _) = .error m →
          m.Worded lexicon sources := by
      intro tag content htagged h
      obtain ⟨htag, hcontent⟩ := Value.texts_subset_of_tagged htagged
      split at h
      · split at h
        · rename_i result hresult
          obtain rfl := map_eq_error.1 h
          exact Variants.worded_of_decode? variants hvariants (List.Subset.trans hcontent hv) hresult
        · cases h
          exact ⟨hv (htag List.mem_cons_self), List.Subset.trans (Variants.tags_subset_words variants) hvariants⟩
      · cases h
        exact isPhrase_of_all (s := "variant identifier") (by decide)
    cases v with
    | object entries =>
      simp only [Schema.decode] at h
      cases htag : entries.lookup tagField with
      | none =>
        rw [htag] at h
        cases h
        exact hmissing
      | some tag =>
        rw [htag] at h
        exact hmember (by rw [Value.tagged?, htag, Option.map_some]) h
    | list items =>
      cases items with
      | nil =>
        cases h
        exact hmissing
      | cons tag items => exact hmember rfl h
    | _ =>
      cases h
      exact isPhrase_append.2 ⟨isPhrase_of_all (by decide), isPhrase_of_mem hname⟩

theorem Record.worded_of_decode {route : Route} : {α : Type} → (record : Record α) → record.words ⊆ lexicon →
    {v : Value} → v.texts ⊆ sources → {m : Mismatch} → record.decode route v = .error m → m.Worded lexicon sources
  | _, .of name fields build parts build_parts parts_build, hwords, v, hv, m, h => by
    obtain ⟨hname, hfields⟩ := List.cons_subset.1 hwords
    cases v with
    | object entries =>
      obtain ⟨field, hfaulty⟩ := Record.exists_faulty h
      exact Fields.worded_of_faulty fields hfields hv hfaulty
    | list items =>
      have hexpected : IsPhrase lexicon (s!"struct {name} with " ++ elements fields.count) :=
        isPhrase_append.2 ⟨isPhrase_append.2 ⟨isPhrase_append.2 ⟨isPhrase_of_all (by decide), isPhrase_of_mem hname⟩,
          isPhrase_of_all (by decide)⟩, isPhrase_elements _⟩
      have hitems : ∀ item ∈ items, item.texts ⊆ sources := fun item hitem =>
        List.Subset.trans (Value.texts_subset_of_mem hitem) hv
      rcases bind_eq_error.1 h with h | ⟨⟨row, rest⟩, -, h⟩
      · exact Fields.worded_of_decodeItems hexpected fields hfields hitems h
      · dsimp only at h
        split at h
        · cases h
        · split at h
          · cases h
            exact worded_of_surplus ‹_›
          · cases h
    | _ =>
      cases h
      exact isPhrase_append.2 ⟨isPhrase_of_all (by decide), isPhrase_of_mem hname⟩

theorem Field.worded_of_read {route : Route} : {α : Type} → (field : Field α) → field.words ⊆ lexicon →
    {slot : Option Value} → (∀ v ∈ slot, v.texts ⊆ sources) → {m : Mismatch} → field.read route slot = .error m →
    m.Worded lexicon sources
  | _, .required name schema, hwords, none, _, _, h => by
    cases h
    exact hwords List.mem_cons_self
  | _, .required name schema, hwords, some v, hv, _, h =>
    Schema.worded_of_decode schema (List.cons_subset.1 hwords).2 (hv v rfl) h
  | _, .optional name schema, _, none, _, _, h => nomatch h
  | _, .optional name schema, hwords, some v, hv, _, h => by
    cases v with
    | null => cases h
    | _ => exact Schema.worded_of_decode schema (List.cons_subset.1 hwords).2 (hv _ rfl) (map_eq_error.1 h)
  | _, .defaulted name schema _ _ _, _, none, _, _, h => nomatch h
  | _, .defaulted name schema _ _ _, hwords, some v, hv, _, h =>
    Schema.worded_of_decode schema (List.cons_subset.1 hwords).2 (hv v rfl) h

theorem Fields.worded_of_faulty {route : Route} : {ρ : Type} → (fields : Fields ρ) → fields.words ⊆ lexicon →
    {entries : List (String × Value)} → (Value.object entries).texts ⊆ sources → {name : String} → {m : Mismatch} →
    fields.Faulty route entries name m → m.Worded lexicon sources
  | _, .cons field rest, hwords, _, hv, _, _, h => by
    obtain ⟨hfield, hrest⟩ := List.append_subset.1 hwords
    rcases h with ⟨-, h⟩ | h
    · refine Field.worded_of_read field hfield (fun v hlookup => ?_) h
      exact List.Subset.trans (Value.texts_subset_of_lookup hlookup) hv
    · exact Fields.worded_of_faulty rest hrest hv h

theorem Fields.worded_of_decodeItems {route : Route} {expected : String} (hexpected : IsPhrase lexicon expected) :
    {ρ : Type} → (fields : Fields ρ) → fields.words ⊆ lexicon → {index : Nat} → {items : List Value} →
    (∀ item ∈ items, item.texts ⊆ sources) → {m : Mismatch} →
    fields.decodeItems route expected index items = .error m → m.Worded lexicon sources
  | _, .nil, _, _, _, _, _, h => nomatch h
  | _, .cons field rest, hwords, index, items, hitems, _, h => by
    obtain ⟨hfield, hrest⟩ := List.append_subset.1 hwords
    rcases bind_eq_error.1 h with h | ⟨⟨a, later⟩, hread, h⟩
    · rcases Field.decodeItem_eq_error h with rfl | h
      · exact hexpected
      · exact Field.worded_of_read field hfield (fun v hv => hitems v (List.mem_of_head? hv)) h
    · obtain ⟨-, rfl⟩ := Field.decodeItem_eq_ok.1 hread
      rcases bind_eq_error.1 h with h | ⟨⟨row, left⟩, -, h⟩
      · exact Fields.worded_of_decodeItems hexpected rest hrest
          (fun item hitem => hitems item (List.mem_of_mem_tail hitem)) h
      · cases h

theorem Variants.worded_of_decode? {tag : String} : {σ : Type} → (variants : Variants σ) →
    variants.words ⊆ lexicon → {content : Value} → content.texts ⊆ sources → {m : Mismatch} →
    variants.decode? tag content = some (.error m) → m.Worded lexicon sources
  | _, .nil, _, _, _, _, h => nomatch h
  | _, .cons own aliases record rest, hwords, _, hv, _, h => by
    obtain ⟨hrecord, hrest⟩ := List.append_subset.1 (List.append_subset.1 hwords).2
    rw [Variants.decode?] at h
    split at h
    · exact Record.worded_of_decode record hrecord hv (map_eq_error.1 (Option.some.inj h))
    · obtain ⟨result, hresult, hmap⟩ := Option.map_eq_some_iff.1 h
      obtain rfl := map_eq_error.1 hmap
      exact Variants.worded_of_decode? rest hrest hv hresult

end

end FlowCheck
