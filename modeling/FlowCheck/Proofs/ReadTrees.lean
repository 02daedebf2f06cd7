import FlowCheck.Proofs.Schema.Slots
import FlowCheck.Proofs.SortedTrees
import FlowCheck.Reading

/-!
# Trees that are read are sorted

What a reader gives has a property if every way to give it does: `Yields` follows the structure of a reader, so that
each reader has one lemma.  Both encodings build mappings with `Value.ofFields`, which puts the keys in order, and all
else that they build is a scalar or a list; so the tree of a text is sorted (`Reading.sorted_decode`), and every flow
that is read comes from a sorted tree (`Reading.exists_sorted_of_flow`).
-/

namespace FlowCheck

/-! ### Results with a property -/

section Results

variable {ε α β : Type} {p : α → Prop} {q : β → Prop}

/-- The result, if there is one, has the property. -/
def Yields (p : α → Prop) (x : Except ε α) : Prop :=
  ∀ a, x = .ok a → p a

@[simp] theorem yields_ok {a : α} : Yields p (.ok a : Except ε α) ↔ p a :=
  ⟨fun h => h a rfl, fun h _ ha => Except.ok.inj ha ▸ h⟩

@[simp] theorem yields_error {e : ε} : Yields p (.error e : Except ε α) :=
  fun _ h => nomatch h

theorem Yields.bind {x : Except ε β} {f : β → Except ε α} (hx : Yields q x) (hf : ∀ b, q b → Yields p (f b)) :
    Yields p (x >>= f) := by
  cases x with
  | error e => exact yields_error
  | ok b => exact hf b (hx b rfl)

theorem Yields.map {x : Except ε β} {f : β → α} (hx : Yields q x) (hf : ∀ b, q b → p (f b)) :
    Yields p (x.map f) := by
  cases x with
  | error e => exact yields_error
  | ok b => exact yields_ok.2 (hf b (hx b rfl))

theorem yields_true (x : Except ε α) : Yields (fun _ => True) x :=
  fun _ _ => trivial

end Results

theorem Value.sorted_ofFields {fields : List (String × Value)} (h : ∀ field ∈ fields, field.2.Sorted) :
    (Value.ofFields fields).Sorted := by
  simp only [Value.ofFields, Value.Sorted]
  exact ⟨Entries.pairwise_ofList _, Value.sortedFields_iff.2 fun field hfield =>
    h field (Entries.mem_of_mem_ofList hfield)⟩

/-! ### JSON -/

namespace Json

/-- The reader gives sorted trees. -/
abbrev YieldsSorted (x : Except Failure (Value × List Char)) : Prop :=
  Yields (fun read => read.1.Sorted) x

private theorem toDouble_sorted (negative : Bool) (digits : Nat) (exponent : Int) (cs : List Char) :
    YieldsSorted (toDouble negative digits exponent cs) := by
  unfold toDouble
  split <;> simp [Value.Sorted, failBefore]

private theorem exponent_sorted (negative : Bool) (digits : Nat) (start : Int) (cs : List Char) :
    YieldsSorted (exponent negative digits start cs) := by
  unfold exponent
  repeat' split
  all_goals simp [Value.Sorted, failBefore, failAt, toDouble_sorted]

private theorem exponentOrEnd_sorted (negative : Bool) (digits : Nat) (start : Int) (cs : List Char) :
    YieldsSorted (exponentOrEnd negative digits start cs) := by
  unfold exponentOrEnd
  split
  · exact exponent_sorted _ _ _ _
  · exact toDouble_sorted _ _ _ _

private theorem fraction_sorted (negative : Bool) (digits : Nat) (start : Int) (cs : List Char) :
    YieldsSorted (fraction negative digits start cs) := by
  unfold fraction
  dsimp only
  split
  · exact exponentOrEnd_sorted _ _ _ _
  split
  · exact yields_error
  · exact exponentOrEnd_sorted _ _ _ _

private theorem integer_sorted (negative : Bool) (n : Nat) : (integer negative n).Sorted := by
  unfold integer
  repeat' split
  all_goals simp only [Value.Sorted]

private theorem number_sorted (negative : Bool) (cs : List Char) : YieldsSorted (number negative cs) := by
  unfold number
  dsimp only
  split
  · exact yields_error
  split
  · exact yields_error
  split
  · exact yields_error
  split
  · exact fraction_sorted _ _ _ _
  split
  · exact yields_ok.2 (integer_sorted _ _)
  · exact exponentOrEnd_sorted _ _ _ _

private theorem word_sorted {v : Value} (hv : v.Sorted) (expected cs : List Char) :
    YieldsSorted (word expected v cs) := by
  induction expected generalizing cs with
  | nil => exact yields_ok.2 hv
  | cons e expected ih =>
    cases cs with
    | nil => exact yields_error
    | cons c rest =>
      simp only [word]
      split
      · exact ih rest
      · exact yields_error

mutual

theorem value_sorted : (fuel depth : Nat) → (cs : List Char) → YieldsSorted (value fuel depth cs)
  | 0, _, _ => by
    unfold value
    exact yields_error
  | fuel + 1, depth, cs => by
    unfold value
    dsimp only
    -- the cases of the reader in their order: words, numbers, strings, lists and mappings
    split
    · exact yields_error
    split
    · exact word_sorted (by simp only [Value.Sorted]) _ _
    split
    · exact word_sorted (by simp only [Value.Sorted]) _ _
    split
    · exact word_sorted (by simp only [Value.Sorted]) _ _
    split
    · exact number_sorted _ _
    split
    · exact number_sorted _ _
    split
    · exact (yields_true _).map fun _ _ => trivial
    split
    · split
      · exact yields_error
      · exact (items_sorted fuel _ true _).map fun _ h => Value.sortedItems_iff.2 h
    split
    · split
      · exact yields_error
      · exact (fields_sorted fuel _ true _).map fun _ h => Value.sorted_ofFields h
    · exact yields_error

theorem items_sorted : (fuel depth : Nat) → (first : Bool) → (cs : List Char) →
    Yields (fun read => ∀ v ∈ read.1, v.Sorted) (items fuel depth first cs)
  | 0, _, _, _ => by
    unfold items
    exact yields_error
  | fuel + 1, depth, first, cs => by
    unfold items
    extract_lets element
    have helement : ∀ cs, Yields (fun read => ∀ v ∈ read.1, v.Sorted) (element cs) := fun cs =>
      (value_sorted fuel depth cs).bind fun _ hv => (items_sorted fuel depth false _).bind fun _ hvs =>
        yields_ok.2 (List.forall_mem_cons.2 ⟨hv, hvs⟩)
    split
    · exact yields_error
    · exact yields_ok.2 fun _ h => absurd h List.not_mem_nil
    · split
      · exact helement _
      split
      · split
        · exact yields_error
        · exact yields_error
        · exact helement _
      · exact yields_error

theorem fields_sorted : (fuel depth : Nat) → (first : Bool) → (cs : List Char) →
    Yields (fun read => ∀ field ∈ read.1, field.2.Sorted) (fields fuel depth first cs)
  | 0, _, _, _ => by
    unfold fields
    exact yields_error
  | fuel + 1, depth, first, cs => by
    unfold fields
    extract_lets entry
    have hentry : ∀ cs, Yields (fun read => ∀ field ∈ read.1, field.2.Sorted) (entry cs) := by
      intro cs
      refine (yields_true (stringRest cs)).bind ?_
      rintro ⟨key, rest⟩ -
      dsimp only
      split
      · exact yields_error
      · exact (value_sorted fuel depth _).bind fun _ hv => (fields_sorted fuel depth false _).bind fun _ hfs =>
          yields_ok.2 (List.forall_mem_cons.2 ⟨hv, hfs⟩)
      · exact yields_error
    split
    · exact yields_error
    · split
      · exact yields_ok.2 fun _ h => absurd h List.not_mem_nil
      split
      · split
        · exact hentry _
        · exact yields_error
      split
      · split
        · exact yields_error
        · split
          · exact hentry _
          · exact yields_error
      · exact yields_error

end

theorem sorted_read (text : String) : Yields Value.Sorted (Json.read text) := by
  have hdocument : Yields Value.Sorted (document text.toList) := by
    refine (value_sorted _ 127 text.toList).bind ?_
    rintro ⟨v, rest⟩ hv
    dsimp only
    split
    · exact yields_ok.2 hv
    · exact yields_error
  unfold Json.read
  cases h : document text.toList with
  | error failure => exact yields_error
  | ok v => exact yields_ok.2 (hdocument v h)

end Json

/-! ### YAML -/

namespace Yaml

private theorem wideInt_sorted (n : Int) : Yields Value.Sorted (wideInt n) := by
  unfold wideInt
  split <;> simp [Value.Sorted]

private theorem plainValue_sorted (text : String) : Yields Value.Sorted (plainValue text) := by
  unfold plainValue
  split <;> simp [Value.Sorted, wideInt_sorted]

private theorem taggedFloat_sorted (text : String) : Yields Value.Sorted (taggedFloat text) := by
  unfold taggedFloat
  dsimp only
  split
  · simp [Value.Sorted]
  · split <;> simp [Value.Sorted]

private theorem taggedValue_sorted (tag text : String) : Yields Value.Sorted (taggedValue tag text) := by
  unfold taggedValue
  repeat' split
  all_goals simp [Value.Sorted, wideInt_sorted, taggedFloat_sorted]

private theorem scalarValue_sorted (properties : Properties) (plain : Bool) (text : String) :
    Yields Value.Sorted (scalarValue properties plain text) := by
  refine (yields_true (checkTag properties)).bind fun _ _ => ?_
  split
  · exact taggedValue_sorted _ _
  · split
    · exact plainValue_sorted _
    · simp [pure, Except.pure, Value.Sorted]

section Follow

variable {α β : Type} {p : α → Prop} {q : β → Prop}

/-- What is read has the property, however many aliases may still be followed. -/
def Follows (p : α → Prop) (x : Follow α) : Prop :=
  ∀ left, Yields (fun read => p read.1) (x left)

theorem follows_pure {a : α} (h : p a) : Follows p (pure a) :=
  fun _ => yields_ok.2 h

theorem follows_throw (message : String) : Follows p (throw message) :=
  fun _ => yields_error

theorem follows_lift {x : Except String α} (h : Yields p x) : Follows p (liftM x) :=
  fun _ => h.bind fun _ ha => yields_ok.2 ha

theorem Follows.bind {x : Follow β} {f : β → Follow α} (hx : Follows q x) (hf : ∀ b, q b → Follows p (f b)) :
    Follows p (x >>= f) :=
  fun left => (hx left).bind fun read hread => hf read.1 hread read.2

theorem follows_true (x : Follow α) : Follows (fun _ => True) x :=
  fun _ => fun _ _ => trivial

theorem follows_mapM {as : List β} {f : β → Follow α} (h : ∀ b, Follows p (f b)) :
    Follows (fun bs => ∀ b ∈ bs, p b) (as.mapM f) := by
  induction as with
  | nil => exact follows_pure fun _ h => absurd h List.not_mem_nil
  | cons a as ih =>
    rw [List.mapM_cons]
    exact (h a).bind fun _ hb => ih.bind fun _ hbs => follows_pure (List.forall_mem_cons.2 ⟨hb, hbs⟩)

end Follow

theorem tree_sorted (anchored : List (Nat × Node)) (depth : Nat) (node : Node) :
    Follows Value.Sorted (tree anchored depth node) := by
  induction depth generalizing node with
  | zero =>
    unfold tree
    refine (follows_true (follow anchored node)).bind fun _ _ => ?_
    split
    · exact follows_lift (scalarValue_sorted _ _ _)
    · exact follows_throw _
  | succ depth ih =>
    unfold tree
    refine (follows_true (follow anchored node)).bind fun _ _ => ?_
    split
    · exact follows_throw _
    · exact follows_lift (scalarValue_sorted _ _ _)
    · refine (follows_true _).bind fun _ _ => ?_
      exact (follows_mapM ih).bind fun _ h => follows_pure (Value.sortedItems_iff.2 h)
    · refine (follows_true _).bind fun _ _ => ?_
      refine (follows_mapM (p := fun field => field.2.Sorted) ?_).bind fun _ h =>
        follows_pure (Value.sorted_ofFields h)
      rintro ⟨key, value⟩
      exact (follows_true _).bind fun _ _ => (ih value).bind fun _ hv => follows_pure hv

theorem sorted_read (text : String) : Yields Value.Sorted (Yaml.read text) := by
  refine (yields_true (Token.ofText text)).bind fun tokens _ => ?_
  refine (yields_true (Node.ofTokens tokens)).bind fun node _ => ?_
  split
  · exact yields_ok.2 trivial
  · rename_i node
    exact (tree_sorted node.anchored.reverse 128 node (100 * node.size)).bind fun _ hv => yields_ok.2 hv

end Yaml

/-! ### Texts -/

namespace Reading

theorem sorted_decode (format : InputFormat) (text : String) : Yields Value.Sorted (decode format text) := by
  unfold decode
  split
  · exact Json.sorted_read text
  · exact Yaml.sorted_read text

/-- The flow of a text is the flow of a sorted tree within the same limits. -/
theorem exists_sorted_of_flow {limits : InputLimits} {format : InputFormat} {text : String} {read : Flow}
    (h : flow limits format text = .ok read) :
    ∃ tree : Value, tree.Sorted ∧ flowOfTree limits tree = .ok read := by
  obtain ⟨v, hv, hcheck⟩ := bind_eq_ok.1 h
  obtain ⟨u, -, hv⟩ := bind_eq_ok.1 hv
  obtain ⟨w, hw, hv⟩ := bind_eq_ok.1 hv
  obtain ⟨u', hlimits, hv⟩ := bind_eq_ok.1 hv
  obtain rfl : w = v := Except.ok.inj hv
  refine ⟨w, ?_, bind_eq_ok.2 ⟨u', hlimits, hcheck⟩⟩
  cases hdecode : decode (format.resolve text) text with
  | error message =>
    rw [hdecode] at hw
    cases hw
  | ok tree =>
    rw [hdecode] at hw
    cases hw
    exact sorted_decode _ text w hdecode

end Reading

end FlowCheck
