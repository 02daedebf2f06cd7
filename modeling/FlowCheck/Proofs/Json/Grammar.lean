import FlowCheck.Json.Parser
import FlowCheck.Json.Printer
import FlowCheck.Proofs.FloatFree

/-!
# The texts of a tree

`Spells v cs` says that the characters are a JSON text of the tree: each scalar as it is written, and any space before
each token.  Doubles have no spelling here.  Both layouts of a tree without doubles spell it (`spells_compact`,
`spells_pretty`), so what is read from all spellings is read from both layouts.
-/

namespace FlowCheck

namespace Value

/-- The tree is one token of its texts. -/
def IsToken : Value → Prop
  | .null | .bool _ | .int _ | .string _ => True
  | .float _ | .list _ | .object _ => False

theorem IsToken.sortKeys_eq {v : Value} (h : v.IsToken) : v.sortKeys = v := by
  cases v with
  | float x => exact h.elim
  | list items => exact h.elim
  | object fields => exact h.elim
  | _ => simp only [sortKeys]

end Value

namespace Json

/-! ### Spellings -/

/-- Characters that readers pass over between tokens. -/
def IsGap (cs : List Char) : Prop :=
  ∀ c ∈ cs, isSpace c = true

theorem isGap_nil : IsGap [] :=
  List.forall_mem_nil _

theorem isGap_blank : IsGap [' '] :=
  List.forall_mem_singleton.2 rfl

theorem isGap_newline (level : Nat) : IsGap (newline level) :=
  List.forall_mem_cons.2 ⟨rfl, fun _ hc => List.eq_of_mem_replicate hc ▸ rfl⟩

theorem IsGap.append {gap more : List Char} (h : IsGap gap) (hmore : IsGap more) : IsGap (gap ++ more) :=
  List.forall_mem_append.2 ⟨h, hmore⟩

mutual

/-- The characters are a text of the tree. -/
inductive Spells : Value → List Char → Prop
  | token {v : Value} {gap : List Char} (hv : v.IsToken) (hgap : IsGap gap) : Spells v (gap ++ scalar v)
  | list {items : List Value} {gap cs : List Char} (hgap : IsGap gap) (hitems : SpellsItems true items cs) :
      Spells (.list items) (gap ++ '[' :: cs)
  | object {fields : List (String × Value)} {gap cs : List Char} (hgap : IsGap gap)
      (hfields : SpellsFields true fields cs) : Spells (.object fields) (gap ++ '\x7b' :: cs)

/-- The characters are elements of a list up to its bracket: all, or those after an element. -/
inductive SpellsItems : Bool → List Value → List Char → Prop
  | nil {first : Bool} {gap : List Char} (hgap : IsGap gap) : SpellsItems first [] (gap ++ [']'])
  | first {v : Value} {vs : List Value} {cs rest : List Char} (hv : Spells v cs) (hvs : SpellsItems false vs rest) :
      SpellsItems true (v :: vs) (cs ++ rest)
  | later {v : Value} {vs : List Value} {gap cs rest : List Char} (hgap : IsGap gap) (hv : Spells v cs)
      (hvs : SpellsItems false vs rest) : SpellsItems false (v :: vs) (gap ++ ',' :: (cs ++ rest))

/-- The characters are fields of a mapping up to its brace: all, or those after a field. -/
inductive SpellsFields : Bool → List (String × Value) → List Char → Prop
  | nil {first : Bool} {gap : List Char} (hgap : IsGap gap) : SpellsFields first [] (gap ++ ['\x7d'])
  | first {k : String} {v : Value} {fs : List (String × Value)} {gap colon cs rest : List Char} (hgap : IsGap gap)
      (hcolon : IsGap colon) (hv : Spells v cs) (hfs : SpellsFields false fs rest) :
      SpellsFields true ((k, v) :: fs) (gap ++ string k ++ colon ++ ':' :: (cs ++ rest))
  | later {k : String} {v : Value} {fs : List (String × Value)} {comma gap colon cs rest : List Char}
      (hcomma : IsGap comma) (hgap : IsGap gap) (hcolon : IsGap colon) (hv : Spells v cs)
      (hfs : SpellsFields false fs rest) :
      SpellsFields false ((k, v) :: fs) (comma ++ ',' :: (gap ++ string k ++ colon ++ ':' :: (cs ++ rest)))

end

theorem Spells.scalar {v : Value} (hv : v.IsToken) : Spells v (scalar v) :=
  .token hv isGap_nil

theorem Spells.after_gap {v : Value} {gap cs : List Char} (hgap : IsGap gap) (h : Spells v cs) :
    Spells v (gap ++ cs) := by
  cases h with
  | token hv hinner =>
    rw [← List.append_assoc]
    exact .token hv (hgap.append hinner)
  | list hinner hitems =>
    rw [← List.append_assoc]
    exact .list (hgap.append hinner) hitems
  | object hinner hfields =>
    rw [← List.append_assoc]
    exact .object (hgap.append hinner) hfields

theorem SpellsItems.after_comma {v : Value} {vs : List Value} {cs : List Char} (h : SpellsItems true (v :: vs) cs) :
    SpellsItems false (v :: vs) (',' :: cs) := by
  cases h with
  | first hv hvs => exact .later isGap_nil hv hvs

theorem SpellsFields.after_comma {field : String × Value} {fs : List (String × Value)} {cs : List Char}
    (h : SpellsFields true (field :: fs) cs) : SpellsFields false (field :: fs) (',' :: cs) := by
  cases h with
  | first hgap hcolon hv hfs => exact .later isGap_nil hgap hcolon hv hfs

/-! ### The two layouts -/

mutual

/-- The compact text of a tree without doubles spells it. -/
theorem spells_compact : (v : Value) → v.FloatFree → Spells v (compact v)
  | .null, _ | .bool _, _ | .int _, _ | .string _, _ => by
    simp only [compact]
    exact .scalar trivial
  | .float _, h => h.elim
  | .list items, h => .list isGap_nil (spells_compactItems items h)
  | .object fields, h => .object isGap_nil (spells_compactFields fields h)

theorem spells_compactItems : (items : List Value) → Value.FloatFreeItems items →
    SpellsItems true items (compactItems items ++ [']'])
  | [], _ => .nil isGap_nil
  | [v], h => .first (spells_compact v h.1) (.nil isGap_nil)
  | v :: w :: vs, h => by
    have hvs := (spells_compactItems (w :: vs) h.2).after_comma
    simpa [compactItems] using SpellsItems.first (spells_compact v h.1) hvs

theorem spells_compactFields : (fields : List (String × Value)) → Value.FloatFreeFields fields →
    SpellsFields true fields (compactFields fields ++ ['\x7d'])
  | [], _ => .nil isGap_nil
  | [(k, v)], h => by
    have hv := spells_compact v h.1
    have hfield := SpellsFields.first (k := k) isGap_nil isGap_nil hv (.nil isGap_nil)
    simpa [compactFields] using hfield
  | (k, v) :: field :: fields, h => by
    have hv := spells_compact v h.1
    have hfields := (spells_compactFields (field :: fields) h.2).after_comma
    have hfield := SpellsFields.first (k := k) isGap_nil isGap_nil hv hfields
    simpa [compactFields] using hfield

end

mutual

/-- The pretty text of a tree without doubles spells it. -/
theorem spells_pretty (level : Nat) : (v : Value) → v.FloatFree → Spells v (pretty level v)
  | .null, _ | .bool _, _ | .int _, _ | .string _, _ => by
    simp only [pretty]
    exact .scalar trivial
  | .float _, h => h.elim
  | .list [], _ => .list isGap_nil (.nil isGap_nil)
  | .list (v :: vs), h => by
    have hitems := spells_prettyItems (level + 1) (isGap_newline level) (v :: vs) h
    simpa [pretty] using Spells.list isGap_nil hitems
  | .object [], _ => .object isGap_nil (.nil isGap_nil)
  | .object (field :: fields), h => by
    have hfields := spells_prettyFields (level + 1) (isGap_newline level) (field :: fields) h
    simpa [pretty] using Spells.object isGap_nil hfields

theorem spells_prettyItems (level : Nat) {gap : List Char} (hgap : IsGap gap) : (items : List Value) →
    Value.FloatFreeItems items → SpellsItems true items (prettyItems level items ++ gap ++ [']'])
  | [], _ => .nil hgap
  | [v], h => by
    have hv := (spells_pretty level v h.1).after_gap (isGap_newline level)
    simpa [prettyItems] using SpellsItems.first hv (.nil hgap)
  | v :: w :: vs, h => by
    have hv := (spells_pretty level v h.1).after_gap (isGap_newline level)
    have hvs := (spells_prettyItems level hgap (w :: vs) h.2).after_comma
    simpa [prettyItems] using SpellsItems.first hv hvs

theorem spells_prettyFields (level : Nat) {gap : List Char} (hgap : IsGap gap) :
    (fields : List (String × Value)) → Value.FloatFreeFields fields →
    SpellsFields true fields (prettyFields level fields ++ gap ++ ['\x7d'])
  | [], _ => .nil hgap
  | [(k, v)], h => by
    have hv := (spells_pretty level v h.1).after_gap isGap_blank
    have hfield := SpellsFields.first (k := k) (isGap_newline level) isGap_nil hv (.nil hgap)
    simpa [prettyFields] using hfield
  | (k, v) :: field :: fields, h => by
    have hv := (spells_pretty level v h.1).after_gap isGap_blank
    have hfields := (spells_prettyFields level hgap (field :: fields) h.2).after_comma
    have hfield := SpellsFields.first (k := k) (isGap_newline level) isGap_nil hv hfields
    simpa [prettyFields] using hfield

end

end Json

end FlowCheck
