import FlowCheck.Proofs.Structure.Located
import FlowCheck.Proofs.Text.Digits
import Mathlib.Data.List.TakeWhile

/-!
# Places of findings

What a piece of a document reports is told from all else by its place: a place has no dots, so it is what comes before
the first dot of a path at it or below it (`takeWhile_of_covers`), and different places have different texts
(`Place.eq_of_text_eq`).  The pieces of a document are in document order (`before_pieces`).
-/

namespace FlowCheck

/-- The finding is at the path, or at the path followed by a dot and more. -/
def Finding.isUnder (path : Path) (finding : Finding) : Bool :=
  finding.path.any fun text => text == path.text || (path.text ++ ".").toList.isPrefixOf text.toList

namespace Structure

/-! ### Places are told apart by their texts -/

theorem isUnder_schema {path : Path} {text message : String} :
    (Finding.schema text message).isUnder path = true ↔ path.Covers text := by
  rw [Finding.isUnder, Finding.schema, Option.any_some, Bool.or_eq_true, beq_iff_eq, List.isPrefixOf_iff_prefix,
    Path.Covers]
  refine or_congr_right ?_
  constructor
  · rintro ⟨rest, hrest⟩
    refine ⟨String.ofList rest, String.toList_inj.1 ?_⟩
    simp only [← hrest, String.toList_append, String.toList_ofList]
  · rintro ⟨rest, rfl⟩
    exact ⟨rest.toList, String.toList_append.symm⟩

/-- A path without dots is what comes before the first dot. -/
theorem takeWhile_of_covers {path : Path} {text : String} (hpath : '.' ∉ path.text.toList) (h : path.Covers text) :
    text.toList.takeWhile (· != '.') = path.text.toList := by
  have hall : ∀ c ∈ path.text.toList, (c != '.') = true := by
    intro c hc
    rw [bne_iff_ne]
    rintro rfl
    exact hpath hc
  rcases h with rfl | ⟨rest, rfl⟩
  · exact List.takeWhile_eq_self_iff.2 hall
  · rw [String.append_assoc, String.toList_append, List.takeWhile_append_of_pos hall]
    simp [String.toList_append]

theorem text_section (name : String) : (Path.mk name []).text = name := by
  simp [Path.text]

theorem text_element (name : String) (i : Nat) :
    ((Path.mk name []).index i).text = name ++ "[" ++ Nat.repr i ++ "]" := by
  rw [Path.text_index, text_section]
  simp only [String.append_assoc]
  rfl

theorem Place.dot_not_mem (place : Place) : '.' ∉ place.path.text.toList := by
  have hdigits : ∀ i, '.' ∉ Nat.toDigits 10 i := notMem_decimal rfl
  cases place <;> simp [Place.path, text_element, text_section, hdigits]

theorem Place.eq_of_text_eq {p q : Place} (h : p.path.text = q.path.text) : p = q := by
  have hlist := congrArg String.toList h
  cases p <;> cases q <;>
    simp [Place.path, text_element, text_section, String.append_left_inj, String.append_right_inj] at h hlist ⊢
  all_goals exact decimal_inj hlist

/-- A text is at or below one place at most. -/
theorem Place.eq_of_covers {p q : Place} {text : String} (hp : p.path.Covers text) (hq : q.path.Covers text) : p = q :=
  Place.eq_of_text_eq <| String.toList_inj.1 <|
    (takeWhile_of_covers p.dot_not_mem hp).symm.trans (takeWhile_of_covers q.dot_not_mem hq)

section Places

variable {p q : Place} {findings : List Finding}

theorem LocatedAt.isUnder_iff (h : LocatedAt q.path findings) {finding : Finding} (hmem : finding ∈ findings) :
    finding.isUnder p.path = true ↔ p = q := by
  obtain ⟨text, message, htext, rfl⟩ := h finding hmem
  rw [isUnder_schema]
  constructor
  · exact fun hp => Place.eq_of_covers hp htext
  · rintro rfl
    exact htext

theorem LocatedAt.filter_self (h : LocatedAt p.path findings) : findings.filter (·.isUnder p.path) = findings :=
  List.filter_eq_self.2 fun _ hmem => (h.isUnder_iff hmem).2 rfl

theorem LocatedAt.filter_ne (h : LocatedAt q.path findings) (hne : p ≠ q) : findings.filter (·.isUnder p.path) = [] :=
  List.filter_eq_nil_iff.2 fun _ hmem hunder => hne ((h.isUnder_iff hmem).1 hunder)

end Places

/-! ### The order of the pieces -/

theorem Place.Before.ne {p q : Place} (h : p.Before q) : p ≠ q := by
  rintro rfl
  simp [Place.Before] at h

section Order

variable {fields : List (String × Value)}

theorem turn_of_mem_elementPieces (list : Place) (element : Nat → Place) (hturn : ∀ i, (element i).turn = list.turn)
    {v : Value} {check : Path → Value → List Finding} :
    ∀ piece ∈ elementPieces list element v check, piece.1.turn = list.turn := by
  intro piece hpiece
  unfold elementPieces at hpiece
  split at hpiece
  · obtain ⟨i, hi, rfl⟩ := List.mem_mapIdx.1 hpiece
    exact hturn i
  · rw [List.mem_singleton.1 hpiece]

theorem before_elementPieces (list : Place) (element : Nat → Place) (hturn : ∀ i, (element i).turn = list.turn)
    (hposition : ∀ i, (element i).position = i) {v : Value} {check : Path → Value → List Finding} :
    (elementPieces list element v check).Pairwise (·.1.Before ·.1) := by
  unfold elementPieces
  split
  · rw [List.pairwise_iff_getElem]
    intro i j hi hj hij
    simp only [List.getElem_mapIdx, Place.Before, hturn, hposition]
    exact Or.inr ⟨trivial, hij⟩
  · exact List.pairwise_singleton _ _

theorem turn_of_mem_triggerPieces : ∀ piece ∈ triggerPieces fields, piece.1.turn = 1 := by
  unfold triggerPieces
  split
  · exact turn_of_mem_elementPieces .triggers .trigger fun _ => rfl
  · exact fun _ h => absurd h List.not_mem_nil

theorem turn_of_mem_stepPieces : ∀ piece ∈ stepPieces fields, piece.1.turn = 2 := by
  unfold stepPieces
  split
  · exact turn_of_mem_elementPieces .steps .step fun _ => rfl
  · exact List.forall_mem_singleton.2 rfl

theorem before_triggerPieces : (triggerPieces fields).Pairwise (·.1.Before ·.1) := by
  unfold triggerPieces
  split
  · exact before_elementPieces .triggers .trigger (fun _ => rfl) fun _ => rfl
  · exact List.Pairwise.nil

theorem before_stepPieces : (stepPieces fields).Pairwise (·.1.Before ·.1) := by
  unfold stepPieces
  split
  · exact before_elementPieces .steps .step (fun _ => rfl) fun _ => rfl
  · exact List.pairwise_singleton _ _

/-- The pieces of a document are in document order, each place once. -/
theorem before_pieces : (pieces fields).Pairwise (·.1.Before ·.1) := by
  have hturn : ∀ piece ∈ triggerPieces fields ++ stepPieces fields, piece.1.turn = 1 ∨ piece.1.turn = 2 := by
    refine List.forall_mem_append.2 ⟨fun piece h => ?_, fun piece h => ?_⟩
    · exact Or.inl (turn_of_mem_triggerPieces piece h)
    · exact Or.inr (turn_of_mem_stepPieces piece h)
  have hmiddle : (triggerPieces fields ++ stepPieces fields).Pairwise (·.1.Before ·.1) := by
    refine List.pairwise_append.2 ⟨before_triggerPieces, before_stepPieces, fun p hp q hq => Or.inl ?_⟩
    rw [turn_of_mem_triggerPieces p hp, turn_of_mem_stepPieces q hq]
    decide
  refine List.pairwise_cons.2 ⟨fun piece h => Or.inl ?_, List.pairwise_append.2
    ⟨hmiddle, List.pairwise_singleton _ _, fun p hp q hq => Or.inl ?_⟩⟩
  · rcases List.mem_append.1 h with h | h
    · have := hturn piece h
      change 0 < piece.1.turn
      omega
    · rw [List.mem_singleton.1 h]
      exact Nat.zero_lt_succ 2
  · have := hturn p hp
    rw [List.mem_singleton.1 hq]
    change p.1.turn < 3
    omega

end Order

end Structure
end FlowCheck
