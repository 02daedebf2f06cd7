import FlowCheck.Text.Search
import Mathlib.Data.List.Infix

/-!
# Marks in texts

Searching finds no mark exactly if it does not stand in the text (`splitAt?_eq_none_iff`), and cuts a text at
the first place where it does.

A mark that ends in a delimiter is found piece by piece: the delimiters cut a text into pieces, and the mark stands in
the text only if one of the pieces ends in what comes before its delimiter (`not_isInfix_append_cons`).  Two places of
such a mark do not overlap, so that the first place is the one with no mark before it (`splitAt?_concat_eq_some_iff`).
-/

namespace FlowCheck.Text

variable {mark cs rest before after : List Char}

/-! ### Cutting at a mark -/

theorem splitAt?_eq_none_iff (hmark : mark ≠ []) : splitAt? mark cs = none ↔ ¬mark <:+: cs := by
  induction cs with
  | nil => simp [splitAt?, hmark]
  | cons c cs ih =>
    rw [splitAt?, List.infix_cons_iff, not_or, ← ih, ← List.isPrefixOf_iff_prefix]
    cases mark.isPrefixOf (c :: cs) <;> simp

theorem splitAt?_append (mark rest : List Char) : splitAt? mark (mark ++ rest) = some ([], rest) := by
  cases h : mark ++ rest with
  | nil =>
    obtain ⟨rfl, rfl⟩ := List.append_eq_nil_iff.1 h
    rfl
  | cons c cs =>
    have hbegins : mark.isPrefixOf (c :: cs) = true := List.isPrefixOf_iff_prefix.2 ⟨rest, h⟩
    rw [splitAt?, if_pos hbegins, ← h, List.drop_left]

/-- The first mark is not behind any other. -/
theorem isPrefix_of_splitAt? (h : splitAt? mark (cs ++ (mark ++ rest)) = some (before, after)) : before <+: cs := by
  induction cs generalizing before with
  | nil =>
    rw [List.nil_append, splitAt?_append] at h
    cases h
    exact List.prefix_refl _
  | cons c cs ih =>
    rw [List.cons_append, splitAt?] at h
    split at h
    · cases h
      exact List.nil_prefix
    · obtain ⟨⟨b, a⟩, hsplit, hpair⟩ := Option.map_eq_some_iff.1 h
      cases hpair
      exact (List.prefix_cons_inj c).2 (ih hsplit)

/-- There is no mark before the first one. -/
theorem not_isInfix_of_splitAt? (hmark : mark ≠ []) (h : splitAt? mark cs = some (before, after)) :
    ¬mark <:+: before := by
  induction cs generalizing before with
  | nil => simp [splitAt?, hmark] at h
  | cons c cs ih =>
    rw [splitAt?] at h
    split at h
    · cases h
      exact fun hstands => hmark (List.infix_nil.1 hstands)
    · rename_i hbegins
      obtain ⟨⟨b, a⟩, hsplit, hpair⟩ := Option.map_eq_some_iff.1 h
      cases hpair
      intro hstands
      rcases List.infix_cons_iff.1 hstands with hstart | hrest
      · have hcut : b ++ mark ++ a = cs := append_of_splitAt? hsplit
        have hwhole : c :: b <+: c :: cs := ⟨mark ++ a, by rw [← hcut]; simp⟩
        exact hbegins (List.isPrefixOf_iff_prefix.2 (hstart.trans hwhole))
      · exact ih hsplit hrest

/-- A mark that begins at no place of the first text is found in the second one only. -/
theorem splitAt?_append_of_apart (h : ∀ s ∈ cs.tails, s ≠ [] → ¬mark <+: s ∧ ¬s <+: mark) :
    splitAt? mark (cs ++ rest) = (splitAt? mark rest).map fun parts => (cs ++ parts.1, parts.2) := by
  induction cs with
  | nil => simp
  | cons c cs ih =>
    rw [List.tails_cons, List.forall_mem_cons] at h
    obtain ⟨hmark, hwhole⟩ := h.1 (List.cons_ne_nil c cs)
    have hbegins : ¬mark.isPrefixOf (c :: (cs ++ rest)) = true := by
      rw [List.isPrefixOf_iff_prefix]
      intro hstart
      rcases List.prefix_or_prefix_of_prefix hstart (List.prefix_append (c :: cs) rest) with hshort | hlong
      · exact hmark hshort
      · exact hwhole hlong
    rw [List.cons_append, splitAt?, if_neg hbegins, ih h.2, Option.map_map]
    rfl

theorem splitAt?_singleton_map (x : Char) (cs rest : List Char) :
    (splitAt? [x] (cs ++ x :: rest)).map Prod.fst = some (cs.takeWhile (· != x)) := by
  induction cs with
  | nil => simp [splitAt?]
  | cons c cs ih =>
    rw [List.cons_append, splitAt?]
    by_cases hc : c = x
    · simp [hc]
    · have hbegins : [x].isPrefixOf (c :: (cs ++ x :: rest)) = false := by
        simp [List.isPrefixOf, Ne.symm hc]
      have hmap : (Prod.fst ∘ fun parts : List Char × List Char => (c :: parts.1, parts.2)) =
          (c :: ·) ∘ Prod.fst := rfl
      have hwhile : (c :: cs).takeWhile (· != x) = c :: cs.takeWhile (· != x) :=
        List.takeWhile_cons_of_pos (bne_iff_ne.2 hc)
      rw [hbegins, if_neg Bool.false_ne_true, Option.map_map, hmap, ← Option.map_map, ih, hwhile, Option.map_some]

/-! ### Marks that end in a delimiter -/

section Delimiter

variable {x : Char} {w s t p : List Char}

/-- The mark stands where the text before a delimiter ends in what comes before its own. -/
theorem isInfix_concat_iff : w ++ [x] <:+: cs ↔ ∃ before after, cs = before ++ x :: after ∧ w <:+ before := by
  constructor
  · rintro ⟨a, b, rfl⟩
    exact ⟨a ++ w, b, by simp, List.suffix_append a w⟩
  · rintro ⟨_, after, rfl, a, rfl⟩
    exact ⟨a, after, by simp⟩

theorem not_isInfix_of_notMem (hx : x ∉ cs) : ¬w ++ [x] <:+: cs :=
  fun h => hx (h.subset (by simp))

/-- A delimiter that does not stand in the second part stands in the first. -/
theorem exists_of_append_cons_eq (hx : x ∉ t) {rest : List Char} (h : p ++ x :: rest = s ++ t) :
    ∃ u, s = p ++ x :: u := by
  rcases List.append_eq_append_iff.1 h with ⟨u, rfl, hu⟩ | ⟨u, rfl, hu⟩
  · rcases List.cons_eq_append_iff.1 hu with ⟨-, rfl⟩ | ⟨u, rfl, -⟩
    · exact absurd List.mem_cons_self hx
    · exact ⟨u, rfl⟩
  · exact absurd (hu ▸ List.mem_append_right u List.mem_cons_self) hx

/-- A mark does not reach into a text without delimiter. -/
theorem isInfix_of_isInfix_append (hx : x ∉ t) (h : w ++ [x] <:+: s ++ t) : w ++ [x] <:+: s := by
  obtain ⟨before, after, heq, hw⟩ := isInfix_concat_iff.1 h
  obtain ⟨u, rfl⟩ := exists_of_append_cons_eq hx heq.symm
  exact isInfix_concat_iff.2 ⟨before, u, rfl, hw⟩

/-- At the end of a piece the mark stands before its delimiter. -/
theorem isSuffix_of_isInfix_concat (hp : x ∉ p) (h : w ++ [x] <:+: p ++ [x]) : w <:+ p := by
  obtain ⟨before, after, heq, hw⟩ := isInfix_concat_iff.1 h
  rcases List.append_eq_append_iff.1 heq with ⟨u, rfl, hu⟩ | ⟨u, rfl, hu⟩
  · obtain ⟨rfl, -⟩ : u = [] ∧ after = [] := by simpa [List.cons_eq_append_iff, and_comm] using hu
    rwa [List.append_nil] at hw
  · rcases List.cons_eq_append_iff.1 hu with ⟨rfl, -⟩ | ⟨u, rfl, -⟩
    · rwa [List.append_nil]
    · exact absurd (List.mem_append_right before List.mem_cons_self) hp

/-- A text without delimiter is at the end of a text if it is at the end of the last piece. -/
theorem isSuffix_of_isSuffix_append_cons (hw : x ∉ w) (h : w <:+ p ++ x :: t) : w <:+ t := by
  obtain ⟨a, ha⟩ := h
  rcases List.append_eq_append_iff.1 ha with ⟨u, -, rfl⟩ | ⟨u, -, hu⟩
  · exact absurd (List.mem_append_right u List.mem_cons_self) hw
  · rcases List.cons_eq_append_iff.1 hu with ⟨-, rfl⟩ | ⟨u, -, rfl⟩
    · exact absurd List.mem_cons_self hw
    · exact List.suffix_append u w

/-- A mark in a text stands at the end of the first piece, or in the other pieces. -/
theorem not_isInfix_append_cons (hw : x ∉ w) (hp : ¬w ++ [x] <:+: p ++ [x]) (hrest : ¬w ++ [x] <:+: rest) :
    ¬w ++ [x] <:+: p ++ x :: rest := by
  intro h
  obtain ⟨before, after, heq, hbefore⟩ := isInfix_concat_iff.1 h
  rcases List.append_eq_append_iff.1 heq with ⟨u, rfl, hu⟩ | ⟨u, rfl, hu⟩
  · rcases List.cons_eq_append_iff.1 hu with ⟨rfl, -⟩ | ⟨u, rfl, rfl⟩
    · exact hp (isInfix_concat_iff.2 ⟨p, [], rfl, by rwa [List.append_nil] at hbefore⟩)
    · exact hrest (isInfix_concat_iff.2 ⟨u, after, rfl, isSuffix_of_isSuffix_append_cons hw hbefore⟩)
  · rcases List.cons_eq_append_iff.1 hu with ⟨rfl, -⟩ | ⟨u, rfl, -⟩
    · exact hp (isInfix_concat_iff.2 ⟨before, [], by rw [List.append_nil], hbefore⟩)
    · exact hp (isInfix_concat_iff.2 ⟨before, u ++ [x], by simp, hbefore⟩)

/-- The first delimiter cuts a text in one way only. -/
theorem append_cons_inj {q : List Char} (hp : x ∉ p) (hq : x ∉ q) (h : p ++ x :: s = q ++ x :: t) :
    p = q ∧ s = t := by
  rcases List.append_eq_append_iff.1 h with ⟨u, rfl, hu⟩ | ⟨u, rfl, hu⟩
  · rcases List.cons_eq_append_iff.1 hu with ⟨rfl, htail⟩ | ⟨u, rfl, -⟩
    · exact ⟨(List.append_nil p).symm, (List.cons.inj htail).2.symm⟩
    · exact absurd (List.mem_append_right p List.mem_cons_self) hq
  · rcases List.cons_eq_append_iff.1 hu with ⟨rfl, htail⟩ | ⟨u, rfl, -⟩
    · exact ⟨List.append_nil q, (List.cons.inj htail).2⟩
    · exact absurd (List.mem_append_right q List.mem_cons_self) hp

/-- Two places of a mark do not overlap. -/
theorem eq_nil_of_append_eq (hx : x ∉ w) (hp : ¬w ++ [x] <:+: p) (h : w ++ x :: s = p ++ (w ++ x :: t)) : p = [] := by
  by_cases hmem : x ∈ p
  · obtain ⟨a, b, rfl, ha⟩ := List.eq_append_cons_of_mem hmem
    have hw : w = a := (append_cons_inj hx ha (by simpa using h)).1
    exact absurd ⟨[], b, by simp [hw]⟩ hp
  · have hboth : x ∉ p ++ w := by simp [hmem, hx]
    have hw : w = p ++ w := (append_cons_inj hx hboth (by simpa using h)).1
    simpa using hw

/-- A mark is found at the place where it stands with no other before it. -/
theorem splitAt?_concat_eq_some_iff (hx : x ∉ w) :
    splitAt? (w ++ [x]) cs = some (before, after) ↔
      cs = before ++ (w ++ [x]) ++ after ∧ ¬w ++ [x] <:+: before := by
  constructor
  · intro h
    exact ⟨(append_of_splitAt? h).symm, not_isInfix_of_splitAt? (by simp) h⟩
  · rintro ⟨rfl, hbefore⟩
    cases hfound : splitAt? (w ++ [x]) (before ++ (w ++ [x]) ++ after) with
    | none => exact absurd ⟨before, after, rfl⟩ ((splitAt?_eq_none_iff (by simp)).1 hfound)
    | some parts =>
      obtain ⟨b, a⟩ := parts
      have hcut := append_of_splitAt? hfound
      rw [List.append_assoc] at hfound
      obtain ⟨u, rfl⟩ := isPrefix_of_splitAt? hfound
      have hu : ¬w ++ [x] <:+: u := fun hstands => hbefore (hstands.trans (List.suffix_append b u).isInfix)
      have htail : w ++ x :: a = u ++ (w ++ x :: after) := by simpa using hcut
      obtain rfl : u = [] := eq_nil_of_append_eq hx hu htail
      have hafter : a = after := by simpa using htail
      rw [hafter, List.append_nil]

end Delimiter

end FlowCheck.Text
