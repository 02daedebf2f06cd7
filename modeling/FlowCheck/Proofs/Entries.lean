import FlowCheck.Entries

/-!
# Lookup and order of sorted entries

`insert` changes the value of one key only (`lookup_insert_of_ne`) and keeps strictly increasing keys
(`pairwise_insert`).  So `ofList` gives entries with strictly increasing keys, keeps entries that have them already
(`ofList_of_pairwise`), and does not change what is found when no key occurs twice (`lookup_ofList`).
-/

namespace FlowCheck.Entries

variable {α β : Type}

theorem mem_of_lookup {k : String} {a : α} {entries : List (String × α)} (h : entries.lookup k = some a) :
    (k, a) ∈ entries := by
  obtain ⟨before, after, rfl, -⟩ := List.lookup_eq_some_iff.1 h
  simp

theorem lookup_eq_none {k : String} {entries : List (String × α)} (h : k ∉ entries.map (·.1)) :
    entries.lookup k = none := by
  rw [List.lookup_eq_none_iff]
  intro entry hm
  simpa using fun he : k = entry.1 => h (List.mem_map.2 ⟨entry, hm, he.symm⟩)

theorem lookup_map_snd (f : α → β) (k : String) (entries : List (String × α)) :
    (entries.map fun entry => (entry.1, f entry.2)).lookup k = (entries.lookup k).map f := by
  induction entries with
  | nil => rfl
  | cons entry entries ih =>
    obtain ⟨j, a⟩ := entry
    rw [List.map_cons, List.lookup_cons, List.lookup_cons, ih]
    cases k == j <;> rfl

theorem lookup_filter_ne {k j : String} (h : k ≠ j) (entries : List (String × α)) :
    (entries.filter (·.1 != j)).lookup k = entries.lookup k := by
  induction entries with
  | nil => rfl
  | cons entry entries ih =>
    obtain ⟨i, a⟩ := entry
    by_cases hi : i = j
    · subst hi
      rw [List.filter_cons, List.lookup_cons, beq_false_of_ne h]
      simpa using ih
    · have hkeep : (i != j) = true := by simpa using hi
      rw [List.filter_cons, if_pos hkeep, List.lookup_cons, List.lookup_cons, ih]

/-! ### One entry more -/

theorem lookup_insert_of_ne {key k : String} (h : k ≠ key) (value : α) (entries : List (String × α)) :
    (insert key value entries).lookup k = entries.lookup k := by
  induction entries with
  | nil => simp [insert, h]
  | cons entry entries ih =>
    obtain ⟨j, v⟩ := entry
    simp only [insert]
    split
    · rename_i hj
      subst hj
      simp [List.lookup_cons, beq_false_of_ne h]
    · split
      · rw [List.lookup_cons, beq_false_of_ne h]
      · rw [List.lookup_cons, List.lookup_cons, ih]

theorem mem_of_mem_insert {key : String} {value : α} {entry : String × α} {entries : List (String × α)}
    (h : entry ∈ insert key value entries) : entry = (key, value) ∨ entry ∈ entries := by
  induction entries with
  | nil =>
    left
    simpa [insert] using h
  | cons other entries ih =>
    obtain ⟨k, v⟩ := other
    simp only [insert] at h
    split at h
    · rcases List.mem_cons.1 h with h | h
      · exact Or.inl h
      · exact Or.inr (List.mem_cons_of_mem _ h)
    · split at h
      · exact List.mem_cons.1 h
      · rcases List.mem_cons.1 h with h | h
        · right
          rw [h]
          exact List.mem_cons_self
        · exact (ih h).imp_right (List.mem_cons_of_mem _)

theorem pairwise_insert {entries : List (String × α)} (key : String) (value : α)
    (h : entries.Pairwise fun a b => a.1 < b.1) :
    (insert key value entries).Pairwise fun a b => a.1 < b.1 := by
  induction entries with
  | nil => exact List.pairwise_singleton _ _
  | cons entry entries ih =>
    obtain ⟨k, v⟩ := entry
    rw [List.pairwise_cons] at h
    simp only [insert]
    split
    · rename_i hk
      subst hk
      exact List.pairwise_cons.2 h
    · rename_i hne
      split
      · rename_i hlt
        refine List.pairwise_cons.2 ⟨?_, List.pairwise_cons.2 h⟩
        intro entry hm
        rcases List.mem_cons.1 hm with rfl | hm
        · exact hlt
        · exact String.lt_trans hlt (h.1 entry hm)
      · rename_i hnlt
        refine List.pairwise_cons.2 ⟨?_, ih h.2⟩
        intro entry hm
        rcases mem_of_mem_insert hm with rfl | hm
        · show k < key
          exact Decidable.byContradiction fun hle => hne (String.le_antisymm hle hnlt)
        · exact h.1 entry hm

private theorem insert_of_forall_lt {entries : List (String × α)} {key : String} (value : α)
    (h : ∀ entry ∈ entries, entry.1 < key) : insert key value entries = entries ++ [(key, value)] := by
  induction entries with
  | nil => rfl
  | cons entry entries ih =>
    obtain ⟨k, v⟩ := entry
    have hk : k < key := h (k, v) List.mem_cons_self
    have hne : key ≠ k := fun he => String.lt_irrefl k (he ▸ hk)
    simp only [insert, hne, String.lt_asymm hk, ↓reduceIte, List.cons_append]
    rw [ih fun entry hm => h entry (List.mem_cons_of_mem _ hm)]

/-! ### All entries of a list -/

section Fold

private def insertAll (entries sorted : List (String × α)) : List (String × α) :=
  entries.foldl (fun sorted entry => insert entry.1 entry.2 sorted) sorted

private theorem pairwise_insertAll {entries sorted : List (String × α)}
    (h : sorted.Pairwise fun a b => a.1 < b.1) : (insertAll entries sorted).Pairwise fun a b => a.1 < b.1 := by
  induction entries generalizing sorted with
  | nil => exact h
  | cons entry entries ih => exact ih (pairwise_insert entry.1 entry.2 h)

private theorem mem_of_mem_insertAll {entry : String × α} {entries sorted : List (String × α)}
    (h : entry ∈ insertAll entries sorted) : entry ∈ entries ∨ entry ∈ sorted := by
  induction entries generalizing sorted with
  | nil => exact Or.inr h
  | cons first entries ih =>
    rcases ih h with hm | hm
    · exact Or.inl (List.mem_cons_of_mem _ hm)
    · rcases mem_of_mem_insert hm with rfl | hm
      · exact Or.inl List.mem_cons_self
      · exact Or.inr hm

private theorem lookup_insertAll {entries sorted : List (String × α)} (h : (entries.map (·.1)).Nodup) (k : String) :
    (insertAll entries sorted).lookup k = (entries.lookup k).or (sorted.lookup k) := by
  induction entries generalizing sorted with
  | nil => rfl
  | cons entry entries ih =>
    obtain ⟨j, v⟩ := entry
    rw [List.map_cons, List.nodup_cons] at h
    show (insertAll entries (insert j v sorted)).lookup k = _
    rw [ih h.2, List.lookup_cons]
    by_cases hk : k = j
    · subst hk
      rw [lookup_eq_none h.1, lookup_insert_self]
      simp
    · rw [lookup_insert_of_ne hk, beq_false_of_ne hk]

private theorem insertAll_of_pairwise (entries sorted : List (String × α))
    (h : (sorted ++ entries).Pairwise fun a b => a.1 < b.1) : insertAll entries sorted = sorted ++ entries := by
  induction entries generalizing sorted with
  | nil => exact (List.append_nil sorted).symm
  | cons entry entries ih =>
    have hlast : ∀ other ∈ sorted, other.1 < entry.1 := fun other hm =>
      (List.pairwise_append.1 h).2.2 other hm entry List.mem_cons_self
    show insertAll entries (insert entry.1 entry.2 sorted) = _
    rw [insert_of_forall_lt entry.2 hlast]
    have hassoc : sorted ++ entry :: entries = sorted ++ [(entry.1, entry.2)] ++ entries := by simp
    rw [hassoc] at h ⊢
    exact ih _ h

end Fold

theorem pairwise_ofList (entries : List (String × α)) : (ofList entries).Pairwise fun a b => a.1 < b.1 :=
  pairwise_insertAll List.Pairwise.nil

theorem mem_of_mem_ofList {entry : String × α} {entries : List (String × α)} (h : entry ∈ ofList entries) :
    entry ∈ entries :=
  (mem_of_mem_insertAll h).resolve_right List.not_mem_nil

/-- Sorting entries with different keys does not change what is found. -/
theorem lookup_ofList {entries : List (String × α)} (h : (entries.map (·.1)).Nodup) (k : String) :
    (ofList entries).lookup k = entries.lookup k :=
  (lookup_insertAll h k).trans Option.or_none

/-- Entries in order stay as they are. -/
theorem ofList_of_pairwise {entries : List (String × α)} (h : entries.Pairwise fun a b => a.1 < b.1) :
    ofList entries = entries :=
  insertAll_of_pairwise entries [] h

end FlowCheck.Entries
