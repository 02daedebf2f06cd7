/-!
# Sorted entries

Lists of pairs of a key and a value with strictly increasing keys.  `insert` keeps them so; an old value of the key is
replaced.
-/

namespace FlowCheck.Entries

variable {α : Type}

/-- Puts an entry in its place. -/
def insert (key : String) (value : α) : List (String × α) → List (String × α)
  | [] => [(key, value)]
  | (k, v) :: entries =>
    if key = k then (key, value) :: entries
    else if key < k then (key, value) :: (k, v) :: entries
    else (k, v) :: insert key value entries

/-- The entries in the order of their keys; of two with one key, the later counts. -/
def ofList (entries : List (String × α)) : List (String × α) :=
  entries.foldl (fun sorted entry => insert entry.1 entry.2 sorted) []

theorem lookup_insert_self (key : String) (value : α) (entries : List (String × α)) :
    (insert key value entries).lookup key = some value := by
  induction entries with
  | nil => simp [insert]
  | cons entry entries ih =>
    obtain ⟨k, v⟩ := entry
    simp only [insert]
    split
    · simp
    · rename_i h
      split
      · simp
      · rw [List.lookup_cons, beq_false_of_ne h]
        exact ih

end FlowCheck.Entries
