/-!
# Similar names

Two texts are similar by the characters that they share at about the same places and by how many of those are out of
order (Jaro's measure).  A name is worth a hint when the measure is at least seven tenths.
-/

namespace FlowCheck.CommandLine

/-- Marks the first character of a row that equals `c`, is not marked, and lies within bounds. -/
def markFirst (c : Char) (low high : Nat) : Nat → List (Char × Bool) → Option (List (Char × Bool))
  | _, [] => none
  | i, (d, marked) :: rest =>
    if low ≤ i ∧ i < high ∧ c = d ∧ !marked then some ((d, true) :: rest)
    else (markFirst c low high (i + 1) rest).map ((d, marked) :: ·)

/-- The characters of `a` that have a counterpart in `b` no more than `reach` places away, and `b` with the
counterparts marked. -/
def counterparts (reach : Nat) : Nat → List Char → List (Char × Bool) → List Char × List (Char × Bool)
  | _, [], b => ([], b)
  | i, c :: a, b =>
    match markFirst c (i - reach) (i + reach + 1) 0 b with
    | some b =>
      let (shared, b) := counterparts reach (i + 1) a b
      (c :: shared, b)
    | none => counterparts reach (i + 1) a b

/-- A measure of similarity between zero and one, as numerator and denominator. -/
def similarity (a b : List Char) : Nat × Nat :=
  if a.isEmpty && b.isEmpty then (1, 1)
  else
    let reach := max a.length b.length / 2 - 1
    let (shared, marked) := counterparts reach 0 a (b.map fun c => (c, false))
    let there := (marked.filter (·.2)).map (·.1)
    let m := shared.length
    let moved := ((shared.zip there).filter fun pair => pair.1 != pair.2).length / 2
    if m = 0 then (0, 1)
    else
      (m * m * b.length + m * m * a.length + (m - moved) * a.length * b.length, 3 * m * a.length * b.length)

/-- The names that are similar to a text, the most similar ones last. -/
def similarNames (text : String) (names : List String) : List String :=
  let scored := names.map fun name => (name, similarity text.toList name.toList)
  let close := scored.filter fun entry => 7 * entry.2.2 ≤ 10 * entry.2.1
  (close.mergeSort fun a b => a.2.1 * b.2.2 ≤ b.2.1 * a.2.2).map (·.1)

/-- The name that is most similar to a text, if one is similar enough. -/
def similarName? (text : String) (names : List String) : Option String :=
  (similarNames text names).getLast?

example : similarName? "outptu" ["input-format", "output"] = some "output" := by decide +kernel
example : similarName? "config" ["output", "help"] = none := by decide +kernel

end FlowCheck.CommandLine
