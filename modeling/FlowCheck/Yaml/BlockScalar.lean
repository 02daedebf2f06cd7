import FlowCheck.Yaml.Place

/-!
# Literal and folded scalars

A header says how the scalar ends and may say how far its lines are indented; else the first line with content does.
In a folded scalar a break between two lines that do not begin with space becomes a space, or vanishes if empty lines
follow.
-/

namespace FlowCheck.Yaml

/-- Which of the breaks at the end of a block scalar belong to it. -/
inductive Chomping where
  | strip
  | clip
  | keep

/-- What the header of a block scalar says. -/
structure BlockHeader where
  chomping : Chomping := .clip
  /-- Indentation beyond that of the surrounding block, if given. -/
  increment : Option Nat := none

namespace BlockHeader

private def chomping? : List Char → Option (Chomping × List Char)
  | '+' :: cs => some (.keep, cs)
  | '-' :: cs => some (.strip, cs)
  | _ => none

private def increment? : List Char → Except String (Option Nat × List Char)
  | '0' :: _ => .error "an indentation of zero"
  | c :: cs => .ok (if c.isDigit then (some (c.toNat - '0'.toNat), cs) else (none, c :: cs))
  | [] => .ok (none, [])

/-- The indicators after the first one, in either order. -/
def ofIndicators (cs : List Char) : Except String (BlockHeader × List Char) := do
  match chomping? cs with
  | some (chomping, cs) =>
    let (increment, cs) ← increment? cs
    return ({ chomping, increment }, cs)
  | none =>
    let (increment, cs) ← increment? cs
    if increment.isNone then return ({}, cs)
    match chomping? cs with
    | some (chomping, cs) => return ({ chomping, increment }, cs)
    | none => return ({ increment }, cs)

/-- The rest of the header's line, which may hold a comment, and its break. -/
def lineEnd (cs : List Char) : Except String (List Char) :=
  match cs.dropWhile isSpace with
  | '#' :: cs => .ok ((cs.dropWhile (!isBreak ·)).drop 1)
  | [] => .ok []
  | c :: cs => if isBreak c then .ok cs else .error "a block scalar begins on the line of its header"

end BlockHeader

/-- Empty lines and indentation before the first line with content.  `deepest` is the greatest column seen; `indent`
is the indentation, zero if it is not known. -/
def leadingBreaks (indent deepest : Nat) (breaks : List Char) (p : Place) : List Char → Scan (List Char × Nat)
  | [] => .ok ((breaks, deepest), p, [])
  | c :: cs =>
    if indent = 0 ∨ p.column < indent then
      if c = ' ' then leadingBreaks indent (max deepest (p.column + 1)) breaks (p.after c) cs
      else if c = '\t' then .error "a tab stands where indentation is expected"
      else if isBreak c then leadingBreaks indent deepest (breaks ++ [c]) (p.after c) cs
      else .ok ((breaks, deepest), p, c :: cs)
    else if isBreak c then leadingBreaks indent deepest (breaks ++ [c]) (p.after c) cs
    else .ok ((breaks, deepest), p, c :: cs)

/-- A block scalar between or inside its lines. -/
structure BlockState where
  /-- The characters so far, in reverse. -/
  done : List Char := []
  /-- The break after the last line. -/
  lead : Option Char := none
  /-- The breaks of the empty lines after it. -/
  breaks : List Char
  /-- The last line begins with space. -/
  spaced : Bool := false
  inLine : Bool := false

namespace BlockState

/-- Begins a line with its first character. -/
def beginLine (s : BlockState) (literal : Bool) (c : Char) : BlockState :=
  let fold := !literal && s.lead == some '\n' && !s.spaced && !isSpace c
  let between := (if fold then (if s.breaks.isEmpty then [' '] else []) else s.lead.toList) ++ s.breaks
  { done := c :: (between.reverse ++ s.done), lead := none, breaks := [], spaced := isSpace c, inLine := true }

/-- The text of a scalar that ends here. -/
def finish (s : BlockState) (chomping : Chomping) : String :=
  let tail := match chomping with
    | .strip => []
    | .clip => s.lead.toList
    | .keep => s.lead.toList ++ s.breaks
  String.ofList (s.done.reverse ++ tail)

end BlockState

/-- The lines of a block scalar with a known indentation. -/
def blockLines (literal : Bool) (chomping : Chomping) (indent : Nat) (s : BlockState) (p : Place) :
    List Char → Scan String
  | [] => .ok (s.finish chomping, p, [])
  | c :: cs =>
    if s.inLine then
      if isBreak c then
        blockLines literal chomping indent { s with lead := some c, inLine := false } (p.after c) cs
      else blockLines literal chomping indent { s with done := c :: s.done } (p.after c) cs
    else if isBreak c then
      blockLines literal chomping indent { s with breaks := s.breaks ++ [c] } (p.after c) cs
    else if p.column < indent ∧ c = ' ' then blockLines literal chomping indent s (p.after c) cs
    else if p.column < indent ∧ c = '\t' then .error "a tab stands where indentation is expected"
    else if p.column = indent then
      blockLines literal chomping indent (s.beginLine literal c) (p.after c) cs
    else .ok (s.finish chomping, p, c :: cs)

/-- A block scalar after its first indicator, in a block with the given indentation. -/
def blockScalar (literal : Bool) (parent : Int) (p : Place) (cs : List Char) :
    Except String (String × Place × List Char) := do
  let (header, cs) ← BlockHeader.ofIndicators cs
  let cs ← BlockHeader.lineEnd cs
  let start : Place := ⟨p.line + 1, 0⟩
  let given := match header.increment with
    | some n => (max parent 0).toNat + n
    | none => 0
  let ((breaks, deepest), p, cs) ← leadingBreaks given 0 [] start cs
  let indent := if given = 0 then max deepest (max (parent + 1).toNat 1) else given
  blockLines literal header.chomping indent { breaks } p cs

end FlowCheck.Yaml
