/-!
# Places in a YAML text

Characters that matter to the form of a text, its line breaks in one form, and places as line and column.  The
break of a line is a line feed after `oneBreakForm`; the line and the paragraph separator of Unicode are breaks
of their own.
-/

namespace FlowCheck.Yaml

/-- The character ends a line. -/
def isBreak (c : Char) : Bool :=
  c = '\n' || c = '\u2028' || c = '\u2029'

/-- The character is a space or a tab. -/
def isSpace (c : Char) : Bool :=
  c = ' ' || c = '\t'

/-- The character may be part of the name of an anchor, of a directive or of a tag handle. -/
def isWord (c : Char) : Bool :=
  c.isAlphanum || c = '_' || c = '-'

/-- A space, a tab or a break comes next, or nothing. -/
def endsWord : List Char → Bool
  | [] => true
  | c :: _ => isSpace c || isBreak c

/-- The character may stand in a YAML text. -/
def isAllowed (c : Char) : Bool :=
  let n := c.toNat
  n == 0x09 || n == 0x0A || n == 0x0D || (0x20 ≤ n && n ≤ 0x7E) || n == 0x85 || (0xA0 ≤ n && n ≤ 0xFFFD) || 0x10000 ≤ n

/-- The characters with every carriage return, with or without a line feed, and every next line as a line feed. -/
def oneBreakForm : List Char → List Char
  | [] => []
  | '\r' :: '\n' :: cs => '\n' :: oneBreakForm cs
  | c :: cs => (if c = '\r' ∨ c = '\u0085' then '\n' else c) :: oneBreakForm cs

/-- A line and a column, both counted from zero. -/
structure Place where
  line : Nat := 0
  column : Nat := 0
  deriving DecidableEq

namespace Place

/-- The place after a character. -/
def after (p : Place) (c : Char) : Place :=
  if isBreak c then ⟨p.line + 1, 0⟩ else ⟨p.line, p.column + 1⟩

/-- The place some characters later on the same line. -/
def right (p : Place) (n : Nat) : Place :=
  ⟨p.line, p.column + n⟩

end Place

/-- A row of three hyphens or three points by itself, which at the start of a line separates documents. -/
def isMarker (c : Char) (cs : List Char) : Bool :=
  cs.take 3 == [c, c, c] && endsWord (cs.drop 3)

/-- The text at a place does not go on in the same document. -/
def atDocumentMarker (p : Place) (cs : List Char) : Bool :=
  p.column == 0 && (isMarker '-' cs || isMarker '.' cs)

/-- Scanners take a place and the unread characters, and return a result with the place and the characters after
it. -/
abbrev Scan (α : Type) := Except String (α × Place × List Char)

end FlowCheck.Yaml
