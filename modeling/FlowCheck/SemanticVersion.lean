import FlowCheck.Text.Quoted

/-!
# Semantic versions

A version is three numbers below `2 ^ 64` between points, then optionally identifiers of a pre-release after a hyphen
and of a build after a plus sign.  `read` says for a text that is no version what is wrong with it, and in which part.
-/

namespace FlowCheck.SemanticVersion

/-- The parts of a version. -/
inductive Part where
  | major
  | minor
  | patch
  | preRelease
  | build
  deriving DecidableEq

def Part.name : Part → String
  | .major => "major version number"
  | .minor => "minor version number"
  | .patch => "patch version number"
  | .preRelease => "pre-release identifier"
  | .build => "build metadata"

/-- Why a text is not a version. -/
inductive Fault where
  | empty
  | unexpectedEnd (part : Part)
  | unexpectedIn (part : Part) (c : Char)
  | unexpectedAfter (part : Part) (c : Char)
  | leadingZero (part : Part)
  | overflow (part : Part)
  | emptySegment (part : Part)
  deriving DecidableEq

def Fault.message : Fault → String
  | .empty => "empty string, expected a semver version"
  | .unexpectedEnd part => s!"unexpected end of input while parsing {part.name}"
  | .unexpectedIn part c => s!"unexpected character {Text.quotedChar c} while parsing {part.name}"
  | .unexpectedAfter part c => s!"unexpected character {Text.quotedChar c} after {part.name}"
  | .leadingZero part => s!"invalid leading zero in {part.name}"
  | .overflow part => s!"value of {part.name} exceeds u64::MAX"
  | .emptySegment part => s!"empty identifier segment in {part.name}"

/-- The digits of a number from left to right, after those that make `value`. -/
private def readDigits (part : Part) (first : Bool) (value : Nat) : List Char → Except Fault (Nat × List Char)
  | [] => .ok (value, [])
  | c :: rest =>
    if !c.isDigit then .ok (value, c :: rest)
    else if value = 0 ∧ !first then .error (.leadingZero part)
    else
      let value := 10 * value + (c.toNat - '0'.toNat)
      if 0x10000000000000000 ≤ value then .error (.overflow part) else readDigits part false value rest

/-- A number below `2 ^ 64` without leading zeros. -/
def readNumber (part : Part) : List Char → Except Fault (Nat × List Char)
  | [] => .error (.unexpectedEnd part)
  | c :: rest => if c.isDigit then readDigits part true 0 (c :: rest) else .error (.unexpectedIn part c)

/-- The point after a number. -/
def readPoint (part : Part) : List Char → Except Fault (List Char)
  | [] => .error (.unexpectedEnd part)
  | c :: rest => if c = '.' then .ok rest else .error (.unexpectedAfter part c)

private def isIdentifierChar (c : Char) : Bool :=
  c.isAlphanum || c == '-'

/-- Identifiers between points; the last one ends before the first other character.  Of a pre-release, an identifier
that is a number has no leading zero. -/
def readIdentifiers (part : Part) (cs : List Char) : Except Fault (List Char) :=
  let segment := cs.takeWhile isIdentifierChar
  if segment.isEmpty then .error (.emptySegment part)
  else if part = .preRelease ∧ segment.all Char.isDigit ∧ 1 < segment.length ∧ segment.head? = some '0' then
    .error (.leadingZero part)
  else
    match _h : cs.dropWhile isIdentifierChar with
    | '.' :: rest => readIdentifiers part rest
    | rest => .ok rest
termination_by cs.length
decreasing_by
  have := (List.dropWhile_sublist isIdentifierChar (l := cs)).length_le
  rw [_h, List.length_cons] at this
  omega

/-- Accepts versions only. -/
def check (s : String) : Except Fault Unit := do
  if s.isEmpty then throw .empty
  let (_, rest) ← readNumber .major s.toList
  let (_, rest) ← readNumber .minor (← readPoint .major rest)
  let (_, rest) ← readNumber .patch (← readPoint .minor rest)
  let (part, rest) ← match rest with
    | '-' :: rest => do pure (Part.preRelease, ← readIdentifiers .preRelease rest)
    | rest => pure (Part.patch, rest)
  let (part, rest) ← match rest with
    | '+' :: rest => do pure (Part.build, ← readIdentifiers .build rest)
    | rest => pure (part, rest)
  match rest with
  | [] => pure ()
  | c :: _ => throw (.unexpectedAfter part c)

end FlowCheck.SemanticVersion
