import FlowCheck.Text.Hex

/-!
# Lines, strings and keys

Readers take the unread characters and return a result with the characters after it, or those that are unread
where the text is wrong.  A line ends in a line feed, which a carriage return may precede.  Strings between
double quotes have escapes, those between single quotes have none; three quotes open a string that may run over
several lines, and of the quotes that close it the first two may belong to it.
-/

namespace FlowCheck.Toml

/-- A result and the characters after it, or the characters that are unread at a fault. -/
abbrev Reader (α : Type) := List Char → Except (List Char) (α × List Char)

/-! ## Lines -/

def isSpace (c : Char) : Bool :=
  c = ' ' || c = '\t'

/-- The characters after leading space. -/
def skipSpace (cs : List Char) : List Char :=
  cs.dropWhile isSpace

/-- The character may stand in a comment or in a string as itself: no control character but the tab. -/
def isPlain (c : Char) : Bool :=
  c = '\t' || (0x20 ≤ c.toNat && c.toNat != 0x7F)

/-- The characters after a line break, if one comes next. -/
def afterBreak? : List Char → Option (List Char)
  | '\n' :: cs => some cs
  | '\r' :: '\n' :: cs => some cs
  | _ => none

/-- The rest of a line that holds no more than space and a comment. -/
def lineEnd : Reader Unit := fun cs =>
  let cs := skipSpace cs
  let cs := if cs.head? = some '#' then cs.dropWhile isPlain else cs
  match afterBreak? cs with
  | some cs => .ok ((), cs)
  | none => if cs.isEmpty then .ok ((), []) else .error cs

/-- The characters after space, line breaks and comments. -/
def skipFiller (inComment : Bool) : List Char → List Char
  | [] => []
  | c :: cs =>
    if c = '\n' ∨ (c = '\r' ∧ cs.head? = some '\n') then skipFiller false cs
    else if inComment then if isPlain c then skipFiller true cs else c :: cs
    else if isSpace c then skipFiller false cs
    else if c = '#' then skipFiller true cs
    else c :: cs

/-! ## Strings -/

/-- How a string is quoted. -/
structure Quotes where
  mark : Char
  /-- There are three of them. -/
  threefold : Bool
  deriving DecidableEq

/-- What a backslash and a letter stand for. -/
def escape? (c : Char) : Option Char :=
  match c with
  | 'b' => some '\x08'
  | 't' => some '\t'
  | 'n' => some '\n'
  | 'f' => some '\x0C'
  | 'r' => some '\r'
  | '"' => some '"'
  | '\\' => some '\\'
  | _ => none

/-- The character with a number in hexadecimal digits, as many as there must be. -/
def hexEscape (digits : Nat) : Reader Char := fun cs =>
  match Text.ofHex? (cs.take digits) with
  | some n =>
    if (cs.take digits).length = digits ∧ (n < 0xD800 ∨ (0xDFFF < n ∧ n ≤ 0x10FFFF)) then
      .ok (Char.ofNat n, cs.drop digits)
    else .error cs
  | none => .error cs

/-- What a backslash and the characters after it stand for: one character, or nothing for the break of a line and the
space after it. -/
def escapeSequence (quotes : Quotes) : Reader (List Char) := fun cs =>
  match cs with
  | [] => .error []
  | c :: rest =>
    match escape? c with
    | some d => .ok ([d], rest)
    | none =>
      if c = 'u' then (hexEscape 4 rest).map fun (d, rest) => ([d], rest)
      else if c = 'U' then (hexEscape 8 rest).map fun (d, rest) => ([d], rest)
      else
        match quotes.threefold, afterBreak? (skipSpace cs) with
        | true, some rest =>
          let rec skip : List Char → List Char
            | [] => []
            | c :: cs =>
              if isSpace c ∨ c = '\n' ∨ (c = '\r' ∧ cs.head? = some '\n') then skip cs else c :: cs
          .ok ([], skip rest)
        | _, _ => .error cs

/-- The characters of a string after its opening quotes; `fuel` bounds their number. -/
def stringChars (quotes : Quotes) : Nat → Reader (List Char)
  | 0, cs => .error cs
  | fuel + 1, cs =>
    match cs with
    | [] => .error []
    | c :: rest =>
      let goOn (first : List Char) (rest : List Char) : Except (List Char) (List Char × List Char) := do
        let (text, rest) ← stringChars quotes fuel rest
        return (first ++ text, rest)
      if c = quotes.mark then
        let row := min 5 (cs.takeWhile (· = quotes.mark)).length
        if !quotes.threefold then .ok ([], rest)
        else if row < 3 then goOn (cs.take row) (cs.drop row)
        else .ok (cs.take (row - 3), cs.drop row)
      else if c = '\\' ∧ quotes.mark = '"' then do
        let (first, rest) ← escapeSequence quotes rest
        goOn first rest
      else if isPlain c then goOn [c] rest
      else
        match quotes.threefold, afterBreak? cs with
        | true, some rest => goOn ['\n'] rest
        | _, _ => .error cs

/-- A string, at its first quote. -/
def stringValue : Reader String := fun cs =>
  match cs with
  | [] => .error []
  | mark :: rest =>
    let threefold := rest.take 2 = [mark, mark]
    let body := if threefold then rest.drop 2 else rest
    let body := if threefold then (afterBreak? body).getD body else body
    (stringChars ⟨mark, threefold⟩ (body.length + 1) body).map fun (text, rest) => (String.ofList text, rest)

/-! ## Keys -/

/-- The character may stand in a key without quotes. -/
def isBare (c : Char) : Bool :=
  c.isAlphanum || c = '_' || c = '-'

/-- One part of a key. -/
def simpleKey : Reader String := fun cs =>
  match cs with
  | [] => .error []
  | c :: rest =>
    if c = '"' ∨ c = '\'' then
      (stringChars ⟨c, false⟩ (rest.length + 1) rest).map fun (text, rest) => (String.ofList text, rest)
    else if isBare c then .ok (String.ofList (cs.takeWhile isBare), cs.dropWhile isBare)
    else .error cs

/-- The parts of a key after those before; space may stand around each.  `fuel` bounds their number. -/
def keyParts : Nat → Reader (List String × String)
  | 0, cs => .error cs
  | fuel + 1, cs => do
    let (name, rest) ← simpleKey (skipSpace cs)
    match skipSpace rest with
    | '.' :: rest => do
      let ((path, key), rest) ← keyParts fuel rest
      return ((name :: path, key), rest)
    | rest => return (([], name), rest)

/-- The number of parts that a key may have, and of containers that may be open at a time. -/
def maxDepth : Nat := 79

/-- A key: the tables on the way, and the name in the last one. -/
def dottedKey : Reader (List String × String) := fun cs =>
  keyParts maxDepth cs

end FlowCheck.Toml
