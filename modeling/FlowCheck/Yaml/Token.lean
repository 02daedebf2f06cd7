import FlowCheck.Text.Hex
import FlowCheck.Yaml.BlockScalar
import FlowCheck.Yaml.FlowScalar

/-!
# Tokens of YAML

`Token.ofText` cuts a text into tokens.  Indentation becomes tokens of its own: a block begins before the first entry
that is indented deeper, and ends where a line is indented less.  What comes before a colon is a key, which is known
only at the colon; the place of a possible key is kept until then, at most for one line and 1024 characters.
-/

namespace FlowCheck.Yaml

inductive Token where
  | streamEnd
  | version (major minor : Nat)
  | handle (name stem : String)
  | documentStart
  | documentEnd
  | blockListStart
  | blockMappingStart
  | blockEnd
  | listStart
  | listEnd
  | mappingStart
  | mappingEnd
  | entry
  | comma
  | key
  | value
  | alias (name : String)
  | anchor (name : String)
  | tag (handle suffix : String)
  | scalar (plain : Bool) (text : String)
  deriving DecidableEq

/-- A place where a key may begin that a later colon shows to be one. -/
structure OpenKey where
  /-- How many tokens come before it. -/
  number : Nat
  place : Place
  /-- Without a colon the text is faulty. -/
  isRequired : Bool

namespace OpenKey

/-- A colon at the place is too far away. -/
def isStale (k : OpenKey) (p : Place) : Bool :=
  k.place.line < p.line || k.place.column + 1024 < p.column

/-- Gives up a key. -/
def drop (k : Option OpenKey) : Except String Unit :=
  if k.any (·.isRequired) then .error "a colon is missing after a key" else .ok ()

/-- Gives up a key that is stale. -/
def expire (p : Place) (k : Option OpenKey) : Except String (Option OpenKey) :=
  if k.any (·.isStale p) then (drop k).map fun _ => none else .ok k

end OpenKey

/-- What a scanner knows between two tokens. -/
structure TokenState where
  /-- The tokens so far, in reverse. -/
  tokens : List Token := []
  count : Nat := 0
  /-- The column of the innermost block; negative outside all blocks. -/
  indent : Int := -1
  /-- The columns of the blocks around it. -/
  indents : List Int := []
  /-- A key may begin here. -/
  keyAllowed : Bool := true
  openKey : Option OpenKey := none
  /-- The possible keys around the open brackets, innermost first. -/
  outerKeys : List (Option OpenKey) := []

namespace TokenState

/-- Inside brackets indentation does not matter. -/
def inFlow (s : TokenState) : Bool :=
  !s.outerKeys.isEmpty

def push (s : TokenState) (t : Token) : TokenState :=
  { s with tokens := t :: s.tokens, count := s.count + 1 }

/-- Puts a token behind the first `n`. -/
def insert (s : TokenState) (n : Nat) (t : Token) : TokenState :=
  let later := s.count - n
  { s with tokens := s.tokens.take later ++ t :: s.tokens.drop later, count := s.count + 1 }

/-- Gives up all keys that are stale. -/
def expire (s : TokenState) (p : Place) : Except String TokenState := do
  let outerKeys ← s.outerKeys.mapM (OpenKey.expire p)
  let openKey ← OpenKey.expire p s.openKey
  return { s with openKey, outerKeys }

/-- Gives up the innermost key. -/
def dropKey (s : TokenState) : Except String TokenState := do
  OpenKey.drop s.openKey
  return { s with openKey := none }

/-- Remembers that a key may begin here. -/
def saveKey (s : TokenState) (p : Place) : Except String TokenState :=
  if s.keyAllowed then do
    let s ← s.dropKey
    return { s with openKey := some ⟨s.count, p, !s.inFlow && s.indent == p.column⟩ }
  else .ok s

/-- Begins a block behind the first `n` tokens if the column is deeper than that of the innermost block. -/
def openBlock (s : TokenState) (column n : Nat) (start : Token) : TokenState :=
  if !s.inFlow && s.indent < column then
    { s.insert n start with indents := s.indent :: s.indents, indent := column }
  else s

/-- How many of the innermost blocks are deeper than a column, and the blocks that are left. -/
def deeperBlocks (column : Int) (indent : Int) : List Int → Nat × Int × List Int
  | [] => (0, indent, [])
  | outer :: indents =>
    if column < indent then
      let (n, rest) := deeperBlocks column outer indents
      (n + 1, rest)
    else (0, indent, outer :: indents)

/-- Ends the blocks that are deeper than a column. -/
def closeBlocks (s : TokenState) (column : Int) : TokenState :=
  if s.inFlow then s
  else
    let (n, indent, indents) := deeperBlocks column s.indent s.indents
    { s with tokens := List.replicate n .blockEnd ++ s.tokens, count := s.count + n, indent, indents }

/-! ## Tokens of one or a few characters -/

/-- The end of the text, or a mark between documents. -/
def boundary (s : TokenState) (t : Token) : Except String TokenState := do
  let s ← (s.closeBlocks (-1)).dropKey
  return { s.push t with keyAllowed := false }

def openBracket (s : TokenState) (p : Place) (t : Token) : Except String TokenState := do
  let s ← s.saveKey p
  return { s.push t with keyAllowed := true, openKey := none, outerKeys := s.openKey :: s.outerKeys }

def closeBracket (s : TokenState) (t : Token) : Except String TokenState := do
  let s ← s.dropKey
  return { s.push t with
    keyAllowed := false, openKey := s.outerKeys.headD none, outerKeys := s.outerKeys.tail }

def comma (s : TokenState) : Except String TokenState := do
  let s ← s.dropKey
  return { s.push .comma with keyAllowed := true }

/-- The hyphen before an element of a list. -/
def entry (s : TokenState) (p : Place) : Except String TokenState := do
  if !s.inFlow && !s.keyAllowed then throw "an element of a list stands where none may stand"
  let s ← (s.openBlock p.column s.count .blockListStart).dropKey
  return { s.push .entry with keyAllowed := true }

/-- The question mark before a key. -/
def questionMark (s : TokenState) (p : Place) : Except String TokenState := do
  if !s.inFlow && !s.keyAllowed then throw "a key stands where none may stand"
  let s ← (s.openBlock p.column s.count .blockMappingStart).dropKey
  return { s.push .key with keyAllowed := !s.inFlow }

/-- The colon before a value. -/
def colon (s : TokenState) (p : Place) : Except String TokenState := do
  match s.openKey with
  | some k =>
    let s := (s.insert k.number .key).openBlock k.place.column k.number .blockMappingStart
    return { s.push .value with openKey := none, keyAllowed := false }
  | none =>
    if !s.inFlow && !s.keyAllowed then throw "a value stands where none may stand"
    let s := s.openBlock p.column s.count .blockMappingStart
    return { s.push .value with keyAllowed := !s.inFlow }

/-- A scalar, an alias, an anchor or a tag, which may begin a key. -/
def content (s : TokenState) (p : Place) (t : Token) : Except String TokenState := do
  let s ← s.saveKey p
  return { s.push t with keyAllowed := false }

end TokenState

/-! ## Directives, anchors and tags -/

/-- A row of at most nine digits. -/
def versionNumber (cs : List Char) : Except String (Nat × List Char) :=
  let digits := cs.takeWhile Char.isDigit
  if digits.isEmpty ∨ 9 < digits.length then .error "a version number is faulty"
  else .ok (digits.foldl (fun n c => 10 * n + (c.toNat - '0'.toNat)) 0, cs.drop digits.length)

/-- The handle of a tag: an exclamation mark, or a word between two. -/
def tagHandle (isDirective : Bool) : List Char → Except String (List Char × List Char)
  | '!' :: cs =>
    let name := cs.takeWhile isWord
    match cs.dropWhile isWord with
    | '!' :: rest => .ok ('!' :: name ++ ['!'], rest)
    | rest =>
      if isDirective && !name.isEmpty then .error "a handle does not end" else .ok ('!' :: name, rest)
  | _ => .error "a handle is missing"

private def isUriChar (inBrackets : Bool) (c : Char) : Bool :=
  isWord c || ";/?:@&=+$.%!~*'()".toList.contains c || (inBrackets && (c = ',' || c = '[' || c = ']'))

/-- A percent sign and two hexadecimal digits. -/
def uriOctet : List Char → Except String (Nat × List Char)
  | '%' :: a :: b :: cs =>
    match Text.ofHex? [a, b] with
    | some n => .ok (n, cs)
    | none => .error "an escape in a tag is faulty"
  | _ => .error "an escape in a tag is faulty"

/-- The octets of a character after its first one. -/
def uriOctets : Nat → Nat → List Char → Except String (Nat × List Char)
  | 0, value, cs => .ok (value, cs)
  | n + 1, value, cs => do
    let (octet, cs) ← uriOctet cs
    if octet / 64 ≠ 2 then throw "an escape in a tag is faulty"
    uriOctets n (64 * value + octet % 64) cs

/-- A character as escaped octets of its UTF-8 form. -/
def uriEscape (cs : List Char) : Except String (Char × List Char) := do
  let (octet, cs) ← uriOctet cs
  let (more, value) ←
    if octet < 0x80 then pure (0, octet)
    else if octet / 32 = 6 then pure (1, octet % 32)
    else if octet / 16 = 14 then pure (2, octet % 16)
    else if octet / 8 = 30 then pure (3, octet % 8)
    else throw "an escape in a tag is faulty"
  let (value, cs) ← uriOctets more value cs
  return (Char.ofNat value, cs)

/-- The characters of a tag with their escapes replaced.  Fuel for each character is enough. -/
def uriChars (inBrackets : Bool) : Nat → List Char → Except String (List Char × List Char)
  | 0, cs => .ok ([], cs)
  | fuel + 1, cs =>
    match cs with
    | [] => .ok ([], [])
    | c :: rest =>
      if !isUriChar inBrackets c then .ok ([], cs)
      else do
        let (c, rest) ← if c = '%' then uriEscape cs else pure (c, rest)
        let (chars, rest) ← uriChars inBrackets fuel rest
        return (c :: chars, rest)

/-- The characters of a tag, of which there is at least one unless `mayBeEmpty`. -/
def uri (inBrackets mayBeEmpty : Bool) (cs : List Char) : Except String (List Char × List Char) := do
  let (chars, rest) ← uriChars inBrackets cs.length cs
  if chars.isEmpty && !mayBeEmpty then throw "a tag is empty"
  return (chars, rest)

/-- A tag: in angle brackets as it is, else with a handle in front; an exclamation mark alone is a tag too. -/
def tagToken (inFlow : Bool) (cs : List Char) : Except String (Token × List Char) := do
  let (t, rest) ← match cs with
    | '!' :: '<' :: cs => do
      let (suffix, rest) ← uri true false cs
      match rest with
      | '>' :: rest => pure (Token.tag "" (String.ofList suffix), rest)
      | _ => throw "a tag in brackets does not end"
    | cs => do
      let (handle, rest) ← tagHandle false cs
      if 1 < handle.length ∧ handle.getLast? = some '!' then
        let (suffix, rest) ← uri false false rest
        pure (Token.tag (String.ofList handle) (String.ofList suffix), rest)
      else
        let (suffix, rest) ← uri false true rest
        let suffix := handle.tail ++ suffix
        pure (if suffix.isEmpty then Token.tag "" "!" else Token.tag "!" (String.ofList suffix), rest)
  if endsWord rest || (inFlow && rest.head? = some ',') then return (t, rest)
  throw "a tag does not end with space"

/-- The name of an anchor or an alias. -/
def anchorName (cs : List Char) : Except String (String × List Char) :=
  let name := cs.takeWhile isWord
  let rest := cs.drop name.length
  if !name.isEmpty && (endsWord rest || rest.head?.any ("?:,]\x7d%@\x60".toList.contains ·)) then
    .ok (String.ofList name, rest)
  else .error "the name of an anchor is faulty"

/-- A directive after its percent sign. -/
def directive (cs : List Char) : Except String (Token × List Char) := do
  let name := cs.takeWhile isWord
  let rest := cs.drop name.length
  if !endsWord rest then throw "the name of a directive is faulty"
  let rest := rest.dropWhile isSpace
  let (t, rest) ←
    if name = "YAML".toList then do
      let (major, rest) ← versionNumber rest
      match rest with
      | '.' :: rest =>
        let (minor, rest) ← versionNumber rest
        pure (Token.version major minor, rest)
      | _ => throw "a version number is faulty"
    else if name = "TAG".toList then do
      let (handle, rest) ← tagHandle true rest
      if !(rest.head?.any isSpace) then throw "a handle does not end with space"
      let (stem, rest) ← uri true false (rest.dropWhile isSpace)
      if !endsWord rest then throw "a directive does not end with space"
      pure (Token.handle (String.ofList handle) (String.ofList stem), rest)
    else throw "a directive is unknown"
  match rest.dropWhile isSpace with
  | [] => return (t, [])
  | c :: rest =>
    if c = '#' then return (t, rest.dropWhile (!isBreak ·))
    else if isBreak c then return (t, c :: rest)
    else throw "a directive goes on"

/-! ## The scanner -/

/-- Skips space, comments and breaks.  Where a key may begin a tab is no space; after a break a key may begin.  A byte
order mark may begin a line. -/
def skipSpace (inFlow keyAllowed inComment : Bool) (p : Place) : List Char → Bool × Place × List Char
  | [] => (keyAllowed, p, [])
  | c :: cs =>
    if isBreak c then skipSpace inFlow (keyAllowed || !inFlow) false (p.after c) cs
    else if inComment || c = ' ' || (c = '\t' && (inFlow || !keyAllowed)) || (c = '\uFEFF' && p.column = 0) then
      skipSpace inFlow keyAllowed inComment (p.after c) cs
    else if c = '#' then skipSpace inFlow keyAllowed true (p.after c) cs
    else (keyAllowed, p, c :: cs)

def startsPlain (inFlow : Bool) (c : Char) (rest : List Char) : Bool :=
  !(isSpace c || isBreak c || "-?:,[]\x7b\x7d#&*!|>'\"%@\x60".toList.contains c) ||
    (c = '-' && !(rest.head?.any isSpace)) || (!inFlow && (c = '?' || c = ':') && !endsWord rest)

namespace TokenState

/-- Reads the next token, which begins with the first unread character. -/
def next (s : TokenState) (p : Place) (c : Char) (rest : List Char) :
    Except String (TokenState × Place × List Char) := do
  let cs := c :: rest
  let taking (n : Nat) (s : Except String TokenState) := s.map fun s => (s, p.right n, cs.drop n)
  let upTo (rest : List Char) (s : Except String TokenState) :=
    s.map fun s => (s, p.right (cs.length - rest.length), rest)
  if p.column = 0 ∧ c = '%' then
    let s ← (s.closeBlocks (-1)).dropKey
    let (t, rest) ← directive rest
    upTo rest (.ok { s.push t with keyAllowed := false })
  else if p.column = 0 ∧ isMarker '-' cs then taking 3 (s.boundary .documentStart)
  else if p.column = 0 ∧ isMarker '.' cs then taking 3 (s.boundary .documentEnd)
  else if c = '[' then taking 1 (s.openBracket p .listStart)
  else if c = '\x7b' then taking 1 (s.openBracket p .mappingStart)
  else if c = ']' then taking 1 (s.closeBracket .listEnd)
  else if c = '\x7d' then taking 1 (s.closeBracket .mappingEnd)
  else if c = ',' then taking 1 s.comma
  else if c = '-' ∧ endsWord rest then taking 1 (s.entry p)
  else if c = '?' ∧ (s.inFlow ∨ endsWord rest) then taking 1 (s.questionMark p)
  else if c = ':' ∧ (s.inFlow ∨ endsWord rest) then taking 1 (s.colon p)
  else if c = '*' then
    let (name, rest) ← anchorName rest
    upTo rest (s.content p (.alias name))
  else if c = '&' then
    let (name, rest) ← anchorName rest
    upTo rest (s.content p (.anchor name))
  else if c = '!' then
    let (t, rest) ← tagToken s.inFlow cs
    upTo rest (s.content p t)
  else if (c = '|' ∨ c = '>') ∧ !s.inFlow then
    let s ← s.dropKey
    let (text, after) ← blockScalar (c = '|') s.indent (p.after c) rest
    return ({ s.push (.scalar false text) with keyAllowed := true }, after)
  else if c = '\'' ∨ c = '"' then
    let (text, after) ← quotedScalar (c = '\'') .text [] .none (p.after c) rest
    return (← s.content p (.scalar false text), after)
  else if startsPlain s.inFlow c rest then
    let ((text, isBroken), after) ← plainScalar s.inFlow (s.indent + 1) [] .none p cs
    let s ← s.content p (.scalar true text)
    return ({ s with keyAllowed := isBroken }, after)
  else throw "a character cannot begin a token"

/-- Reads all tokens.  Each has at least one character, so fuel for the characters and one more is enough. -/
def scan : Nat → TokenState → Place → List Char → Except String (List Token)
  | 0, s, _, _ => .ok s.tokens.reverse
  | fuel + 1, s, p, cs => do
    let (keyAllowed, p, cs) := skipSpace s.inFlow s.keyAllowed false p cs
    let s ← ({ s with keyAllowed }).expire p
    let s := s.closeBlocks p.column
    match cs with
    | [] => return (← s.boundary .streamEnd).tokens.reverse
    | c :: rest =>
      let (s, p, cs) ← s.next p c rest
      scan fuel s p cs

end TokenState

/-- The tokens of a text. -/
def Token.ofText (text : String) : Except String (List Token) :=
  let cs := text.toList
  if !cs.all isAllowed then .error "a character is not allowed"
  else
    let cs := oneBreakForm cs
    TokenState.scan (cs.length + 1) {} {} cs

end FlowCheck.Yaml
