import FlowCheck.Yaml.Scalar

/-!
# YAML text

Block style with two spaces a level; a list is not indented under its key, and empty containers are written `[]`
and `{}`.  A text is plain where that reads back as the same text, a literal block when it has line feeds, and
else quoted; `Quotes` are what the characters of a text allow.  A key that is long or has line breaks stands
after a question mark.
-/

namespace FlowCheck.Yaml.Printer

/-! ## Characters -/

/-- The characters that end a line. -/
def isBreak (c : Char) : Bool :=
  c = '\n' || c = '\r' || c = '\u0085' || c = '\u2028' || c = '\u2029'

/-- The characters that may stand for themselves. -/
def isPrintable (c : Char) : Bool :=
  let n := c.toNat
  n = 0x0A || (0x20 ≤ n && n ≤ 0x7E) || (0xA0 ≤ n && n ≠ 0xFEFF && n ≠ 0xFFFE && n ≠ 0xFFFF)

/-- A space, a tab, a line break, NUL, or the end of the text. -/
def isGap : Option Char → Bool
  | none => true
  | some c => c = ' ' || c = '\t' || c = '\x00' || isBreak c

/-- The neighbouring characters of a text. -/
def pairs (cs : List Char) : List (Char × Char) :=
  cs.zip (cs.drop 1)

/-! ## The style of a text -/

/-- How a text may be written. -/
structure Quotes where
  plain : Bool
  single : Bool
  block : Bool

/-- The first character, with the one after it, begins something other than a plain text. -/
def opensMarkup (c : Char) (next : Option Char) : Bool :=
  [',', '[', ']', '\x7b', '\x7d', '#', '&', '*', '!', '|', '>', '\'', '"', '%', '@', '\x60'].contains c ||
    ((c = '?' || c = ':' || c = '-') && isGap next)

/-- A colon before a gap, or a number sign after one, inside a text. -/
def hasInnerMarkup : List Char → Bool
  | [] => false
  | [_] => false
  | c :: d :: rest => (d = ':' && isGap rest.head?) || (d = '#' && isGap (some c)) || hasInnerMarkup (d :: rest)

/-- The text cannot be told from markup when it stands alone in a block. -/
def looksLikeMarkup (cs : List Char) : Bool :=
  match cs with
  | [] => false
  | c :: rest =>
    ['-', '-', '-'].isPrefixOf cs || ['.', '.', '.'].isPrefixOf cs || opensMarkup c rest.head? || hasInnerMarkup cs

/-- What the characters of a text allow. -/
def quotes (cs : List Char) : Quotes :=
  let special := cs.any (!isPrintable ·)
  let breaks := cs.any isBreak
  let edge (c : Char) : Bool := c = ' ' || isBreak c
  let breakSpace := (pairs cs).any fun p => isBreak p.1 && p.2 = ' '
  let spaceBreak := (pairs cs).any fun p => p.1 = ' ' && isBreak p.2
  { plain := !(special || breaks || cs.head?.any edge || cs.getLast?.any edge || looksLikeMarkup cs)
    single := !(special || breakSpace || spaceBreak)
    block := !(cs.isEmpty || special || spaceBreak || cs.getLast? == some ' ') }

inductive Style where
  | plain
  | single
  | double
  | literal
  deriving DecidableEq

/-- The text would be read as something other than a text, or nearly so. -/
def needsQuotes (s : String) : Bool :=
  resolve s != .text || hasLeadingZero s.toList

/-- The style of a text. -/
def style (s : String) : Style :=
  let allowed := quotes s.toList
  if s.toList.contains '\n' then (if allowed.block then .literal else .double)
  else if !needsQuotes s && allowed.plain then .plain
  else if allowed.single then .single
  else .double

/-! ## Writing texts -/

def spaces (indent : Nat) : List Char :=
  List.replicate indent ' '

private def upperHexPadded (width n : Nat) : List Char :=
  (Text.hexPadded width n).map Char.toUpper

/-- One character between double quotes. -/
def doubleEscape (c : Char) : List Char :=
  let n := c.toNat
  if c = '"' || c = '\\' then ['\\', c]
  else if isPrintable c && !isBreak c then [c]
  else '\\' ::
    if n = 0x00 then ['0']
    else if n = 0x07 then ['a']
    else if n = 0x08 then ['b']
    else if n = 0x09 then ['t']
    else if n = 0x0A then ['n']
    else if n = 0x0B then ['v']
    else if n = 0x0C then ['f']
    else if n = 0x0D then ['r']
    else if n = 0x1B then ['e']
    else if n = 0x85 then ['N']
    else if n = 0x2028 then ['L']
    else if n = 0x2029 then ['P']
    else if n ≤ 0xFF then 'x' :: upperHexPadded 2 n
    else if n ≤ 0xFFFF then 'u' :: upperHexPadded 4 n
    else 'U' :: upperHexPadded 8 n

/-- The characters of a text with the indentation that follows each line break.  `fresh` holds after a break. -/
def indented (indent : Nat) (write : Char → List Char) : Bool → List Char → List Char
  | _, [] => []
  | fresh, c :: cs =>
    if isBreak c then c :: indented indent write true cs
    else (if fresh then spaces indent else []) ++ write c ++ indented indent write false cs

/-- A text between single quotes; a quote inside is written twice. -/
def singleQuoted (indent : Nat) (cs : List Char) : List Char :=
  let write (c : Char) : List Char := if c = '\'' then ['\'', '\''] else [c]
  '\'' :: indented indent write false cs ++
    (if cs.getLast?.any isBreak then spaces indent else []) ++ ['\'']

def doubleQuoted (cs : List Char) : List Char :=
  '"' :: cs.flatMap doubleEscape ++ ['"']

/-- The marks after the bar of a literal block: an indentation that could not be guessed, and what becomes of the line
breaks at the end. -/
def literalMarks (cs : List Char) : List Char :=
  let indentMark := if cs.head?.any fun c => c = ' ' || isBreak c then ['2'] else []
  let endMark := match cs.reverse with
    | [] => ['-']
    | [c] => if isBreak c then ['+'] else ['-']
    | c :: d :: _ => if !isBreak c then ['-'] else if isBreak d then ['+'] else []
  indentMark ++ endMark

def literalBlock (indent : Nat) (cs : List Char) : List Char :=
  '|' :: literalMarks cs ++ '\n' :: indented indent (fun c => [c]) true cs

/-- A text in its style; further lines have the given indentation. -/
def writeText (indent : Nat) (s : String) : List Char :=
  match style s with
  | .plain => s.toList
  | .single => singleQuoted indent s.toList
  | .double => doubleQuoted s.toList
  | .literal => literalBlock indent s.toList

/-! ## Writing trees -/

/-- What stands before a node on its line. -/
inductive Place where
  /-- Nothing: the node is the document. -/
  | root
  /-- The mark of an element, of a long key or of its value. -/
  | mark
  /-- A key on the same line. -/
  | key

/-- Ends the line, unless the text before it already did. -/
def endLine (text : List Char) : List Char :=
  if text.getLast?.any isBreak then text else text ++ ['\n']

/-- A node on the line that its place began. -/
def inline (place : Place) (text : List Char) : List Char :=
  match place with
  | .root => text
  | _ => ' ' :: text

/-- A key that stands on one line with its value. -/
def isSimpleKey (key : String) : Bool :=
  !key.toList.any isBreak && key.utf8ByteSize ≤ 128

/-- A scalar or an empty container; further lines have the given indentation. -/
def scalar (indent : Nat) : Value → List Char
  | .null => "null".toList
  | .bool b => (toString b).toList
  | .int n => (toString n.val).toList
  | .float x => (DecimalStyle.yaml.text x).toList
  | .string s => writeText indent s
  | .list _ => ['[', ']']
  | .object _ => ['\x7b', '\x7d']

/-- Entries in a block: the first one continues the line of a mark, every other one begins a line. -/
def block (place : Place) (indent : Nat) (entries : List (List Char)) : List Char :=
  let lines := entries.map endLine
  match place with
  | .key => '\n' :: lines.flatMap (spaces indent ++ ·)
  | .mark => ' ' :: (lines.take 1).flatten ++ (lines.drop 1).flatMap (spaces indent ++ ·)
  | .root => lines.flatMap (spaces indent ++ ·)

/-- The mark of a list element. -/
def dash : List Char := ['-']

mutual

/-- A node after its place.  `indent` is the indentation of the block that holds it. -/
def node (place : Place) (indent : Nat) : Value → List Char
  | .list (v :: vs) =>
    let inner := match place with
      | .mark => indent + 2
      | _ => indent
    block place inner (nodeItems inner (v :: vs))
  | .object (field :: fields) =>
    let inner := match place with
      | .root => indent
      | _ => indent + 2
    block place inner (nodeFields inner (field :: fields))
  | v => inline place (scalar (indent + 2) v)

def nodeItems (indent : Nat) : List Value → List (List Char)
  | [] => []
  | v :: vs => (dash ++ node .mark indent v) :: nodeItems indent vs

def nodeFields (indent : Nat) : List (String × Value) → List (List Char)
  | [] => []
  | (k, v) :: fields =>
    let entry :=
      if isSimpleKey k then writeText (indent + 2) k ++ ':' :: node .key indent v
      else endLine ('?' :: ' ' :: writeText (indent + 2) k) ++ spaces indent ++ ':' :: node .mark indent v
    entry :: nodeFields indent fields

end

end FlowCheck.Yaml.Printer

namespace FlowCheck.Yaml

/-- The YAML text of a tree. -/
def text (v : Value) : String :=
  String.ofList (Printer.endLine (Printer.node .root 0 v))

end FlowCheck.Yaml
