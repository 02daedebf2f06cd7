import FlowCheck.Text.Hex
import FlowCheck.Yaml.Place

/-!
# Plain and quoted scalars

Both may run over several lines.  The space inside them is a `Gap`: on one line it stays as it is; over a line
break it becomes one space, or the breaks after the first.
-/

namespace FlowCheck.Yaml

/-- Space inside a scalar. -/
inductive Gap where
  /-- On one line. -/
  | spaces (cs : List Char)
  /-- Over a line break, which an escape may hide, and the breaks after it. -/
  | breaks (first : Option Char) (more : List Char)

namespace Gap

/-- No space at all. -/
def none : Gap :=
  spaces []

def isEmpty : Gap → Bool
  | spaces [] => true
  | _ => false

def isBroken : Gap → Bool
  | spaces _ => false
  | breaks _ _ => true

/-- One more space or break; spaces around breaks do not count. -/
def push (gap : Gap) (c : Char) : Gap :=
  match gap with
  | spaces cs => if isBreak c then breaks (some c) [] else spaces (cs ++ [c])
  | breaks first more => if isBreak c then breaks first (more ++ [c]) else gap

/-- The characters that stand for the gap. -/
def text : Gap → List Char
  | spaces cs => cs
  | breaks (some '\n') [] => [' ']
  | breaks (some '\n') more => more
  | breaks first more => first.toList ++ more

/-- Puts the gap in front of characters in reverse order. -/
def join (gap : Gap) (done : List Char) : List Char :=
  gap.text.reverse ++ done

end Gap

private def isFlowIndicator (c : Char) : Bool :=
  c = ',' || c = '[' || c = ']' || c = '\x7b' || c = '\x7d'

/-- A plain scalar ends before a character.  In block context it ends where a line is indented less than `indent`. -/
def endsPlain (inFlow : Bool) (indent : Int) (gap : Gap) (p : Place) (c : Char) (rest : List Char) : Bool :=
  (gap.isBroken && !inFlow && (p.column : Int) < indent) || atDocumentMarker p (c :: rest) ||
    (c = '#' && !gap.isEmpty) || (c = ':' && endsWord rest) || (inFlow && isFlowIndicator c)

/-- A plain scalar.  `done` are its characters so far in reverse; the result also says whether a line break
follows. -/
def plainScalar (inFlow : Bool) (indent : Int) (done : List Char) (gap : Gap) (p : Place) :
    List Char → Scan (String × Bool)
  | [] => .ok ((String.ofList done.reverse, gap.isBroken), p, [])
  | c :: cs =>
    if isSpace c || isBreak c then
      if c = '\t' && gap.isBroken && (p.column : Int) < indent then .error "a tab stands where indentation is expected"
      else plainScalar inFlow indent done (gap.push c) (p.after c) cs
    else if endsPlain inFlow indent gap p c cs then
      .ok ((String.ofList done.reverse, gap.isBroken), p, c :: cs)
    else if inFlow && c = ':' && cs.head?.any (fun d => isFlowIndicator d || d = '?') then
      .error "a colon stands before an indicator"
    else plainScalar inFlow indent (c :: gap.join done) .none (p.after c) cs

/-- What a backslash and a letter stand for in a double-quoted scalar. -/
def escape? (c : Char) : Option Char :=
  match c with
  | '0' => some '\x00'
  | 'a' => some '\x07'
  | 'b' => some '\x08'
  | 't' => some '\t'
  | '\t' => some '\t'
  | 'n' => some '\n'
  | 'v' => some '\x0B'
  | 'f' => some '\x0C'
  | 'r' => some '\r'
  | 'e' => some '\x1B'
  | ' ' => some ' '
  | '"' => some '"'
  | '/' => some '/'
  | '\\' => some '\\'
  | 'N' => some '\u0085'
  | '_' => some '\u00A0'
  | 'L' => some '\u2028'
  | 'P' => some '\u2029'
  | _ => none

/-- How many hexadecimal digits follow a backslash and a letter. -/
def hexDigits? (c : Char) : Option Nat :=
  match c with
  | 'x' => some 2
  | 'u' => some 4
  | 'U' => some 8
  | _ => none

/-- What the last characters of a quoted scalar call for. -/
inductive QuotedState where
  | text
  /-- A single quote came, which ends the scalar unless another one follows. -/
  | quote
  /-- A backslash came. -/
  | escape
  /-- Hexadecimal digits are missing. -/
  | hex (missing value : Nat)

/-- A quoted scalar after its opening quote. -/
def quotedScalar (single : Bool) (state : QuotedState) (done : List Char) (gap : Gap) (p : Place) :
    List Char → Scan String
  | [] =>
    match state with
    | .quote => .ok (String.ofList done.reverse, p, [])
    | _ => .error "a quoted scalar does not end"
  | c :: cs =>
    match state with
    | .hex missing value =>
      match Text.hexDigit? c with
      | none => .error "a hexadecimal digit is missing"
      | some d =>
        let value := 16 * value + d
        if 1 < missing then quotedScalar single (.hex (missing - 1) value) done gap (p.after c) cs
        else if (0xD800 ≤ value ∧ value ≤ 0xDFFF) ∨ 0x10FFFF < value then .error "an escape stands for no character"
        else quotedScalar single .text (Char.ofNat value :: done) gap (p.after c) cs
    | .escape =>
      if isBreak c then quotedScalar single .text done (.breaks .none []) (p.after c) cs
      else
        match escape? c, hexDigits? c with
        | some d, _ => quotedScalar single .text (d :: done) gap (p.after c) cs
        | none, some n => quotedScalar single (.hex n 0) done gap (p.after c) cs
        | none, none => .error "an escape is unknown"
    | .quote =>
      if c = '\'' then quotedScalar single .text (c :: done) gap (p.after c) cs
      else .ok (String.ofList done.reverse, p, c :: cs)
    | .text =>
      if isSpace c || isBreak c then quotedScalar single .text done (gap.push c) (p.after c) cs
      else if atDocumentMarker p (c :: cs) then .error "a quoted scalar meets the end of its document"
      else if single && c = '\'' then quotedScalar single .quote (gap.join done) .none (p.after c) cs
      else if !single && c = '"' then .ok (String.ofList (gap.join done).reverse, p.after c, cs)
      else if !single && c = '\\' then quotedScalar single .escape (gap.join done) .none (p.after c) cs
      else quotedScalar single .text (c :: gap.join done) .none (p.after c) cs

end FlowCheck.Yaml
