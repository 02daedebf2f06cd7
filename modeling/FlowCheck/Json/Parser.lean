import FlowCheck.Text.Hex
import FlowCheck.Value.Basic

/-!
# Reading JSON

`read` turns a text into a tree, or says what is wrong with it and where: lines count from one, columns are
bytes since the last line feed.  Readers take the unread characters and return those they leave.  Containers may
be nested 127 deep.  An integer that does not fit 64 bits becomes a double, and a double is computed in two
roundings: of its digits, and of the product or quotient with a power of ten.
-/

namespace FlowCheck.Json

/-- What is wrong with a text. -/
inductive Fault where
  | endInValue
  | endInList
  | endInObject
  | endInString
  | expectedColon
  | expectedListEnd
  | expectedObjectEnd
  | expectedIdent
  | expectedValue
  | invalidEscape
  | invalidNumber
  | numberOutOfRange
  | controlCharacter
  | keyNotString
  | loneSurrogate
  | trailingComma
  | trailingCharacters
  | unpairedSurrogate
  | tooDeep
  deriving DecidableEq

def Fault.message : Fault → String
  | .endInValue => "EOF while parsing a value"
  | .endInList => "EOF while parsing a list"
  | .endInObject => "EOF while parsing an object"
  | .endInString => "EOF while parsing a string"
  | .expectedColon => "expected `:`"
  | .expectedListEnd => "expected `,` or `]`"
  | .expectedObjectEnd => "expected `,` or `\x7d`"
  | .expectedIdent => "expected ident"
  | .expectedValue => "expected value"
  | .invalidEscape => "invalid escape"
  | .invalidNumber => "invalid number"
  | .numberOutOfRange => "number out of range"
  | .controlCharacter => "control character (\\u0000-\\u001F) found while parsing a string"
  | .keyNotString => "key must be a string"
  | .loneSurrogate => "lone leading surrogate in hex escape"
  | .trailingComma => "trailing comma"
  | .trailingCharacters => "trailing characters"
  | .unpairedSurrogate => "unexpected end of hex escape"
  | .tooDeep => "recursion limit exceeded"

/-- A fault, the characters that were unread when it was found, and how many bytes of them it takes in. -/
structure Failure where
  fault : Fault
  unread : List Char
  bytes : Nat
  deriving DecidableEq

/-- Readers return a result and the characters after it. -/
abbrev Reader (α : Type) := List Char → Except Failure (α × List Char)

/-- A fault before the unread characters. -/
def failBefore {α : Type} (fault : Fault) (cs : List Char) : Except Failure α :=
  .error ⟨fault, cs, 0⟩

/-- A fault at the first of the unread characters. -/
def failAt {α : Type} (fault : Fault) (cs : List Char) : Except Failure α :=
  .error ⟨fault, cs, 1⟩

def isSpace (c : Char) : Bool :=
  c = ' ' || c = '\n' || c = '\t' || c = '\r'

/-- The characters after leading space. -/
def skipSpace (cs : List Char) : List Char :=
  cs.dropWhile isSpace

/-! ## Numbers -/

private def digitValue (c : Char) : Nat :=
  c.toNat - '0'.toNat

/-- Appends digits to a number as long as it stays below `2 ^ 64`; also counts them. -/
def takeDigits (n count : Nat) : List Char → Nat × Nat × List Char
  | [] => (n, count, [])
  | c :: cs =>
    if c.isDigit && 10 * n + digitValue c < 0x10000000000000000 then takeDigits (10 * n + digitValue c) (count + 1) cs
    else (n, count, c :: cs)

/-- A power of ten, rounded. -/
def powerOfTen (n : Nat) : Double :=
  (Double.ofDecimal? false 1 n).getD (.zero false)

/-- `x · 10 ^ exponent` in steps that each have a power of ten at hand; `none` beyond the largest double.  A number
of 64 bits is zero after two steps down. -/
def scale : Nat → Double → Int → Option Double
  | 0, x, _ => some x
  | steps + 1, x, exponent =>
    if exponent.natAbs ≤ 308 then
      if 0 ≤ exponent then x.mul? (powerOfTen exponent.toNat) else x.div? (powerOfTen exponent.natAbs)
    else if x.isZero then some x
    else if 0 ≤ exponent then none
    else (x.div? (powerOfTen 308)).bind fun y => scale steps y (exponent + 308)

/-- The double for the given digits and power of ten. -/
def toDouble (negative : Bool) (digits : Nat) (exponent : Int) : Reader Value := fun cs =>
  match (Double.ofInt? digits).bind fun x => scale 4 x exponent with
  | some x => .ok (.float (if negative then x.neg else x), cs)
  | none => failBefore .numberOutOfRange cs

/-- The digits of an exponent as long as they make a number below `2 ^ 31`; `none` if there are more. -/
def exponentDigits (n : Nat) : List Char → Option Nat × List Char
  | [] => (some n, [])
  | c :: cs =>
    if !c.isDigit then (some n, c :: cs)
    else if 10 * n + digitValue c < 0x80000000 then exponentDigits (10 * n + digitValue c) cs
    else (none, cs)

/-- What follows the letter of an exponent. -/
def exponent (negative : Bool) (digits : Nat) (start : Int) : Reader Value := fun cs =>
  let (down, cs) := match cs with
    | '+' :: cs => (false, cs)
    | '-' :: cs => (true, cs)
    | cs => (false, cs)
  match cs with
  | [] => failBefore .endInValue []
  | c :: _ =>
    if !c.isDigit then failAt .invalidNumber cs
    else
      match exponentDigits 0 cs with
      | (some n, cs) => toDouble negative digits (if down then start - n else start + n) cs
      | (none, cs) =>
        if digits ≠ 0 ∧ !down then failBefore .numberOutOfRange cs
        else .ok (.float (.zero negative), cs.dropWhile Char.isDigit)

private def startsExponent : List Char → Bool
  | c :: _ => c = 'e' || c = 'E'
  | [] => false

/-- The number after its digits, if a double. -/
def exponentOrEnd (negative : Bool) (digits : Nat) (start : Int) : Reader Value := fun cs =>
  if startsExponent cs then exponent negative digits start (cs.drop 1) else toDouble negative digits start cs

/-- What follows a decimal point; digits that no longer fit do not count. -/
def fraction (negative : Bool) (digits : Nat) (start : Int) : Reader Value := fun cs =>
  let (digits, count, rest) := takeDigits digits 0 cs
  if rest.head?.any Char.isDigit then exponentOrEnd negative digits (start - count) (rest.dropWhile Char.isDigit)
  else if count = 0 then failAt (if rest.isEmpty then .endInValue else .invalidNumber) rest
  else exponentOrEnd negative digits (start - count) rest

/-- An integer with the given sign; zero with a minus sign and integers that do not fit are doubles. -/
def integer (negative : Bool) (n : Nat) : Value :=
  match WideInt.ofInt? (if negative then -n else n) with
  | some i => if negative ∧ n = 0 then .float (.zero true) else .int i
  | none => .float ((Double.ofRatio? negative n 1).getD (.zero negative))

/-- A number without its sign. -/
def number (negative : Bool) : Reader Value := fun cs =>
  match cs with
  | [] => failBefore .endInValue []
  | c :: rest =>
    if !c.isDigit then failAt .invalidNumber cs
    else if c = '0' ∧ rest.head?.any Char.isDigit then failAt .invalidNumber rest
    else
      let (digits, _, rest) := takeDigits 0 0 cs
      let surplus := rest.takeWhile Char.isDigit
      match rest.dropWhile Char.isDigit with
      | '.' :: rest => fraction negative digits surplus.length rest
      | rest =>
        if surplus.isEmpty && !startsExponent rest then .ok (integer negative digits, rest)
        else exponentOrEnd negative digits surplus.length rest

/-! ## Strings -/

/-- Four hexadecimal digits. -/
def hexEscape : Reader Nat := fun cs =>
  if (String.ofList (cs.take 4)).utf8ByteSize < 4 then failBefore .endInString []
  else
    match Text.ofHex? (cs.take 4) with
    | some n => .ok (n, cs.drop 4)
    | none => .error ⟨.invalidEscape, cs, 4⟩

/-- The given character, the next one of a pair of surrogates. -/
private def expectPair (c : Char) (cs : List Char) : Except Failure (List Char) :=
  match cs with
  | [] => failBefore .endInString []
  | d :: rest => if d = c then .ok rest else failAt .unpairedSurrogate cs

/-- What follows a backslash and the letter `u`. -/
def unicodeEscape : Reader Char := fun cs => do
  let (n, rest) ← hexEscape cs
  if 0xDC00 ≤ n ∧ n ≤ 0xDFFF then failBefore .loneSurrogate rest
  else if n < 0xD800 ∨ 0xDBFF < n then return (Char.ofNat n, rest)
  else
    let rest ← expectPair '\\' rest
    let rest ← expectPair 'u' rest
    let (m, rest) ← hexEscape rest
    if m < 0xDC00 ∨ 0xDFFF < m then failBefore .loneSurrogate rest
    else return (Char.ofNat ((n - 0xD800) * 0x400 + (m - 0xDC00) + 0x10000), rest)

/-- What follows a backslash. -/
def escapeSequence : Reader Char := fun cs =>
  match cs with
  | [] => failBefore .endInString []
  | c :: rest =>
    if c = '"' ∨ c = '\\' ∨ c = '/' then .ok (c, rest)
    else if c = 'b' then .ok ('\x08', rest)
    else if c = 'f' then .ok ('\x0C', rest)
    else if c = 'n' then .ok ('\n', rest)
    else if c = 'r' then .ok ('\r', rest)
    else if c = 't' then .ok ('\t', rest)
    else if c = 'u' then unicodeEscape rest
    else failAt .invalidEscape cs

/-- The characters of a string after its opening quote; `fuel` bounds their number. -/
def stringChars : Nat → Reader (List Char)
  | 0, cs => failBefore .endInString cs
  | fuel + 1, cs =>
    match cs with
    | [] => failBefore .endInString []
    | c :: rest =>
      if c = '"' then .ok ([], rest)
      else if c = '\\' then do
        let (d, rest) ← escapeSequence rest
        let (text, rest) ← stringChars fuel rest
        return (d :: text, rest)
      else if c.toNat < 0x20 then failAt .controlCharacter cs
      else do
        let (text, rest) ← stringChars fuel rest
        return (c :: text, rest)

/-- A string after its opening quote. -/
def stringRest : Reader String := fun cs => do
  let (text, rest) ← stringChars (cs.length + 1) cs
  return (String.ofList text, rest)

/-! ## Trees -/

/-- The rest of a word of letters. -/
def word (expected : List Char) (v : Value) : Reader Value := fun cs =>
  match expected, cs with
  | [], cs => .ok (v, cs)
  | _ :: _, [] => failBefore .endInValue []
  | e :: expected, c :: rest => if c = e then word expected v rest else failAt .expectedIdent cs

mutual

/-- A tree after space.  `depth` is the number of containers that may still be opened; `fuel` bounds the number of
calls. -/
def value (fuel depth : Nat) (cs : List Char) : Except Failure (Value × List Char) :=
  match fuel with
  | 0 => failBefore .endInValue cs
  | fuel + 1 =>
    match skipSpace cs with
    | [] => failBefore .endInValue []
    | c :: rest =>
      if c = 'n' then word "ull".toList .null rest
      else if c = 't' then word "rue".toList (.bool true) rest
      else if c = 'f' then word "alse".toList (.bool false) rest
      else if c = '-' then number true rest
      else if c.isDigit then number false (c :: rest)
      else if c = '"' then (stringRest rest).map fun (s, rest) => (.string s, rest)
      else if c = '[' then
        match depth with
        | 0 => failAt .tooDeep (c :: rest)
        | depth + 1 => (items fuel depth true rest).map fun (vs, rest) => (.list vs, rest)
      else if c = '\x7b' then
        match depth with
        | 0 => failAt .tooDeep (c :: rest)
        | depth + 1 => (fields fuel depth true rest).map fun (fs, rest) => (.ofFields fs, rest)
      else failAt .expectedValue (c :: rest)

/-- The elements of a list up to its bracket; `first` before the first one. -/
def items (fuel depth : Nat) (first : Bool) (cs : List Char) : Except Failure (List Value × List Char) :=
  match fuel with
  | 0 => failBefore .endInList cs
  | fuel + 1 =>
    let element (cs : List Char) : Except Failure (List Value × List Char) := do
      let (v, rest) ← value fuel depth cs
      let (vs, rest) ← items fuel depth false rest
      return (v :: vs, rest)
    match skipSpace cs with
    | [] => failBefore .endInList []
    | ']' :: rest => .ok ([], rest)
    | c :: rest =>
      if first then element (c :: rest)
      else if c = ',' then
        match skipSpace rest with
        | [] => failBefore .endInValue []
        | ']' :: rest => failAt .trailingComma (']' :: rest)
        | rest => element rest
      else failAt .expectedListEnd (c :: rest)

/-- The fields of a mapping up to its brace; `first` before the first one. -/
def fields (fuel depth : Nat) (first : Bool) (cs : List Char) :
    Except Failure (List (String × Value) × List Char) :=
  match fuel with
  | 0 => failBefore .endInObject cs
  | fuel + 1 =>
    let entry (cs : List Char) : Except Failure (List (String × Value) × List Char) := do
      let (key, rest) ← stringRest cs
      match skipSpace rest with
      | [] => failBefore .endInObject []
      | ':' :: rest => do
        let (v, rest) ← value fuel depth rest
        let (fs, rest) ← fields fuel depth false rest
        return ((key, v) :: fs, rest)
      | rest => failAt .expectedColon rest
    match skipSpace cs with
    | [] => failBefore .endInObject []
    | c :: rest =>
      if c = '\x7d' then .ok ([], rest)
      else if first then
        if c = '"' then entry rest else failAt .keyNotString (c :: rest)
      else if c = ',' then
        match skipSpace rest with
        | [] => failBefore .endInValue []
        | d :: rest =>
          if d = '"' then entry rest
          else failAt (if d = '\x7d' then .trailingComma else .keyNotString) (d :: rest)
      else failAt .expectedObjectEnd (c :: rest)

end

/-- A text that is one tree, with space around it. -/
def document (cs : List Char) : Except Failure Value := do
  let (v, rest) ← value (2 * cs.length + 2) 127 cs
  match skipSpace rest with
  | [] => return v
  | rest => failAt .trailingCharacters rest

/-! ## Places -/

/-- For each byte of a text, whether it is a line feed. -/
def lineFeeds (cs : List Char) : List Bool :=
  cs.flatMap fun c => if c = '\n' then [true] else List.replicate c.utf8Size false

/-- The line and column of a failure in a text. -/
def Failure.place (text : List Char) (failure : Failure) : Nat × Nat :=
  let consumed := lineFeeds (text.take (text.length - failure.unread.length)) ++
    (lineFeeds (failure.unread.take failure.bytes)).take failure.bytes
  (consumed.count true + 1, (consumed.reverse.takeWhile (!·)).length)

/-- The tree that a JSON text stands for, or what is wrong with the text. -/
def read (s : String) : Except String Value :=
  (document s.toList).mapError fun failure =>
    let (line, column) := failure.place s.toList
    failure.fault.message ++ s!" at line {line} column {column}"

end FlowCheck.Json
