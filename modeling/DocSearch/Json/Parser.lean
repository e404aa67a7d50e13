import DocSearch.Json.Basic
import DocSearch.Floating.Format

/-!
Reading a data value from its text. What is wrong with a text is told with the line and the column
of the byte at which it shows. Repeated members are kept as they are written.
-/

namespace DocSearch.Json

/-- What can be wrong with a text. -/
inductive Problem where
  | eofValue | eofList | eofObject | eofString
  | expectedColon | expectedItemEnd | expectedMemberEnd | expectedWord | expectedValue
  | invalidEscape | invalidNumber | numberOutOfRange | controlCharacter | keyNotText
  | loneSurrogate | unfinishedPair | trailingComma | trailingCharacters | tooDeep
  deriving Repr, DecidableEq

def Problem.message : Problem → String
  | .eofValue => "EOF while parsing a value"
  | .eofList => "EOF while parsing a list"
  | .eofObject => "EOF while parsing an object"
  | .eofString => "EOF while parsing a string"
  | .expectedColon => "expected `:`"
  | .expectedItemEnd => "expected `,` or `]`"
  | .expectedMemberEnd => "expected `,` or `\x7d`"
  | .expectedWord => "expected ident"
  | .expectedValue => "expected value"
  | .invalidEscape => "invalid escape"
  | .invalidNumber => "invalid number"
  | .numberOutOfRange => "number out of range"
  | .controlCharacter => "control character (\\u0000-\\u001F) found while parsing a string"
  | .keyNotText => "key must be a string"
  | .loneSurrogate => "lone leading surrogate in hex escape"
  | .unfinishedPair => "unexpected end of hex escape"
  | .trailingComma => "trailing comma"
  | .trailingCharacters => "trailing characters"
  | .tooDeep => "recursion limit exceeded"

def bytes : List Char → Nat
  | [] => 0
  | c :: s => c.utf8Size + bytes s

/-- A problem and how many bytes of the text come after the place where it shows. -/
structure Fault where
  problem : Problem
  left : Nat
  deriving Repr, DecidableEq

def Fault.before (problem : Problem) (rest : List Char) : Fault := ⟨problem, bytes rest⟩

/-- A problem with the next character of `rest`, which shows at its first byte, or with its
absence. -/
def Fault.on (problem : Problem) (rest : List Char) : Fault := ⟨problem, bytes rest - 1⟩

def isSpace (c : Char) : Bool := c = ' ' ∨ c = '\n' ∨ c = '\t' ∨ c = '\r'

/-- The rest of a text after its leading blanks. -/
def skipSpace (s : List Char) : List Char := s.dropWhile isSpace

def word (value : Json) : List Char → List Char → Except Fault (Json × List Char)
  | [], s => .ok (value, s)
  | _ :: _, [] => .error ⟨.eofValue, 0⟩
  | w :: ws, c :: s => if c = w then word value ws s else .error (.on .expectedWord (c :: s))

/-! ### Text -/

def hexValue (c : Char) : Option Nat :=
  if '0' ≤ c ∧ c ≤ '9' then some (c.toNat - 48)
  else if 'a' ≤ c ∧ c ≤ 'f' then some (c.toNat - 87)
  else if 'A' ≤ c ∧ c ≤ 'F' then some (c.toNat - 55)
  else none

/-- The number that four hexadecimal digits stand for. Four bytes are read before they are looked
at. -/
def fourHex (s : List Char) : Except Fault (Nat × List Char) :=
  if bytes (s.take 4) < 4 then .error ⟨.eofString, 0⟩
  else
    match (s.take 4).mapM hexValue with
    | some [a, b, c, d] => .ok (4096 * a + 256 * b + 16 * c + d, s.drop 4)
    | _ => .error ⟨.invalidEscape, bytes s - 4⟩

/-- Reads the second half of a character that takes two escapes, whose first half is known. -/
def secondHalf (high : Nat) : List Char → Except Fault (Char × List Char)
  | '\\' :: 'u' :: s => do
    let (low, rest) ← fourHex s
    if 0xDC00 ≤ low ∧ low ≤ 0xDFFF then
      .ok (Char.ofNat (0x10000 + 0x400 * (high - 0xD800) + (low - 0xDC00)), rest)
    else .error (.before .loneSurrogate rest)
  | '\\' :: [] => .error ⟨.eofString, 0⟩
  | '\\' :: c :: s => .error (.on .unfinishedPair (c :: s))
  | [] => .error ⟨.eofString, 0⟩
  | c :: s => .error (.on .unfinishedPair (c :: s))

def escape : List Char → Except Fault (Char × List Char)
  | [] => .error ⟨.eofString, 0⟩
  | '"' :: s => .ok ('"', s)
  | '\\' :: s => .ok ('\\', s)
  | '/' :: s => .ok ('/', s)
  | 'b' :: s => .ok (Char.ofNat 8, s)
  | 'f' :: s => .ok (Char.ofNat 12, s)
  | 'n' :: s => .ok ('\n', s)
  | 'r' :: s => .ok ('\r', s)
  | 't' :: s => .ok ('\t', s)
  | 'u' :: s => do
    let (n, rest) ← fourHex s
    if 0xDC00 ≤ n ∧ n ≤ 0xDFFF then .error (.before .loneSurrogate rest)
    else if 0xD800 ≤ n ∧ n ≤ 0xDBFF then secondHalf n rest
    else .ok (Char.ofNat n, rest)
  | c :: s => .error (.on .invalidEscape (c :: s))

/-- Reads the characters of a text up to its closing quote, at most `fuel` of them. -/
def chars : (fuel : Nat) → List Char → Except Fault (List Char × List Char)
  | _, [] => .error ⟨.eofString, 0⟩
  | 0, _ => .error ⟨.eofString, 0⟩
  | fuel + 1, c :: s =>
    if c = '"' then .ok ([], s)
    else if c = '\\' then do
      let (e, rest) ← escape s
      let (cs, rest) ← chars fuel rest
      .ok (e :: cs, rest)
    else if c.toNat < 32 then .error (.before .controlCharacter s)
    else do
      let (cs, rest) ← chars fuel s
      .ok (c :: cs, rest)

def text (s : List Char) : Except Fault (String × List Char) := do
  let (cs, rest) ← chars s.length s
  .ok (String.ofList cs, rest)

/-! ### Numbers

The digits of a number are taken into a significand of 64 bits as long as they fit; a float is that
significand, rounded, times a power of ten, rounded again. -/

/-- Takes digits into a number as long as it stays below a limit. The second result is how many
digits are taken. -/
def takeDigits (limit : Nat) (n taken : Nat) : List Char → Nat × Nat × List Char
  | [] => (n, taken, [])
  | c :: s =>
    if c.isDigit ∧ 10 * n + (c.toNat - 48) < limit then
      takeDigits limit (10 * n + (c.toNat - 48)) (taken + 1) s
    else (n, taken, c :: s)

def tenPower (n : Nat) : Float := Floating.ofRatio false (Nat.pow 10 n) 1

/-- A float times a power of ten. Powers below the least one are divided out in steps; a result
above all finite floats is refused. -/
def scale : (fuel : Nat) → Float → Int → Option Float
  | 0, x, _ => some x
  | fuel + 1, x, e =>
    if 308 < e.natAbs then
      if x == 0 then some x
      else if 0 < e then none
      else scale fuel (x / tenPower 308) (e + 308)
    else if 0 ≤ e then
      let y := x * tenPower e.toNat
      if Floating.finite y then some y else none
    else some (x / tenPower (-e).toNat)

/-- The float with a significand and an exponent. A significand of 64 bits vanishes after two
divisions by the greatest power. -/
def floatOf (minus : Bool) (significand : Nat) (exponent : Int) : Option Float :=
  (scale 4 (Floating.ofRatio false significand 1) exponent).map fun x => if minus then -x else x

/-- A finished float, or a fault after it. -/
def finish (minus : Bool) (significand : Nat) (exponent : Int) (rest : List Char) :
    Except Fault (Json × List Char) :=
  match floatOf minus significand exponent with
  | some x => .ok (.float x, rest)
  | none => .error (.before .numberOutOfRange rest)

/-- Reads the digits of an exponent whose sign is behind. One of 32 bits or more makes zero or is
refused. -/
def exponentDigits (minus : Bool) (significand : Nat) (exponent : Int) (down : Bool) :
    List Char → Except Fault (Json × List Char)
  | [] => .error ⟨.eofValue, 0⟩
  | c :: t =>
    if c.isDigit then
      let (n, _, rest) := takeDigits (Nat.pow 2 31) 0 0 (c :: t)
      match rest with
      | d :: after =>
        if d.isDigit then
          if significand ≠ 0 ∧ !down then .error (.before .numberOutOfRange after)
          else .ok (.float (if minus then -0.0 else 0.0), after.dropWhile Char.isDigit)
        else finish minus significand (exponent + if down then -(n : Int) else n) rest
      | [] => finish minus significand (exponent + if down then -(n : Int) else n) rest
    else .error (.on .invalidNumber (c :: t))

/-- Reads an exponent whose letter is behind. -/
def exponentPart (minus : Bool) (significand : Nat) (exponent : Int) :
    List Char → Except Fault (Json × List Char)
  | '+' :: s => exponentDigits minus significand exponent false s
  | '-' :: s => exponentDigits minus significand exponent true s
  | s => exponentDigits minus significand exponent false s

def afterDigits (minus : Bool) (significand : Nat) (exponent : Int) (s : List Char) :
    Except Fault (Json × List Char) :=
  match s with
  | 'e' :: t => exponentPart minus significand exponent t
  | 'E' :: t => exponentPart minus significand exponent t
  | t => finish minus significand exponent t

/-- Reads the digits after a point that is behind. Those that no longer fit are passed over. -/
def fractionPart (minus : Bool) (significand : Nat) (exponent : Int) (s : List Char) :
    Except Fault (Json × List Char) :=
  let (n, taken, rest) := takeDigits UInt64.size significand 0 s
  match rest with
  | [] =>
    if taken = 0 then .error ⟨.eofValue, 0⟩ else afterDigits minus n (exponent - taken) rest
  | c :: _ =>
    if c.isDigit then afterDigits minus n (exponent - taken) (rest.dropWhile Char.isDigit)
    else if taken = 0 then .error (.on .invalidNumber rest)
    else afterDigits minus n (exponent - taken) rest

/-- The value of a number without point and exponent: an integer if it fits into 64 bits, with a
sign if there is one. -/
def whole (minus : Bool) (n : Nat) : Json :=
  if minus then
    if 0 < n ∧ n ≤ Nat.pow 2 63 then .int (-(n : Int)) else .float (-(Floating.ofRatio false n 1))
  else .int n

def number (minus : Bool) (s : List Char) : Except Fault (Json × List Char) :=
  match s with
  | [] => .error ⟨.eofValue, 0⟩
  | c :: t =>
    if !c.isDigit then .error (.on .invalidNumber (c :: t))
    else
      let (n, _, rest) := if c = '0' then (0, 1, t) else takeDigits UInt64.size 0 0 (c :: t)
      let more := rest.takeWhile Char.isDigit
      let exponent : Int := more.length
      match rest.dropWhile Char.isDigit with
      | '.' :: after =>
        if c = '0' ∧ !more.isEmpty then .error (.on .invalidNumber rest)
        else fractionPart minus n exponent after
      | after =>
        if c = '0' ∧ !more.isEmpty then .error (.on .invalidNumber rest)
        else if more.isEmpty ∧ after.head? ≠ some 'e' ∧ after.head? ≠ some 'E' then
          .ok (whole minus n, after)
        else afterDigits minus n exponent after

/-! ### Arrays and objects -/

section Parts

variable {α β : Type}

/-- Reads the items of an array after the first one and its closing bracket. -/
def moreItems (value : List Char → Except Fault (α × List Char)) :
    (fuel : Nat) → List Char → Except Fault (List α × List Char)
  | 0, _ => .error ⟨.eofList, 0⟩
  | fuel + 1, s =>
    match skipSpace s with
    | [] => .error ⟨.eofList, 0⟩
    | ']' :: rest => .ok ([], rest)
    | ',' :: rest =>
      match skipSpace rest with
      | [] => .error ⟨.eofValue, 0⟩
      | ']' :: after => .error (.on .trailingComma (']' :: after))
      | next => do
        let (item, rest) ← value next
        let (items, rest) ← moreItems value fuel rest
        .ok (item :: items, rest)
    | other => .error (.on .expectedItemEnd other)

def items (value : List Char → Except Fault (α × List Char)) (s : List Char) :
    Except Fault (List α × List Char) :=
  match skipSpace s with
  | [] => .error ⟨.eofList, 0⟩
  | ']' :: rest => .ok ([], rest)
  | first => do
    let (item, rest) ← value first
    let (items, rest) ← moreItems value s.length rest
    .ok (item :: items, rest)

/-- Reads a member whose first quote is behind, its name with one reader and its value with
another. -/
def member (name : List Char → Except Fault (β × List Char))
    (value : List Char → Except Fault (α × List Char)) (s : List Char) :
    Except Fault ((β × α) × List Char) := do
  let (key, rest) ← name s
  match skipSpace rest with
  | [] => .error ⟨.eofObject, 0⟩
  | ':' :: after => do
    let (a, rest) ← value after
    .ok ((key, a), rest)
  | other => .error (.on .expectedColon other)

/-- Reads the members of an object after the first one and its closing brace. -/
def moreMembers (name : List Char → Except Fault (β × List Char))
    (value : List Char → Except Fault (α × List Char)) :
    (fuel : Nat) → List Char → Except Fault (List (β × α) × List Char)
  | 0, _ => .error ⟨.eofObject, 0⟩
  | fuel + 1, s =>
    match skipSpace s with
    | [] => .error ⟨.eofObject, 0⟩
    | '\x7d' :: rest => .ok ([], rest)
    | ',' :: rest =>
      match skipSpace rest with
      | [] => .error ⟨.eofValue, 0⟩
      | '"' :: after => do
        let (m, rest) ← member name value after
        let (ms, rest) ← moreMembers name value fuel rest
        .ok (m :: ms, rest)
      | '\x7d' :: after => .error (.on .trailingComma ('\x7d' :: after))
      | other => .error (.on .keyNotText other)
    | other => .error (.on .expectedMemberEnd other)

def objectMembers (name : List Char → Except Fault (β × List Char))
    (value : List Char → Except Fault (α × List Char)) (s : List Char) :
    Except Fault (List (β × α) × List Char) :=
  match skipSpace s with
  | [] => .error ⟨.eofObject, 0⟩
  | '\x7d' :: rest => .ok ([], rest)
  | '"' :: after => do
    let (m, rest) ← member name value after
    let (ms, rest) ← moreMembers name value s.length rest
    .ok (m :: ms, rest)
  | other => .error (.on .keyNotText other)

end Parts

/-! ### Values -/

/-- Reads a value that may stand in `levels` more arrays and objects than it does. -/
def value : (levels : Nat) → List Char → Except Fault (Json × List Char)
  | 0, s => .error (.on .tooDeep s)
  | levels + 1, s =>
    match skipSpace s with
    | [] => .error ⟨.eofValue, 0⟩
    | c :: rest =>
      if c = 'n' then word .null ['u', 'l', 'l'] rest
      else if c = 't' then word (.bool true) ['r', 'u', 'e'] rest
      else if c = 'f' then word (.bool false) ['a', 'l', 's', 'e'] rest
      else if c = '-' then number true rest
      else if c.isDigit then number false (c :: rest)
      else if c = '"' then do
        let (t, rest) ← text rest
        .ok (.string t, rest)
      else if c = '[' then
        if levels = 0 then .error (.on .tooDeep (c :: rest))
        else do
          let (as, rest) ← items (value levels) rest
          .ok (.array as, rest)
      else if c = '\x7b' then
        if levels = 0 then .error (.on .tooDeep (c :: rest))
        else do
          let (ms, rest) ← objectMembers text (value levels) rest
          .ok (.object ms, rest)
      else .error (.on .expectedValue (c :: rest))

/-- A problem with the place where it shows: lines count from one, columns count bytes. -/
structure SyntaxError where
  problem : Problem
  line : Nat
  column : Nat
  deriving Repr, DecidableEq

def SyntaxError.message (e : SyntaxError) : String :=
  e.problem.message ++ " at line " ++ toString e.line ++ " column " ++ toString e.column

/-- The line and the column reached after a number of bytes, from a given line and column. -/
def position (offset line column : Nat) : List Char → Nat × Nat
  | [] => (line, column)
  | c :: s =>
    if offset < c.utf8Size then (line, column + offset)
    else if c = '\n' then position (offset - 1) (line + 1) 0 s
    else position (offset - c.utf8Size) line (column + c.utf8Size) s

/-- How deep arrays and objects may be nested, and one more. -/
def levelLimit : Nat := 128

def parse (s : String) : Except SyntaxError Json :=
  let result := do
    let (a, rest) ← value levelLimit s.toList
    match skipSpace rest with
    | [] => Except.ok a
    | other => .error (Fault.on .trailingCharacters other)
  result.mapError fun fault =>
    let (line, column) := position (s.utf8ByteSize - fault.left) 1 0 s.toList
    ⟨fault.problem, line, column⟩

end DocSearch.Json
