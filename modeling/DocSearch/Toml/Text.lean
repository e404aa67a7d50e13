import DocSearch.Json.Parser

/-!
Quoted text in a configuration. Between double quotes a backslash starts an escape, between single
quotes nothing does; three quotes make a text of many lines, whose first line may be empty and
whose line ends are all written as one line feed.
-/

namespace DocSearch.Toml

/-- Whether a character may stand in a line: a tab, or any but the control characters. -/
def isPlain (c : Char) : Bool := c == '\t' || (decide (32 ≤ c.toNat) && decide (c.toNat ≠ 127))

/-- The rest of a text after its leading blanks. -/
def skipBlanks (s : List Char) : List Char := s.dropWhile fun c => c == ' ' || c == '\t'

/-- The rest of a text after the end of a line, which must stand at its beginning. -/
def lineFeed : List Char → Option (List Char)
  | '\n' :: s => some s
  | '\r' :: '\n' :: s => some s
  | _ => none

/-- The character with a number of hexadecimal digits as its code point. -/
def codePoint (digits : Nat) (s : List Char) : Option (Char × List Char) :=
  match (s.take digits).mapM Json.hexValue with
  | none => none
  | some values =>
    let n := values.foldl (fun n d => 16 * n + d) 0
    if values.length = digits ∧ n.isValidChar then some (Char.ofNat n, s.drop digits) else none

def escaped : List Char → Option (Char × List Char)
  | '"' :: s => some ('"', s)
  | '\\' :: s => some ('\\', s)
  | 'b' :: s => some (Char.ofNat 8, s)
  | 'f' :: s => some (Char.ofNat 12, s)
  | 'n' :: s => some ('\n', s)
  | 'r' :: s => some ('\r', s)
  | 't' :: s => some ('\t', s)
  | 'u' :: s => codePoint 4 s
  | 'U' :: s => codePoint 8 s
  | _ => none

/-- Reads the rest of a text between double quotes, at most `fuel` characters of it. -/
def quoted : (fuel : Nat) → List Char → Option (List Char × List Char)
  | 0, _ => none
  | _, [] => none
  | fuel + 1, c :: s =>
    if c = '"' then some ([], s)
    else if c = '\\' then do
      let (e, s) ← escaped s
      let (cs, s) ← quoted fuel s
      some (e :: cs, s)
    else if isPlain c then do
      let (cs, s) ← quoted fuel s
      some (c :: cs, s)
    else none

def literal : List Char → Option (List Char × List Char)
  | [] => none
  | c :: s =>
    if c = '\x27' then some ([], s)
    else if isPlain c then do
      let (cs, s) ← literal s
      some (c :: cs, s)
    else none

/-- Reads the quotes that end a text of many lines, if they stand there: three, with at most two
more before them that belong to the text. -/
def closing (quote : Char) (s : List Char) : Option (List Char × List Char) :=
  let n := (s.takeWhile (· == quote)).length
  if n < 3 then none
  else
    let inside := min (n - 3) 2
    some (List.replicate inside quote, s.drop (inside + 3))

/-- The rest of a text after a line end and all blanks and line ends that follow it. -/
def skipLines : (fuel : Nat) → List Char → List Char
  | 0, s => s
  | fuel + 1, s =>
    match lineFeed (skipBlanks s) with
    | some s => skipLines fuel s
    | none => skipBlanks s

/-- Reads the rest of a text of many lines, at most `fuel` characters of it. A backslash at the end
of a line joins it with the next one that is not blank. -/
def manyLines (quote : Char) (escapes : Bool) :
    (fuel : Nat) → List Char → Option (List Char × List Char)
  | 0, _ => none
  | fuel + 1, s =>
    match closing quote s, lineFeed s, s with
    | some ending, _, _ => some ending
    | none, some s, _ => do
      let (cs, s) ← manyLines quote escapes fuel s
      some ('\n' :: cs, s)
    | none, none, [] => none
    | none, none, c :: s =>
      if escapes && c = '\\' then
        match lineFeed (skipBlanks s) with
        | some s => manyLines quote escapes fuel (skipLines s.length s)
        | none => do
          let (e, s) ← escaped s
          let (cs, s) ← manyLines quote escapes fuel s
          some (e :: cs, s)
      else if isPlain c then do
        let (cs, s) ← manyLines quote escapes fuel s
        some (c :: cs, s)
      else none

def block (quote : Char) (escapes : Bool) (s : List Char) : Option (List Char × List Char) :=
  manyLines quote escapes (s.length + 1) ((lineFeed s).getD s)

def text : List Char → Option (List Char × List Char)
  | '"' :: '"' :: '"' :: s => block '"' true s
  | '"' :: s => quoted (s.length + 1) s
  | '\x27' :: '\x27' :: '\x27' :: s => block '\x27' false s
  | '\x27' :: s => literal s
  | _ => none

def isKeyChar (c : Char) : Bool := c.isAlphanum || c == '_' || c == '-'

def keyPart : List Char → Option (String × List Char)
  | '"' :: s => (quoted (s.length + 1) s).map fun (cs, s) => (String.ofList cs, s)
  | '\x27' :: s => (literal s).map fun (cs, s) => (String.ofList cs, s)
  | s =>
    let name := s.takeWhile isKeyChar
    if name.isEmpty then none else some (String.ofList name, s.dropWhile isKeyChar)

/-- Reads the parts of a key, at most `parts` of them. They are separated by points, and blanks may
stand around each. -/
def keyParts : (parts : Nat) → List Char → Option (List String × List Char)
  | 0, _ => none
  | parts + 1, s => do
    let (name, s) ← keyPart (skipBlanks s)
    match skipBlanks s with
    | '.' :: s => do
      let (names, s) ← keyParts parts s
      some (name :: names, s)
    | s => some ([name], s)

def depthLimit : Nat := 79

def key (s : List Char) : Option (List String × List Char) := keyParts depthLimit s

end DocSearch.Toml
