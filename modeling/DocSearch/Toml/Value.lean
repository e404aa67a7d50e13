import DocSearch.Calendar.Reading
import DocSearch.Floating.Decimal
import DocSearch.Toml.Table
import DocSearch.Toml.Text
import DocSearch.Word

/-!
Values in a configuration. A day, a time or both become an object that holds their text.
-/

namespace DocSearch.Toml

/-! ### Numbers -/

/-- Takes digits of a kind off a text, with at most one underscore between two of them. -/
def digitsAfter (isDigit : Char → Bool) : List Char → List Char × List Char
  | '_' :: c :: s =>
    if isDigit c then
      let (ds, rest) := digitsAfter isDigit s
      (c :: ds, rest)
    else ([], '_' :: c :: s)
  | c :: s =>
    if isDigit c then
      let (ds, rest) := digitsAfter isDigit s
      (c :: ds, rest)
    else ([], c :: s)
  | [] => ([], [])

/-- Takes at least one digit of a kind off a text. -/
def digits (isDigit : Char → Bool) : List Char → Option (List Char × List Char)
  | c :: s =>
    if isDigit c then
      let (ds, rest) := digitsAfter isDigit s
      some (c :: ds, rest)
    else none
  | [] => none

/-- Takes the digits of a decimal integer off a text; a zero stands alone. -/
def wholeDigits : List Char → Option (List Char × List Char)
  | '0' :: s => some (['0'], s)
  | s => digits Char.isDigit s

def integer (n : Int) : Option Json := (Word.int64? n).map fun w => .int w.toInt

/-- Reads an integer of a base other than ten, whose mark is behind. -/
def integerOfBase (base : Nat) (s : List Char) : Option (Json × List Char) := do
  let isDigit c := (Json.hexValue c).any (· < base)
  let (ds, s) ← digits isDigit s
  let n := ds.foldl (fun n c => base * n + (Json.hexValue c).getD 0) 0
  let v ← integer n
  some (v, s)

/-- Takes the exponent of a float off a text, if it begins with one. -/
def exponent : List Char → Option (List Char × List Char)
  | [] => some ([], [])
  | c :: s =>
    if c = 'e' ∨ c = 'E' then
      let sign := s.takeWhile (fun c => c == '+' || c == '-')
      if 1 < sign.length then none
      else (digits Char.isDigit (s.drop sign.length)).map fun (ds, s) => ('e' :: sign ++ ds, s)
    else some ([], c :: s)

/-- A float without its underscores. One above all finite floats is refused. -/
def floatOf (cs : List Char) : Option Json :=
  match Floating.readFloat cs with
  | none => none
  | some x => if Floating.finite x || Floating.negative x then some (.float x) else none

def decimal (sign s : List Char) : Option (Json × List Char) := do
  let (whole, s) ← wholeDigits s
  match s with
  | '.' :: s => do
    let (fraction, s) ← digits Char.isDigit s
    let (e, s) ← exponent s
    let v ← floatOf (sign ++ whole ++ '.' :: fraction ++ e)
    some (v, s)
  | s => do
    let (e, s) ← exponent s
    if e.isEmpty then
      let n := Floating.digitsValue 0 whole
      let v ← integer (if sign = ['-'] then -(n : Int) else n)
      some (v, s)
    else
      let v ← floatOf (sign ++ whole ++ e)
      some (v, s)

def takeWord (w s : List Char) : Option (List Char) :=
  if w.isPrefixOf s then some (s.drop w.length) else none

def namedFloat (minus : Bool) (s : List Char) : Option (Json × List Char) :=
  match takeWord "inf".toList s, takeWord "nan".toList s with
  | some s, _ => some (.float (Floating.ofMagnitude minus Floating.double.infinity), s)
  | none, some s => some (.float (Floating.ofMagnitude minus (Floating.double.infinity + 1)), s)
  | none, none => none

def number (s : List Char) : Option (Json × List Char) :=
  match s with
  | '0' :: 'x' :: s => integerOfBase 16 s
  | '0' :: 'o' :: s => integerOfBase 8 s
  | '0' :: 'b' :: s => integerOfBase 2 s
  | '+' :: s => (namedFloat false s).or (decimal ['+'] s)
  | '-' :: s => (namedFloat true s).or (decimal ['-'] s)
  | s => decimal [] s

/-! ### Days and times -/

/-- Takes a time of day off a text: hours, minutes and seconds, of which the last may be the leap
second, and a fraction of a second. -/
def time (s : List Char) : Option (List Char) := do
  let (hour, s) ← Calendar.takeNumber 2 2 s
  let s ← Calendar.takeChar ':' s
  let (minute, s) ← Calendar.takeNumber 2 2 s
  let s ← Calendar.takeChar ':' s
  let (second, s) ← Calendar.takeNumber 2 2 s
  if hour < 24 ∧ minute < 60 ∧ second ≤ 60 then
    match s with
    | '.' :: c :: s => if c.isDigit then some (s.dropWhile Char.isDigit) else some ('.' :: c :: s)
    | s => some s
  else none

/-- Takes an offset from universal time off a text, if it begins with one. -/
def offset : List Char → Option (List Char)
  | [] => some []
  | c :: s =>
    if c = 'Z' ∨ c = 'z' then some s
    else if c = '+' ∨ c = '-' then do
      let (hour, s) ← Calendar.takeNumber 2 2 s
      let s ← Calendar.takeChar ':' s
      let (minute, s) ← Calendar.takeNumber 2 2 s
      if hour < 24 ∧ minute < 60 then some s else none
    else some (c :: s)

def day (s : List Char) : Option (List Char) := do
  let (year, s) ← Calendar.takeNumber 4 4 s
  let s ← Calendar.takeChar '-' s
  let (month, s) ← Calendar.takeNumber 2 2 s
  let s ← Calendar.takeChar '-' s
  let (day, s) ← Calendar.takeNumber 2 2 s
  if Calendar.Date.valid ⟨year, month, day⟩ then some s else none

/-- Takes a day, a time, or both off a text. -/
def moment (s : List Char) : Option (List Char) :=
  match day s with
  | none => time s
  | some s =>
    match s with
    | c :: after =>
      if c = 'T' ∨ c = 't' ∨ c = ' ' then
        match time after with
        | some s => offset s
        | none => some (c :: after)
      else some (c :: after)
    | [] => some []

def numberOrMoment (s : List Char) : Option (Json × List Char) :=
  match moment s with
  | some rest =>
    let read := s.take (s.length - rest.length)
    some (.object [("datetime", .string (String.ofList read))], rest)
  | none => number s

/-! ### Values -/

def skipComment : List Char → List Char
  | '#' :: s => s.dropWhile isPlain
  | s => s

/-- The rest of a text after blanks, line ends and comments. A comment must end with its line. -/
def skipSpace : (fuel : Nat) → List Char → Option (List Char)
  | 0, s => some s
  | fuel + 1, s =>
    match skipBlanks s with
    | '#' :: s => do
      let s ← lineFeed (s.dropWhile isPlain)
      skipSpace fuel s
    | s =>
      match lineFeed s with
      | some s => skipSpace fuel s
      | none => some s

/-- Reads the items of an array up to its closing bracket, at most `fuel` of them. -/
def items (value : List Char → Option (Json × List Char)) :
    (fuel : Nat) → List Char → Option (List Json × List Char)
  | 0, _ => none
  | fuel + 1, s => do
    let s ← skipSpace s.length s
    match s with
    | ']' :: s => some ([], s)
    | s => do
      let (item, s) ← value s
      let s ← skipSpace s.length s
      match s with
      | ']' :: s => some ([item], s)
      | ',' :: s => do
        let (more, s) ← items value fuel s
        some (item :: more, s)
      | _ => none

/-- Reads the entries of a table in one line up to its closing brace, at most `fuel` of them. -/
def entries (value : List Char → Option (Json × List Char)) :
    (fuel : Nat) → Table → List Char → Option (Table × List Char)
  | 0, _, _ => none
  | fuel + 1, t, s => do
    let (names, s) ← key s
    let s ← Calendar.takeChar '=' s
    let (v, s) ← value (skipBlanks s)
    let t ← assign v true names t
    match skipBlanks s with
    | '\x7d' :: s => some (t, s)
    | ',' :: s => entries value fuel t s
    | _ => none

def inlineTable (value : List Char → Option (Json × List Char)) (s : List Char) :
    Option (Json × List Char) :=
  match skipBlanks s with
  | '\x7d' :: s => some (.object [], s)
  | s => (entries value s.length [] s).map fun (t, s) => (.object (members t), s)

/-- Reads a value that may stand in `levels` more arrays and tables than it does. -/
def value : (levels : Nat) → List Char → Option (Json × List Char)
  | _, [] => none
  | levels, c :: s =>
    if c = '"' ∨ c = '\x27' then
      (text (c :: s)).map fun (cs, s) => (.string (String.ofList cs), s)
    else if c = '[' then
      match levels with
      | 0 => none
      | levels + 1 => (items (value levels) (s.length + 1) s).map fun (js, s) => (.array js, s)
    else if c = '\x7b' then
      match levels with
      | 0 => none
      | levels + 1 => inlineTable (value levels) s
    else if c = 't' then (takeWord "rue".toList s).map fun s => (.bool true, s)
    else if c = 'f' then (takeWord "alse".toList s).map fun s => (.bool false, s)
    else if c = 'i' ∨ c = 'n' then namedFloat false (c :: s)
    else numberOrMoment (c :: s)

end DocSearch.Toml
