import DocSearch.Calendar.Instant
import DocSearch.Text.Blank

/-!
Reading a moment from text. A text is tried as a time stamp, as a date of a mail header, and then
in a list of fixed formats. Without an offset the time is universal.
-/

namespace DocSearch.Calendar

/-- Takes at least `least` and at most `most` digits off a text. -/
def takeNumber (least most : Nat) (s : List Char) : Option (Nat × List Char) :=
  let ds := (s.take most).takeWhile Char.isDigit
  if ds.length < least then none
  else some (ds.foldl (fun n c => 10 * n + (c.toNat - '0'.toNat)) 0, s.drop ds.length)

def takeChar (c : Char) : List Char → Option (List Char)
  | d :: s => if d = c then some s else none
  | [] => none

/-- The time of a day from hours, minutes, seconds and nanoseconds. A sixtieth second is a leap
second. -/
def timeOfDay (hour minute second nano : Nat) : Option (Nat × Nat) :=
  if hour < 24 ∧ minute < 60 ∧ second < 60 then some (3600 * hour + 60 * minute + second, nano)
  else if hour < 24 ∧ minute < 60 ∧ second = 60 then
    some (3600 * hour + 60 * minute + 59, nanosPerSecond + nano)
  else none

/-- The moment with a day and a time of day, if there are such. -/
def momentOf (d : Date) (time : Option (Nat × Nat)) : Option Instant := do
  let (second, nano) ← time
  if d.valid then some ⟨d, second, nano⟩ else none

/-- Reads the two numbers of an offset after its sign, with what stands between them taken off by
`between`. The result is in seconds. -/
def takeOffsetNumbers (between : List Char → Option (List Char)) (s : List Char) :
    Option (Nat × List Char) := do
  let (hours, s) ← takeNumber 2 2 s
  let s ← between s
  let (minutes, s) ← takeNumber 2 2 s
  if minutes < 60 then some (3600 * hours + 60 * minutes, s) else none

/-! ### Time stamps -/

/-- The nanoseconds that the digits after a point stand for; digits after the ninth do not count. -/
def nanosOf (ds : List Char) : Nat :=
  let nine := (ds ++ List.replicate 9 '0').take 9
  nine.foldl (fun n c => 10 * n + (c.toNat - '0'.toNat)) 0

/-- Takes the fraction of a second off a text, if it has one. -/
def takeFraction : List Char → Option (Nat × List Char)
  | '.' :: s =>
    let ds := s.takeWhile Char.isDigit
    if ds.isEmpty then none else some (nanosOf ds, s.drop ds.length)
  | s => some (0, s)

/-- Takes the offset of a time stamp off a text: the letter of universal time, or a sign, hours and
minutes. The sign may be the typographic minus. -/
def takeOffset : List Char → Option (Int × List Char)
  | [] => none
  | c :: s =>
    if c = 'Z' ∨ c = 'z' then some (0, s)
    else if c = '+' then (takeOffsetNumbers (takeChar ':') s).map fun (n, s) => ((n : Int), s)
    else if c = '-' ∨ c.toNat = 0x2212 then
      (takeOffsetNumbers (takeChar ':') s).map fun (n, s) => (-(n : Int), s)
    else none

def takeDayEnd : List Char → Option (List Char)
  | c :: s => if c = 'T' ∨ c = 't' ∨ c = ' ' then some s else none
  | [] => none

/-- Reads a time stamp: day, time and offset, each with its full number of digits. -/
def readStamp (s : List Char) : Option Instant := do
  let (year, s) ← takeNumber 4 4 s
  let s ← takeChar '-' s
  let (month, s) ← takeNumber 2 2 s
  let s ← takeChar '-' s
  let (day, s) ← takeNumber 2 2 s
  let s ← takeDayEnd s
  let (hour, s) ← takeNumber 2 2 s
  let s ← takeChar ':' s
  let (minute, s) ← takeNumber 2 2 s
  let s ← takeChar ':' s
  let (second, s) ← takeNumber 2 2 s
  let (nano, s) ← takeFraction s
  let (offset, s) ← takeOffset s
  if s.isEmpty ∧ offset.natAbs < secondsPerDay then
    let t ← momentOf ⟨year, month, day⟩ (timeOfDay hour minute second nano)
    t.shift (-offset)
  else none

/-! ### Mail dates -/

/-- The days of the week by the first letters of their names. -/
def weekdayNames : List String := ["sun", "mon", "tue", "wed", "thu", "fri", "sat"]

/-- The months by the first letters of their names. -/
def monthNames : List String :=
  ["jan", "feb", "mar", "apr", "may", "jun", "jul", "aug", "sep", "oct", "nov", "dec"]

/-- The place in a list of three-letter names of the one a text begins with, in either case. -/
def takeName (names : List String) (s : List Char) : Option (Nat × List Char) :=
  (names.findIdx? fun name => name.toList == (s.take 3).map Char.toLower).map (·, s.drop 3)

def takeBlanks (s : List Char) : Option (List Char) :=
  match s with
  | c :: _ => if Text.isBlank c then some (Text.dropBlanks s) else none
  | [] => none

def zoneNames : List (String × Nat) :=
  [("gmt", 0), ("ut", 0), ("z", 0), ("edt", 4), ("est", 5), ("cdt", 5), ("cst", 6), ("mdt", 6),
    ("mst", 7), ("pdt", 7), ("pst", 8)]

/-- Takes a zone off a text: a name, a letter other than `j`, or a sign, hours and minutes. -/
def takeZone (s : List Char) : Option (Int × List Char) :=
  let name := (s.takeWhile Char.isAlpha).map Char.toLower
  let rest := s.dropWhile Char.isAlpha
  match name with
  | [] =>
    match s with
    | '+' :: s => (takeOffsetNumbers some s).map fun (n, s) => ((n : Int), s)
    | '-' :: s => (takeOffsetNumbers some s).map fun (n, s) => (-(n : Int), s)
    | _ => none
  | letters =>
    match List.lookup (String.ofList letters) zoneNames with
    | some hours => some (-(3600 * hours : Int), rest)
    | none =>
      match letters with
      | [c] => if c = 'j' then none else some (0, rest)
      | _ => none

/-- Skips the rest of a comment in which `depth` parentheses are open. A backslash takes away the
meaning of the character after it. -/
def skipComment (depth : Nat) : List Char → Option (List Char)
  | [] => none
  | '\\' :: s =>
    match s with
    | [] => none
    | _ :: s => skipComment depth s
  | '(' :: s => skipComment (depth + 1) s
  | ')' :: s => if depth ≤ 1 then some s else skipComment (depth - 1) s
  | _ :: s => skipComment depth s

/-- Skips comments at the end of a text, at most `fuel` of them. -/
def skipComments : (fuel : Nat) → List Char → List Char
  | 0, s => s
  | fuel + 1, s =>
    match Text.dropBlanks s with
    | '(' :: t =>
      match skipComment 1 t with
      | some rest => skipComments fuel rest
      | none => s
    | _ => s

/-- The year meant by a number with so many digits: two and three digits leave out the century. -/
def fullYear (digits year : Nat) : Nat :=
  if digits = 2 then (if year < 50 then year + 2000 else year + 1900)
  else if digits = 3 then year + 1900
  else year

/-- Takes the seconds after a second colon off a text, if it has them. -/
def takeSeconds (s : List Char) : Option (Nat × List Char) :=
  match takeChar ':' (Text.dropBlanks s) with
  | some s => takeNumber 2 2 s
  | none => some (0, s)

/-- Takes a day of the week and the comma after it off a text, if it begins with one. -/
def takeWeekday (s : List Char) : Option (Option Nat × List Char) :=
  match takeName weekdayNames s with
  | some (weekday, s) => (takeChar ',' s).map fun s => (some weekday, s)
  | none => some (none, s)

/-- Reads the date of a mail header. A day of the week must be the right one. -/
def readMailDate (s : List Char) : Option Instant := do
  let (weekday, s) ← takeWeekday (Text.dropBlanks s)
  let (day, s) ← takeNumber 1 2 (Text.dropBlanks s)
  let s ← takeBlanks s
  let (month, s) ← takeName monthNames s
  let s ← takeBlanks s
  let (year, rest) ← takeNumber 2 s.length s
  let year := fullYear (s.length - rest.length) year
  let s ← takeBlanks rest
  let (hour, s) ← takeNumber 2 2 s
  let s ← takeChar ':' (Text.dropBlanks s)
  let (minute, s) ← takeNumber 2 2 (Text.dropBlanks s)
  let (second, s) ← takeSeconds s
  let s ← takeBlanks s
  let (offset, s) ← takeZone s
  let date : Date := ⟨year, month + 1, day⟩
  if (skipComments s.length s).isEmpty ∧ offset.natAbs < secondsPerDay ∧
      weekday.all (· = date.weekday) then
    let t ← momentOf date (timeOfDay hour minute second 0)
    t.shift (-offset)
  else none

/-! ### Fixed formats -/

/-- A part of a format. -/
inductive Part where
  | year | month | day | hour | minute | second
  | mark (c : Char)
  | gap
  deriving Repr, DecidableEq

/-- The numbers that a format collects. -/
structure Parts where
  year : Int := 0
  month : Nat := 0
  day : Nat := 0
  hour : Nat := 0
  minute : Nat := 0
  second : Nat := 0
  deriving Repr, DecidableEq

/-- Takes a year off a text: up to four digits, or any number of them after a sign. -/
def takeYear : List Char → Option (Int × List Char)
  | '-' :: s => (takeNumber 1 s.length s).map fun (n, s) => (-(n : Int), s)
  | '+' :: s => (takeNumber 1 s.length s).map fun (n, s) => ((n : Int), s)
  | s => (takeNumber 1 4 s).map fun (n, s) => ((n : Int), s)

/-- Reads one part of a format. Blanks before a number are skipped, and a gap may be empty. -/
def Part.read (part : Part) (found : Parts) (s : List Char) : Option (Parts × List Char) :=
  let number := takeNumber 1 2 (Text.dropBlanks s)
  match part with
  | .year => (takeYear (Text.dropBlanks s)).map fun (n, s) => ({ found with year := n }, s)
  | .month => number.map fun (n, s) => ({ found with month := n }, s)
  | .day => number.map fun (n, s) => ({ found with day := n }, s)
  | .hour => number.map fun (n, s) => ({ found with hour := n }, s)
  | .minute => number.map fun (n, s) => ({ found with minute := n }, s)
  | .second => number.map fun (n, s) => ({ found with second := n }, s)
  | .mark c => (takeChar c s).map (found, ·)
  | .gap => some (found, Text.dropBlanks s)

def readParts : List Part → Parts → List Char → Option Parts
  | [], found, s => if s.isEmpty then some found else none
  | part :: more, found, s => do
    let (found, s) ← part.read found s
    readParts more found s

def readFormat (format : List Part) (s : List Char) : Option Instant := do
  let p ← readParts format {} s
  momentOf ⟨p.year, p.month, p.day⟩ (timeOfDay p.hour p.minute p.second 0)

/-- Year, month and day with a mark between them. -/
def dayFormat (c : Char) : List Part := [.year, .mark c, .month, .mark c, .day]

def clockFormat : List Part := [.hour, .mark ':', .minute]

/-- The formats of day and time, then those of a day alone, in the order in which they are tried. -/
def formats : List (List Part) :=
  [dayFormat '-' ++ [.gap] ++ clockFormat ++ [.mark ':', .second],
    dayFormat '-' ++ [.mark 'T'] ++ clockFormat ++ [.mark ':', .second],
    dayFormat '-' ++ [.gap] ++ clockFormat,
    dayFormat '/' ++ [.gap] ++ clockFormat ++ [.mark ':', .second],
    dayFormat '-',
    dayFormat '/',
    [.month, .mark '/', .day, .mark '/', .year],
    [.day, .mark '.', .month, .mark '.', .year]]

def read (text : String) : Option Instant :=
  let s := (Text.trim text).toList
  readStamp s <|> readMailDate s <|> formats.findSome? (readFormat · s)

end DocSearch.Calendar
