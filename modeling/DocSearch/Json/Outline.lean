import DocSearch.Json.Parser

/-!
Reading a text of which only a part is asked for. The text is gone over as a whole, and its arrays
and objects must be well formed. But where nothing is asked for, it does not matter whether a number
is too large, a text holds half of a character, or values are nested too deep.
-/

namespace DocSearch.Json

/-- What is asked for of a data value: nothing, all of it, some fields of a record, or the same of
each item and each member. The fields are in the order in which a list has them. -/
inductive Asked where
  | nothing
  | all
  | record (fields : List (String × Asked))
  | each (item : Asked)

namespace Asked

/-- A record of which some fields are asked for, each of them whole. -/
def fields (names : List String) : Asked := .record (names.map fun name => (name, .all))

/-- What is asked for of the member with a name. -/
def ofMember : Asked → String → Asked
  | .nothing, _ => .nothing
  | .all, _ => .all
  | .record fields, name => (List.lookup name fields).getD .nothing
  | .each item, _ => item

/-- What is asked for of the item at a place. -/
def ofItem : Asked → Nat → Asked
  | .nothing, _ => .nothing
  | .all, _ => .all
  | .record fields, place => (fields[place]?.map Prod.snd).getD .nothing
  | .each item, _ => item

end Asked

/-! ### Passing over -/

/-- Passes over an escape whose backslash is behind. Any four digits will do. -/
def passEscape : List Char → Except Fault (List Char)
  | [] => .error ⟨.eofString, 0⟩
  | 'u' :: s => (fourHex s).map Prod.snd
  | c :: s =>
    if ['"', '\\', '/', 'b', 'f', 'n', 'r', 't'].contains c then .ok s
    else .error (.on .invalidEscape (c :: s))

/-- Passes over a text up to its closing quote, which is at most `fuel` characters away. -/
def passChars : (fuel : Nat) → List Char → Except Fault (List Char)
  | _, [] => .error ⟨.eofString, 0⟩
  | 0, _ => .error ⟨.eofString, 0⟩
  | fuel + 1, c :: s =>
    if c = '"' then .ok s
    else if c = '\\' then do
      let rest ← passEscape s
      passChars fuel rest
    else if c.toNat < 32 then .error (.before .controlCharacter s)
    else passChars fuel s

def passText (s : List Char) : Except Fault (List Char) := passChars s.length s

/-- Passes over one digit or more. -/
def passDigits : List Char → Except Fault (List Char)
  | [] => .error ⟨.invalidNumber, 0⟩
  | c :: s =>
    if c.isDigit then .ok (s.dropWhile Char.isDigit) else .error (.on .invalidNumber (c :: s))

/-- Passes over an exponent whose letter is behind. -/
def passPower : List Char → Except Fault (List Char)
  | '+' :: s => passDigits s
  | '-' :: s => passDigits s
  | s => passDigits s

def passExponent : List Char → Except Fault (List Char)
  | 'e' :: s => passPower s
  | 'E' :: s => passPower s
  | s => .ok s

def passFraction : List Char → Except Fault (List Char)
  | '.' :: s => do
    let rest ← passDigits s
    passExponent rest
  | s => passExponent s

/-- Passes over a number without its sign. No digit comes after a leading zero. -/
def passNumber : List Char → Except Fault (List Char)
  | '0' :: c :: s =>
    if c.isDigit then .error (.on .invalidNumber (c :: s)) else passFraction (c :: s)
  | s => do
    let rest ← passDigits s
    passFraction rest

/-- Passes over a value that is neither an array nor an object. -/
def passPlain : List Char → Except Fault (List Char)
  | [] => .error ⟨.eofValue, 0⟩
  | c :: rest =>
    if c = 'n' then (word .null ['u', 'l', 'l'] rest).map Prod.snd
    else if c = 't' then (word (.bool true) ['r', 'u', 'e'] rest).map Prod.snd
    else if c = 'f' then (word (.bool false) ['a', 'l', 's', 'e'] rest).map Prod.snd
    else if c = '-' then passNumber rest
    else if c.isDigit then passNumber (c :: rest)
    else if c = '"' then passText rest
    else .error (.on .expectedValue (c :: rest))

/-! ### Outlines -/

/-- A value as it stands in a text, with what can be made of its plain parts and its names. -/
inductive Outline where
  | plain (value : Option Json)
  | array (items : List Outline)
  | object (members : List (Option String × Outline))

/-- Passes over a part of a text and keeps what can be made of it. -/
def attempt {α : Type} (pass : List Char → Except Fault (List Char))
    (read : List Char → Except Fault (α × List Char)) (s : List Char) :
    Except Fault (Option α × List Char) :=
  (pass s).map fun rest => ((read s).toOption.map Prod.fst, rest)

/-- The outline of a value that is nested less than `levels` deep. -/
def outline : (levels : Nat) → List Char → Except Fault (Outline × List Char)
  | 0, s => .error (.on .tooDeep s)
  | levels + 1, s =>
    match skipSpace s with
    | [] => .error ⟨.eofValue, 0⟩
    | c :: rest =>
      if c = '[' then do
        let (os, rest) ← items (outline levels) rest
        .ok (.array os, rest)
      else if c = '\x7b' then do
        let (ms, rest) ← objectMembers (attempt passText text) (outline levels) rest
        .ok (.object ms, rest)
      else do
        let (a, rest) ← attempt passPlain (value 1) (c :: rest)
        .ok (.plain a, rest)

namespace Outline

mutual

/-- The value of an outline as far as it is asked for, if it is nested at most `levels` deep; the
rest of it is nothing. -/
def read (asked : Asked) (levels : Nat) (o : Outline) : Option Json :=
  match asked, o with
  | .nothing, _ => some .null
  | _, .plain value => value
  | asked, .array os =>
    if levels = 0 then none else (readItems asked (levels - 1) 0 os).map .array
  | asked, .object ms =>
    if levels = 0 then none else (readMembers asked (levels - 1) ms).map .object
termination_by structural o

def readItems (asked : Asked) (levels place : Nat) (os : List Outline) : Option (List Json) :=
  match os with
  | [] => some []
  | o :: os => do
    let a ← read (asked.ofItem place) levels o
    let as ← readItems asked levels (place + 1) os
    return a :: as
termination_by structural os

def readMembers (asked : Asked) (levels : Nat) (ms : List (Option String × Outline)) :
    Option (List (String × Json)) :=
  match ms with
  | [] => some []
  | (name, o) :: ms => do
    let name ← name
    let a ← read (asked.ofMember name) levels o
    let as ← readMembers asked levels ms
    return (name, a) :: as
termination_by structural ms

end

end Outline

/-- Reads what is asked for of the value in a text. No text is nested deeper than it is long. -/
def parseAsked (asked : Asked) (s : String) : Option Json :=
  match outline (s.toList.length + 1) s.toList with
  | .error _ => none
  | .ok (o, rest) => if (skipSpace rest).isEmpty then o.read asked (levelLimit - 1) else none

end DocSearch.Json
