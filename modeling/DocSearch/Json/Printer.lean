import DocSearch.Json.Basic
import DocSearch.Floating.Layout

/-!
The text of a data value, in one line or with one item a line.
-/

namespace DocSearch.Json

def hexDigit (n : Nat) : Char := Nat.digitChar n

/-- A character inside a quoted text. The quote, the backslash and the control characters are
escaped, by a letter where there is one. -/
def escapeChar (c : Char) : List Char :=
  if c = '"' then ['\\', '"']
  else if c = '\\' then ['\\', '\\']
  else if c = '\n' then ['\\', 'n']
  else if c = '\r' then ['\\', 'r']
  else if c = '\t' then ['\\', 't']
  else if c.toNat = 8 then ['\\', 'b']
  else if c.toNat = 12 then ['\\', 'f']
  else if c.toNat < 32 then
    ['\\', 'u', '0', '0', hexDigit (c.toNat / 16), hexDigit (c.toNat % 16)]
  else [c]

def quote (s : String) : String :=
  String.ofList ('"' :: s.toList.flatMap escapeChar ++ ['"'])

/-- The text of a float; one that is not finite is written as nothing. -/
def floatText (x : Float) : String :=
  if Floating.finite x then Floating.dataLayout.text x else "null"

def leafText : Json → String
  | .null => "null"
  | .bool b => if b then "true" else "false"
  | .int n => toString n
  | .float x => floatText x
  | .string s => quote s
  | _ => ""

mutual

def compact (a : Json) : String :=
  match a with
  | .array items => "[" ++ compactItems items ++ "]"
  | .object ms => "\x7b" ++ compactMembers ms ++ "\x7d"
  | leaf => leafText leaf
termination_by structural a

/-- The items of an array, separated by commas. -/
def compactItems (as : List Json) : String :=
  match as with
  | [] => ""
  | a :: as => compact a ++ (if as.isEmpty then "" else ",") ++ compactItems as
termination_by structural as

/-- The members of an object, separated by commas. -/
def compactMembers (as : List (String × Json)) : String :=
  match as with
  | [] => ""
  | (k, a) :: as =>
    quote k ++ ":" ++ compact a ++ (if as.isEmpty then "" else ",") ++ compactMembers as
termination_by structural as

end

def newLine (level : Nat) : String := String.ofList ('\n' :: List.replicate (2 * level) ' ')

mutual

/-- The text of a value with one item a line, two blanks deeper than what holds it. -/
def pretty (level : Nat) (a : Json) : String :=
  match a with
  | .array [] => "[]"
  | .array items => "[" ++ prettyItems (level + 1) items ++ newLine level ++ "]"
  | .object [] => "\x7b\x7d"
  | .object ms => "\x7b" ++ prettyMembers (level + 1) ms ++ newLine level ++ "\x7d"
  | leaf => leafText leaf
termination_by structural a

/-- The items of an array, each on a line of its own. -/
def prettyItems (level : Nat) (as : List Json) : String :=
  match as with
  | [] => ""
  | a :: as =>
    newLine level ++ pretty level a ++ (if as.isEmpty then "" else ",") ++ prettyItems level as
termination_by structural as

/-- The members of an object, each on a line of its own. -/
def prettyMembers (level : Nat) (as : List (String × Json)) : String :=
  match as with
  | [] => ""
  | (k, a) :: as =>
    newLine level ++ quote k ++ ": " ++ pretty level a ++ (if as.isEmpty then "" else ",") ++
      prettyMembers level as
termination_by structural as

end

end DocSearch.Json
