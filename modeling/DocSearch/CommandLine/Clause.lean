import DocSearch.Builder
import DocSearch.ClientFailure
import DocSearch.Text.Integer
import DocSearch.Text.Letter

/-!
Conditions and sort orders as they are written on a command line.
-/

namespace DocSearch.CommandLine

def unquote (s : List Char) : List Char :=
  match s with
  | '"' :: rest =>
    if rest.getLast? = some '"' then rest.dropLast else s
  | _ => s

/-- A value: an integer of 64 bits, another number, or else a text, which may stand in quotes. -/
def parseValue (raw : String) : Scalar :=
  let trimmed := Text.trim raw
  match Text.readInt64 trimmed with
  | some n => .int n
  | none =>
    match Floating.readFloat trimmed.toList with
    | some x =>
      if Floating.finite x then .float x else .text (String.ofList (unquote trimmed.toList))
    | none => .text (String.ofList (unquote trimmed.toList))

def startsField (c : Char) : Bool := c.isAlpha || c == '_' || c == '@'

def continuesField (c : Char) : Bool := Text.isNameChar c || c == '.' || c == '@' || c == '-'

/-- Takes a field off a text, as long as it can be, with the blanks around it. -/
def takeField (s : List Char) : Option (String × List Char) :=
  match Text.dropBlanks s with
  | c :: s =>
    if startsField c then
      some (String.ofList (c :: s.takeWhile continuesField),
        Text.dropBlanks (s.dropWhile continuesField))
    else none
  | [] => none

/-- Takes an operator off a text, as long as it can be. -/
def takeOperator : List Char → Option (Operator × List Char)
  | '<' :: '>' :: s => some (.ne, s)
  | '>' :: '=' :: s => some (.gte, s)
  | '<' :: '=' :: s => some (.lte, s)
  | '=' :: s => some (.eq, s)
  | '>' :: s => some (.gt, s)
  | '<' :: s => some (.lt, s)
  | _ => none

/-- The parts of a condition: a field, an operator, and a value in one line. -/
def clauseParts (s : List Char) : Option (String × Operator × String) := do
  let (field, s) ← takeField s
  let (op, s) ← takeOperator s
  let value := Text.dropBlanksRight (Text.dropBlanks s)
  if value.contains '\n' then none else some (field, op, String.ofList value)

def parseClause (raw : String) : Except ClientError (String × Operator × Scalar) :=
  match clauseParts raw.toList with
  | some (field, op, value) => .ok (field, op, parseValue value)
  | none => .error (.invalidArgument ("expected FIELD<OP>VALUE, got '" ++ raw ++ "'"))

/-- The text of the values of a set, which is one line of at least one character. If there are only
blanks, the last of them is that character. -/
def setText (s : List Char) : Option (List Char) :=
  let text := match Text.dropBlanks s with
    | [] => s.getLast?.toList
    | text => text
  if text.isEmpty || text.contains '\n' then none else some text

def atCommas (s : String) : List String :=
  (s.toList.splitOn ',').map String.ofList

/-- Reads a set: a field and its values, of which those without text are left out. -/
def parseSet (raw : String) : Except ClientError (String × List Scalar) :=
  let parts := do
    let (field, s) ← takeField raw.toList
    let s ← match s with
      | '=' :: s => setText s
      | _ => none
    some (field, String.ofList s)
  match parts with
  | some (field, values) =>
    .ok (field, (((atCommas values).map Text.trim).filter (!·.isEmpty)).map parseValue)
  | none => .error (.invalidArgument ("expected FIELD=V1,V2, got '" ++ raw ++ "'"))

/-- A text at its last colon: what stands before it, and what stands after it if there is one. -/
def splitLast (s : List Char) : List Char × Option (List Char) :=
  let after := (s.reverse.takeWhile (· != ':')).reverse
  if after.length = s.length then (s, none)
  else (s.take (s.length - after.length - 1), some after)

/-- Reads a sort order: a field, and a direction after a colon. -/
def parseSort (raw : String) : Except ClientError (String × Bool) :=
  let (before, after) := splitLast raw.toList
  let field := Text.trim (String.ofList before)
  let direction := (Text.trim (String.ofList (after.getD "asc".toList))).map Char.toLower
  if field.isEmpty then .error (.invalidArgument ("empty sort field in '" ++ raw ++ "'"))
  else if direction = "asc" then .ok (field, true)
  else if direction = "desc" then .ok (field, false)
  else .error (.invalidArgument ("unknown sort direction '" ++ direction ++ "'"))

end DocSearch.CommandLine
