import DocSearch.Json.Printer
import DocSearch.Text.Visible

/-!
Typed values read from data values. A record is an object, or a list of its fields in their order.
The members of an object are visited in the order in which they are listed, and the first one that
does not fit is the failure; only then are the fields that lack a value looked at, in their own
order. Members that no field asks for are passed over.
-/

namespace DocSearch

/-- What stands in the place of the value that was expected. -/
inductive Found where
  | null
  | bool (b : Bool)
  | int (n : Int)
  | float (x : Float)
  | string (s : String)
  | list
  | map
  | bareName
  deriving Repr, DecidableEq

def Found.text : Found → String
  | .null => "null"
  | .bool b => "boolean `" ++ (if b then "true" else "false") ++ "`"
  | .int n => "integer `" ++ toString n ++ "`"
  | .float x => "floating point `" ++ Json.floatText x ++ "`"
  | .string s => "string " ++ Text.shown s
  | .list => "sequence"
  | .map => "map"
  | .bareName => "unit variant"

def Json.found : Json → Found
  | .null => .null
  | .bool b => .bool b
  | .int n => .int n
  | .float x => .float x
  | .string s => .string s
  | .array _ => .list
  | .object _ => .map

/-- Why a data value is not a value of a type. -/
inductive DecodeError where
  | wrongType (found : Found) (expected : String)
  | wrongValue (found : Found) (expected : String)
  | wrongLength (length : Nat) (expected : String)
  | missing (field : String)
  | repeated (field : String)
  | unknownName (name : String) (known : List String)
  | noAlternative (type : String)
  deriving Repr, DecidableEq

def oneOf (names : List String) : String :=
  let quoted := names.map fun name => "`" ++ name ++ "`"
  match quoted with
  | [] => "there are no variants"
  | [a] => a
  | [a, b] => a ++ " or " ++ b
  | many => "one of " ++ String.intercalate ", " many

def DecodeError.message : DecodeError → String
  | .wrongType found expected => "invalid type: " ++ found.text ++ ", expected " ++ expected
  | .wrongValue found expected => "invalid value: " ++ found.text ++ ", expected " ++ expected
  | .wrongLength length expected =>
    "invalid length " ++ toString length ++ ", expected " ++ expected
  | .missing field => "missing field `" ++ field ++ "`"
  | .repeated field => "duplicate field `" ++ field ++ "`"
  | .unknownName name known => "unknown variant `" ++ name ++ "`, expected " ++ oneOf known
  | .noAlternative type => "data did not match any variant of untagged enum " ++ type

namespace Decode

variable {α β : Type}

/-! ### Plain values -/

def any (j : Json) : Except DecodeError Json := .ok j

def string : Json → Except DecodeError String
  | .string s => .ok s
  | j => .error (.wrongType j.found "a string")

def bool : Json → Except DecodeError Bool
  | .bool b => .ok b
  | j => .error (.wrongType j.found "a boolean")

def integer (kind : String) (low high : Int) : Json → Except DecodeError Int
  | .int n => if low ≤ n ∧ n ≤ high then .ok n else .error (.wrongValue (.int n) kind)
  | j => .error (.wrongType j.found kind)

def word64 (j : Json) : Except DecodeError UInt64 :=
  (integer "u64" 0 ((UInt64.size : Int) - 1) j).map fun n => UInt64.ofNat n.toNat

def size64 (j : Json) : Except DecodeError UInt64 :=
  (integer "usize" 0 ((UInt64.size : Int) - 1) j).map fun n => UInt64.ofNat n.toNat

def word32 (j : Json) : Except DecodeError UInt32 :=
  (integer "u32" 0 ((UInt32.size : Int) - 1) j).map fun n => UInt32.ofNat n.toNat

def word16 (j : Json) : Except DecodeError UInt16 :=
  (integer "u16" 0 ((UInt16.size : Int) - 1) j).map fun n => UInt16.ofNat n.toNat

def int64 (j : Json) : Except DecodeError Int64 :=
  (integer "i64" Int64.minValue.toInt Int64.maxValue.toInt j).map Int64.ofInt

def float : Json → Except DecodeError Float
  | .float x => .ok x
  | .int n => .ok (Floating.ofInt n)
  | j => .error (.wrongType j.found "f64")

def single : Json → Except DecodeError Floating.Single
  | .float x => .ok (.round x)
  | .int n => .ok (.ofInt n)
  | j => .error (.wrongType j.found "f32")

/-- A value that may be nothing. -/
def option (item : Json → Except DecodeError α) : Json → Except DecodeError (Option α)
  | .null => .ok none
  | j => (item j).map some

/-- The values of a list, up to the first that does not fit. -/
def items (item : Json → Except DecodeError α) : List Json → Except DecodeError (List α)
  | [] => .ok []
  | j :: js => do
    let a ← item j
    let as ← items item js
    return a :: as

def list (item : Json → Except DecodeError α) : Json → Except DecodeError (List α)
  | .array js => items item js
  | j => .error (.wrongType j.found "a sequence")

/-- The values of members, up to the first that does not fit. -/
def entries (item : Json → Except DecodeError α) :
    List (String × Json) → Except DecodeError (List (String × α))
  | [] => .ok []
  | (name, j) :: rest => do
    let a ← item j
    let as ← entries item rest
    return (name, a) :: as

def named (item : Json → Except DecodeError α) : Json → Except DecodeError (Named α)
  | .object ms => (entries item ms).map Named.ofList
  | j => .error (.wrongType j.found "a map")

/-- A name out of several, alone or as the only member of an object, with what stands beside it. -/
def choice : Json → Except DecodeError (String × Option Json)
  | .string name => .ok (name, none)
  | .object [(name, j)] => .ok (name, some j)
  | .object _ => .error (.wrongValue .map "map with a single key")
  | j => .error (.wrongType j.found "string or map")

def content : Option Json → Except DecodeError Json
  | some j => .ok j
  | none => .error (.wrongType .bareName "newtype variant")

/-- A chosen name must stand alone or beside nothing. -/
def noContent : Option Json → Except DecodeError Unit
  | none => .ok ()
  | some .null => .ok ()
  | some j => .error (.wrongType j.found "unit")

/-! ### Records -/

/-- The members of a record, under the names of its fields if it is written as a list. -/
structure Record where
  name : String
  fields : List String
  members : List (String × Json)
  /-- The length of the list, if the record is written as one. -/
  length : Option Nat

def record (name : String) (fields : List String) : Json → Except DecodeError Record
  | .object ms => .ok ⟨name, fields, ms, none⟩
  | .array js => .ok ⟨name, fields, fields.zip js, some js.length⟩
  | j => .error (.wrongType j.found ("struct " ++ name))

/-- What a field is found to hold, and a failure with the place of the member it comes from. -/
structure Slot (α : Type) where
  value : Option α
  fault : Option (Nat × DecodeError)

/-- The members under one of some names, with their places. -/
def occurrences (names : List String) (place : Nat) : List (String × Json) → List (Nat × Json)
  | [] => []
  | (name, j) :: rest =>
    if names.contains name then (place, j) :: occurrences names (place + 1) rest
    else occurrences names (place + 1) rest

namespace Record

/-- Looks for a field that may also be written under other names. -/
def slotAs (r : Record) (field : String) (others : List String)
    (item : Json → Except DecodeError α) : Slot α :=
  match occurrences (field :: others) 0 r.members with
  | [] => ⟨none, none⟩
  | (place, j) :: more =>
    match item j with
    | .error e => ⟨none, some (place, e)⟩
    | .ok a => ⟨some a, more.head?.map fun again => (again.1, .repeated field)⟩

def slot (r : Record) (field : String) (item : Json → Except DecodeError α) : Slot α :=
  r.slotAs field [] item

def earlier : Option (Nat × DecodeError) → Option (Nat × DecodeError) → Option (Nat × DecodeError)
  | some a, some b => if b.1 < a.1 then some b else some a
  | some a, none => some a
  | none, b => b

/-- Succeeds if none of the fields has a failure and no items are left over. -/
def check (r : Record) (faults : List (Option (Nat × DecodeError))) : Except DecodeError Unit :=
  match faults.foldl earlier none with
  | some (_, e) => .error e
  | none =>
    match r.length with
    | some n =>
      if r.fields.length < n then .error (.wrongLength n "fewer elements in array") else .ok ()
    | none => .ok ()

/-- How many items a record has, as a phrase. -/
def expected (r : Record) : String :=
  "struct " ++ r.name ++ " with " ++
    (if r.fields.length = 1 then "1 element" else toString r.fields.length ++ " elements")

def lacking (r : Record) (field : String) : DecodeError :=
  match r.length with
  | some _ => .wrongLength (r.fields.idxOf field) r.expected
  | none => .missing field

def required (r : Record) (field : String) (s : Slot α) : Except DecodeError α :=
  match s.value with
  | some a => .ok a
  | none => .error (r.lacking field)

end Record

def Slot.getD (s : Slot α) (fallback : α) : α := s.value.getD fallback

end Decode

/-- A member that is written only if it has a value. -/
def Json.member? (name : String) : Option Json → List (String × Json)
  | some j => [(name, j)]
  | none => []

end DocSearch
