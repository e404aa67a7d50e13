import DocSearch.Calendar.Reading
import DocSearch.Json.Decode
import DocSearch.Word

/-!
The values that a document field is compared with.
-/

namespace DocSearch

/-- A single value. A truth value can be read, but no condition accepts it. -/
inductive Scalar where
  | bool (b : Bool)
  | int (n : Int64)
  | float (x : Float)
  | date (t : Calendar.Instant)
  | text (s : String)
  deriving Repr, DecidableEq

namespace Scalar

def isNumeric : Scalar → Bool
  | .int _ => true
  | .float x => Floating.finite x
  | _ => false

/-- A text, whether or not it can be read as something else. -/
def isText : Scalar → Bool
  | .text _ => true
  | _ => false

/-- A date, or a text that can be read as one. -/
def isDate : Scalar → Bool
  | .date _ => true
  | .text s => (Calendar.read s).isSome
  | _ => false

def isRangeable (v : Scalar) : Bool := v.isNumeric || v.isDate

def toJson : Scalar → Json
  | .bool b => .bool b
  | .int n => .int n.toInt
  | .float x => .ofFloat x
  | .date t => .string t.text
  | .text s => .string s

def display : Scalar → String
  | .bool b => if b then "true" else "false"
  | .int n => toString n.toInt
  | .float x => Floating.plainText x
  | .date t => t.text
  | .text s => s

/-- Reads a value. An integer that does not fit into 64 bits with a sign becomes a float; a date is
read as text. -/
def decode : Json → Except DecodeError Scalar
  | .bool b => .ok (.bool b)
  | .int n =>
    match Word.int64? n with
    | some w => .ok (.int w)
    | none => .ok (.float (Floating.ofInt n))
  | .float x => .ok (.float x)
  | .string s => .ok (.text s)
  | _ => .error (.noAlternative "Scalar")

end Scalar

end DocSearch
