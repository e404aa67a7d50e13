/-!
Percent encoding. Each part of an address has its own characters that are escaped; those outside
ASCII are escaped in all of them, byte by byte.
-/

namespace DocSearch.Url

def escapeByte (b : UInt8) : List Char :=
  let digit (n : Nat) : Char := (Nat.digitChar n).toUpper
  ['%', digit (b.toNat / 16), digit (b.toNat % 16)]

/-- A character with its bytes escaped if it is one of those that are, or is outside ASCII. -/
def escapeChar (escaped : Char → Bool) (c : Char) : List Char :=
  if c.toNat < 128 ∧ !escaped c then [c] else (String.utf8EncodeChar c).flatMap escapeByte

def escape (escaped : Char → Bool) (s : List Char) : String :=
  String.ofList (s.flatMap (escapeChar escaped))

def isControl (c : Char) : Bool := decide (c.toNat < 32 ∨ c.toNat = 127)

def inFragment (c : Char) : Bool := isControl c || [' ', '"', '<', '>', '\x60'].contains c

def inPath (c : Char) : Bool := inFragment c || ['#', '?', '\x7b', '\x7d'].contains c

def inSegment (special : Bool) (c : Char) : Bool :=
  inPath c || c == '/' || c == '%' || (special && c == '\\')

def inUser (c : Char) : Bool :=
  inPath c || ['/', ':', ';', '=', '@', '[', '\\', ']', '^', '|'].contains c

def inQuery (special : Bool) (c : Char) : Bool :=
  isControl c || [' ', '"', '#', '<', '>'].contains c || (special && c == '\x27')

def hexDigit? (c : Char) : Option Nat :=
  if '0' ≤ c ∧ c ≤ '9' then some (c.toNat - 48)
  else if 'a' ≤ c ∧ c ≤ 'f' then some (c.toNat - 87)
  else if 'A' ≤ c ∧ c ≤ 'F' then some (c.toNat - 55)
  else none

/-- The bytes that a text stands for; a percent sign without two digits stands for itself. -/
def unescape : List Char → List UInt8
  | [] => []
  | '%' :: a :: b :: s =>
    match hexDigit? a, hexDigit? b with
    | some m, some n => UInt8.ofNat (16 * m + n) :: unescape s
    | _, _ => 37 :: unescape (a :: b :: s)
  | c :: s => String.utf8EncodeChar c ++ unescape s

/-- The text that bytes encode, if they do. -/
def textOfBytes (bytes : List UInt8) : Option String := String.fromUTF8? ⟨bytes.toArray⟩

end DocSearch.Url
