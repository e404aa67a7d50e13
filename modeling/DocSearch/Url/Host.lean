import DocSearch.Url.Domain
import DocSearch.Url.Percent

/-!
The host of an address: a domain or a number of one of the two kinds.
-/

namespace DocSearch.Url

/-- Why a text is no address. -/
inductive UrlError where
  | emptyHost
  | invalidDomain
  | invalidPort
  | invalidIpv4
  | invalidIpv6
  | invalidHostCharacter
  | noScheme
  deriving Repr, DecidableEq

def UrlError.message : UrlError → String
  | .emptyHost => "empty host"
  | .invalidDomain => "invalid international domain name"
  | .invalidPort => "invalid port number"
  | .invalidIpv4 => "invalid IPv4 address"
  | .invalidIpv6 => "invalid IPv6 address"
  | .invalidHostCharacter => "invalid domain character"
  | .noScheme => "relative URL without a base"

/-! ### Numbers of four parts -/

/-- The value of digits of a base, if all are digits of it. -/
def numeral (base : Nat) (s : List Char) : Option Nat :=
  s.foldl (fun n c =>
    match n, hexDigit? c with
    | some n, some d => if d < base then some (base * n + d) else none
    | _, _ => none) (some 0)

/-- One part of a number, in the base that its beginning tells. -/
def ipv4Part : List Char → Option Nat
  | [] => none
  | '0' :: 'x' :: s => numeral 16 s
  | '0' :: 'X' :: s => numeral 16 s
  | ['0'] => some 0
  | '0' :: s => numeral 8 s
  | s => numeral 10 s

/-- The parts of a host between its points, without an empty one at the end. -/
def hostParts (s : List Char) : List (List Char) :=
  let parts := splitWhere (· == '.') s
  if parts.getLast? = some [] then parts.dropLast else parts

def endsInNumber (s : List Char) : Bool :=
  match (hostParts s).getLast? with
  | some part => (!part.isEmpty && part.all Char.isDigit) || (ipv4Part part).isSome
  | none => false

/-- Reads a number of up to four parts, the last of which stands for all that are left out. -/
def readIpv4 (s : List Char) : Except UrlError Nat :=
  let parts := hostParts s
  match parts.mapM ipv4Part with
  | some numbers =>
    let rest := numbers.dropLast
    let last := numbers.getLast?.getD 0
    if parts.length ≤ 4 ∧ (rest.all fun n => decide (n < 256)) ∧
        last < Nat.pow 256 (5 - parts.length) then
      .ok (rest.zipIdx.foldl (fun sum n => sum + n.1 * Nat.pow 256 (3 - n.2)) last)
    else .error .invalidIpv4
  | none => .error .invalidIpv4

def ipv4Text (n : Nat) : String :=
  String.intercalate "." ([3, 2, 1, 0].map fun i => toString (n / Nat.pow 256 i % 256))

/-! ### Numbers of eight parts -/

def ipv6Part (s : List Char) : Option Nat :=
  if s.isEmpty ∨ 4 < s.length then none else numeral 16 s

/-- A number below 256 in decimal, without leading zeros. -/
def decimalByte (s : List Char) : Option Nat :=
  if s.isEmpty ∨ 3 < s.length ∨ (s.head? = some '0' ∧ 1 < s.length) then none
  else (numeral 10 s).bind fun n => if n < 256 then some n else none

/-- The last part of a number, which may be one of four parts. -/
def ipv6Last (s : List Char) : Option (List Nat) :=
  match (splitWhere (· == '.') s).mapM decimalByte with
  | some [a, b, c, d] => some [256 * a + b, 256 * c + d]
  | _ => (ipv6Part s).map fun n => [n]

/-- The parts of a number between colons; `final` tells that they end it. -/
def ipv6Parts (final : Bool) : List (List Char) → Option (List Nat)
  | [] => some []
  | [s] => if final then ipv6Last s else (ipv6Part s).map fun n => [n]
  | s :: rest => do
    let n ← ipv6Part s
    let ns ← ipv6Parts final rest
    some (n :: ns)

/-- Splits a text at the first pair of colons. -/
def splitGap : List Char → List Char × Option (List Char)
  | ':' :: ':' :: s => ([], some s)
  | c :: s => let (a, b) := splitGap s; (c :: a, b)
  | [] => ([], none)

def gapSide (final : Bool) (s : List Char) : Option (List Nat) :=
  if s.isEmpty then some [] else ipv6Parts final (splitWhere (· == ':') s)

/-- Reads a number of eight parts; a pair of colons stands for those that are left out. -/
def readIpv6 (s : List Char) : Except UrlError (List Nat) :=
  match splitGap s with
  | (all, none) =>
    match ipv6Parts true (splitWhere (· == ':') all) with
    | some ns => if ns.length = 8 then .ok ns else .error .invalidIpv6
    | none => .error .invalidIpv6
  | (left, some right) =>
    match gapSide false left, gapSide true right with
    | some ls, some rs =>
      if ls.length + rs.length < 8 then
        .ok (ls ++ List.replicate (8 - ls.length - rs.length) 0 ++ rs)
      else .error .invalidIpv6
    | _, _ => .error .invalidIpv6

def zeroRun (ns : List Nat) : Nat := (ns.takeWhile (· == 0)).length

/-- The first place and the length of the longest run of zeros. -/
def longestZeros (ns : List Nat) : Nat × Nat :=
  (List.range ns.length).foldl (fun best i =>
    let n := zeroRun (ns.drop i)
    if best.2 < n then (i, n) else best) (0, 0)

def hexParts (ns : List Nat) : String :=
  String.intercalate ":" (ns.map fun n => String.ofList (Nat.toDigits 16 n))

/-- A number in eight parts, with the longest run of two or more zeros left out. -/
def ipv6Text (ns : List Nat) : String :=
  let (i, n) := longestZeros ns
  if n < 2 then hexParts ns
  else hexParts (ns.take i) ++ "::" ++ hexParts (ns.drop (i + n))

/-! ### Hosts -/

/-- A host. -/
inductive Host where
  | domain (name : String)
  | ipv4 (n : Nat)
  | ipv6 (parts : List Nat)
  deriving Repr, DecidableEq

namespace Host

def text : Host → String
  | .domain name => name
  | .ipv4 n => ipv4Text n
  | .ipv6 parts => "[" ++ ipv6Text parts ++ "]"

/-- Whether a host is no more than an empty domain. -/
def isEmpty : Host → Bool
  | .domain name => name.isEmpty
  | _ => false

def readBracketed (s : List Char) : Except UrlError Host :=
  if s.getLast? = some ']' then (readIpv6 (s.drop 1).dropLast).map .ipv6 else .error .invalidIpv6

def read (s : List Char) : Except UrlError Host :=
  if s.head? = some '[' then readBracketed s
  else
    match (textOfBytes (unescape s)).bind asciiDomain with
    | none => .error .invalidDomain
    | some name =>
      if name.isEmpty then .error .emptyHost
      else if endsInNumber name.toList then (readIpv4 name.toList).map .ipv4
      else .ok (.domain name)

def refusedOpaque (c : Char) : Bool :=
  c.toNat == 0 || ['\t', '\n', '\r', ' ', '#', '/', ':', '<', '>', '?', '@', '[', '\\', ']', '^',
    '|'].contains c

/-- Reads the host of an address of an unknown kind, which is kept as it is. -/
def readOpaque (s : List Char) : Except UrlError Host :=
  if s.head? = some '[' then readBracketed s
  else if s.any refusedOpaque then .error .invalidHostCharacter
  else .ok (.domain (escape isControl s))

end Host

end DocSearch.Url
