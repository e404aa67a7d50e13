import DocSearch.Url.Host

/-!
Addresses: their parts, their text, and adding to their path and query.
-/

namespace DocSearch.Url

/-- The host of an address, with the user and the port if they are given. -/
structure Authority where
  user : String := ""
  password : String := ""
  host : Host
  port : Option Nat := none
  deriving Repr, DecidableEq

/-- A path: segments, or a text that has none. -/
inductive Path where
  | segments (names : List String)
  | opaqueText (text : String)
  deriving Repr, DecidableEq

/-- An address. -/
structure Address where
  scheme : String
  authority : Option Authority
  path : Path
  query : Option String := none
  fragment : Option String := none
  deriving Repr, DecidableEq

/-- The schemes of known kinds, with the ports that they use by themselves. -/
def specialSchemes : List (String × Option Nat) :=
  [("http", some 80), ("https", some 443), ("ws", some 80), ("wss", some 443), ("ftp", some 21),
    ("file", none)]

def isSpecial (scheme : String) : Bool := (List.lookup scheme specialSchemes).isSome

def defaultPort (scheme : String) : Option Nat := (List.lookup scheme specialSchemes).join

namespace Authority

/-- The user with the password, and the sign after them. -/
def userText (a : Authority) : String :=
  if a.user.isEmpty && a.password.isEmpty then ""
  else a.user ++ (if a.password.isEmpty then "" else ":" ++ a.password) ++ "@"

def text (a : Authority) : String :=
  a.userText ++ a.host.text ++
    match a.port with
    | some port => ":" ++ toString port
    | none => ""

end Authority

namespace Path

/-- Segments with a slash before each. -/
def segmentsText (names : List String) : String := String.join (names.map ("/" ++ ·))

def text : Path → String
  | .segments names => segmentsText names
  | .opaqueText text => text

def names : Path → List String
  | .segments names => names
  | .opaqueText _ => []

end Path

/-- A text after a mark, if there is one. -/
def marked (mark : String) : Option String → String
  | some text => mark ++ text
  | none => ""

/-- The path of an address as it is written: two slashes at its beginning would be taken for those
of an authority. -/
def Address.pathText (a : Address) : String :=
  match a.authority, a.path with
  | none, .segments ("" :: name :: names) => "/." ++ Path.segmentsText ("" :: name :: names)
  | _, path => path.text

namespace Address

def text (a : Address) : String :=
  a.scheme ++ ":" ++ marked "//" (a.authority.map Authority.text) ++ a.pathText ++
    marked "?" a.query ++ marked "#" a.fragment

def isOpaque (a : Address) : Bool :=
  match a.path with
  | .opaqueText _ => true
  | .segments _ => false

def withoutUser (a : Address) : Address :=
  { a with authority := a.authority.map fun auth => { auth with user := "", password := "" } }

end Address

/-- The marks of lines and columns, which count nowhere in an address. -/
def isIgnored (c : Char) : Bool := c == '\t' || c == '\n' || c == '\r'

def isSingleDot (s : String) : Bool := s == "." || s == "%2e" || s == "%2E"

def isDoubleDot (s : String) : Bool :=
  ["..", "%2e%2e", "%2e%2E", "%2E%2e", "%2E%2E", "%2e.", "%2E.", ".%2e", ".%2E"].contains s

/-- Whether a segment names a drive: a letter with a colon or a bar after it. -/
def isDrive (s : String) : Bool :=
  match s.toList with
  | [c, mark] => c.isAlpha && (mark == ':' || mark == '|')
  | c :: mark :: '\\' :: _ => c.isAlpha && (mark == ':' || mark == '|')
  | _ => false

/-- The segments that lead to the place above the one reached. A drive has no place above it. -/
def above (reached : List String) : List String :=
  match reached.getLast? with
  | some name => if isDrive name then reached else reached.dropLast
  | none => []

/-- A drive at the beginning of the path of a file, which is written with a colon. -/
def withColon (s : String) : String :=
  match s.toList with
  | [c, '|'] => if c.isAlpha then String.ofList [c, ':'] else s
  | _ => s

/-- The segments of a path with one more, in the form that it takes there. -/
def extend (scheme : String) (reached : List String) (name : String) : List String :=
  reached ++ [if scheme = "file" ∧ reached = [] then withColon name else name]

/-- Adds a name to the segments of a path. The names of a segment itself and of the one above are
left out; a name becomes the first segment of the path that has only an empty one. -/
def pushName (scheme : String) (names : List String) (name : String) : List String :=
  if name = "." ∨ name = ".." then names
  else
    let segment := escape (inSegment (isSpecial scheme)) (name.toList.filter fun c => !isIgnored c)
    let before := if names = [""] then [] else names
    if isDoubleDot segment then above before ++ [""]
    else if isSingleDot segment then before ++ [""]
    else extend scheme before segment

/-- The segments of a path without an empty one at the end, unless it is the only one. -/
def dropEmptyEnd (names : List String) : List String :=
  if 2 ≤ names.length ∧ names.getLast? = some "" then names.dropLast else names

namespace Address

def append (a : Address) (names : List String) : Address :=
  { a with
    path := .segments (names.foldl (pushName a.scheme) (dropEmptyEnd a.path.names)) }

def addParameter (a : Address) (name value : String) : Address :=
  let added := name ++ "=" ++ value
  { a with
    query := some (match a.query with
      | none | some "" => added
      | some query => query ++ "&" ++ added) }

end Address

end DocSearch.Url
