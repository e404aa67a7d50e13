import DocSearch.Url.Basic

/-!
Reading an address. The schemes of known kinds have a host; in their paths a backslash is a slash.
-/

namespace DocSearch.Url

def isOuterBlank (c : Char) : Bool := decide (c.toNat ≤ 32)

def relevant (s : String) : List Char :=
  let front := s.toList.dropWhile isOuterBlank
  ((front.reverse.dropWhile isOuterBlank).reverse).filter fun c => !isIgnored c

def isSchemeChar (c : Char) : Bool := c.isAlphanum || c == '+' || c == '-' || c == '.'

def takeScheme (s : List Char) : Option (String × List Char) :=
  match s with
  | [] => none
  | c :: _ =>
    if c.isAlpha then
      match s.dropWhile isSchemeChar with
      | ':' :: rest => some (String.ofList ((s.takeWhile isSchemeChar).map Char.toLower), rest)
      | _ => none
    else none

def isSlash (special : Bool) (c : Char) : Bool := c == '/' || (special && c == '\\')

/-- Splits off what stands before the last sign between user and host, if there is such a sign. -/
def splitUser (s : List Char) : Option (List Char) × List Char :=
  let host := (s.reverse.takeWhile (· != '@')).reverse
  if host.length = s.length then (none, s) else (some (s.take (s.length - host.length - 1)), host)

/-- The characters of a host before its port; colons between brackets belong to it. -/
def takeHost (inside : Bool) : List Char → List Char × List Char
  | [] => ([], [])
  | c :: s =>
    if c = ':' ∧ !inside then ([], c :: s)
    else
      let (host, rest) := takeHost (if c = '[' then true else if c = ']' then false else inside) s
      (c :: host, rest)

/-- Reads a port: digits to the end, none for no port. -/
def readPort (digits : List Char) : Except UrlError (Option Nat) :=
  if !digits.all Char.isDigit then .error .invalidPort
  else
    let n := digits.foldl (fun n c => 10 * n + (c.toNat - 48)) 0
    if 65535 < n then .error .invalidPort
    else .ok (if digits.isEmpty then none else some n)

def readUser (s : List Char) : String × String :=
  (escape inUser (s.takeWhile (· != ':')), escape inUser ((s.dropWhile (· != ':')).drop 1))

/-- Reads an authority of a scheme, given whether anything follows it. A backslash ends a port; what
it begins belongs to the path and is the second result. -/
def readAuthority (scheme : String) (more : Bool) (s : List Char) :
    Except UrlError (Authority × List Char) := do
  let special := isSpecial scheme
  let (user, rest) := splitUser s
  let (name, password) := readUser (user.getD [])
  let (host, port) := takeHost false rest
  if special ∧ host.isEmpty ∨ user = some [] ∧ rest.isEmpty ∧ more then .error .emptyHost
  else
    let host ← if special then Host.read host else Host.readOpaque host
    if host.isEmpty ∧ (!port.isEmpty ∨ !name.isEmpty ∨ !password.isEmpty) then .error .emptyHost
    else
      let digits := (port.drop 1).takeWhile (· != '\\')
      let number ← readPort digits
      return (⟨name, password, host, if number = defaultPort scheme then none else number⟩,
        port.drop (digits.length + 1))

/-- Walks through the segments of a path, given those that lead to the place reached. -/
def walk (scheme : String) (reached : List String) : List String → List String
  | [] => reached
  | [last] =>
    if isDoubleDot last then above reached ++ [""]
    else if isSingleDot last then reached ++ [""]
    else extend scheme reached last
  | name :: rest =>
    if isDoubleDot name then walk scheme (above reached) rest
    else if isSingleDot name then walk scheme reached rest
    else walk scheme (extend scheme reached name) rest

/-- Reads the segments of a path after its first slash. -/
def readSegments (scheme : String) (s : List Char) : List String :=
  walk scheme [] ((splitWhere (isSlash (isSpecial scheme)) s).map (escape inPath))

def readPath (scheme : String) (s : List Char) : List String :=
  match s with
  | [] => if isSpecial scheme then [""] else []
  | c :: rest => readSegments scheme (if isSlash (isSpecial scheme) c then rest else s)

/-- The path of a file, in which empty segments at the beginning do not count. -/
def filePath (names : List String) : List String :=
  match names.dropWhile (· == "") with
  | [] => [""]
  | rest => rest

def endsPath (c : Char) : Bool := c == '?' || c == '#'

/-- The query of an address, given what follows the path. -/
def readQuery (special : Bool) : List Char → Option String
  | '?' :: s => some (escape (inQuery special) (s.takeWhile (· != '#')))
  | _ => none

/-- The fragment of an address, given what follows the path. -/
def readFragment (s : List Char) : Option String :=
  match s.dropWhile (· != '#') with
  | '#' :: t => some (escape inFragment t)
  | _ => none

/-- The path of an address in its text: what comes before the query and the fragment. -/
def beforeEnd (s : List Char) : List Char := s.takeWhile fun c => !endsPath c

/-- Reads the host of a file. This machine has no name as a host. -/
def readFileHost (s : List Char) : Except UrlError (Option Host) :=
  if s.isEmpty then .ok none
  else (Host.read s).map fun host => if host = .domain "localhost" then none else some host

/-- Reads the authority and the path of a file after two slashes. A drive in the place of a host or
at the beginning of a path is on this machine. -/
def readFileAuthority (s : List Char) : Except UrlError (Host × List String) := do
  let outside := s.takeWhile fun c => !isSlash true c
  if outside.length = 2 ∧ isDrive (String.ofList outside) then
    return (.domain "", readSegments "file" s)
  else
    let path := s.drop outside.length
    match ← readFileHost outside with
    | none => return (.domain "", readSegments "file" path)
    | some host =>
      let names := readPath "file" path
      return (if names.head?.any isDrive then .domain "" else host, names)

def readFile (s : List Char) : Except UrlError (Host × List String) :=
  match s with
  | a :: b :: rest =>
    if isSlash true a ∧ isSlash true b then readFileAuthority rest
    else .ok (.domain "", readPath "file" s)
  | _ => .ok (.domain "", readPath "file" s)

def parse (text : String) : Except UrlError Address := do
  let s := relevant text
  match takeScheme s with
  | none => .error .noScheme
  | some (scheme, rest) =>
    let special := isSpecial scheme
    let body := beforeEnd rest
    let ending := rest.drop body.length
    let query := readQuery special ending
    let fragment := readFragment ending
    if scheme = "file" then
      let (host, names) ← readFile body
      return ⟨scheme, some ⟨"", "", host, none⟩, .segments (filePath names), query, fragment⟩
    else if special then
      let inner := body.dropWhile (isSlash true)
      let (authority, _) ← readAuthority scheme true (inner.takeWhile fun c => !isSlash true c)
      let names := readPath scheme (inner.dropWhile fun c => !isSlash true c)
      return ⟨scheme, some authority, .segments names, query, fragment⟩
    else
      match body with
      | '/' :: '/' :: inner =>
        let path := inner.dropWhile (· != '/')
        let more := !path.isEmpty || !ending.isEmpty
        let (authority, start) ← readAuthority scheme more (inner.takeWhile (· != '/'))
        let names := readPath scheme (start ++ path)
        return ⟨scheme, some authority, .segments names, query, fragment⟩
      | '/' :: inner =>
        return ⟨scheme, none, .segments (readSegments scheme inner), query, fragment⟩
      | other => return ⟨scheme, none, .opaqueText (escape isControl other), query, fragment⟩

end DocSearch.Url
