import DocSearch.Http.Message
import DocSearch.Text.Integer

/-!
The bytes of messages and answers as they pass over a network. A message is the last of its
connection, so its answer ends with it.
-/

namespace DocSearch.Http

/-! ### Messages -/

def base64Digit (n : Nat) : Char :=
  if n < 26 then Char.ofNat (65 + n)
  else if n < 52 then Char.ofNat (71 + n)
  else if n < 62 then Char.ofNat (n - 4)
  else if n = 62 then '+'
  else '/'

/-- Bytes in base 64: four digits for three of them, and equals signs for those that are missing. -/
def base64 : List UInt8 → List Char
  | [] => []
  | [a] =>
    let n := 16 * a.toNat
    [base64Digit (n / 64), base64Digit (n % 64), '=', '=']
  | [a, b] =>
    let n := 4 * (256 * a.toNat + b.toNat)
    [base64Digit (n / 4096), base64Digit (n / 64 % 64), base64Digit (n % 64), '=']
  | a :: b :: c :: rest =>
    let n := 65536 * a.toNat + 256 * b.toNat + c.toNat
    base64Digit (n / 262144) :: base64Digit (n / 4096 % 64) :: base64Digit (n / 64 % 64) ::
      base64Digit (n % 64) :: base64 rest

/-- The host of a message with its port, if the address has one. -/
def hostText (url : Url.Address) : String :=
  match url.authority with
  | some a => Url.Authority.text { a with user := "", password := "" }
  | none => ""

namespace Message

def headers (m : Message) : List (String × String) :=
  [("host", hostText m.url), ("accept", "*/*"), ("connection", "close")] ++
    (match m.login with
      | some login =>
        [("authorization", "Basic " ++ String.ofList (base64 login.toUTF8.toList))]
      | none => []) ++
    match m.body with
    | some body =>
      [("content-type", body.contentType), ("content-length", toString body.text.utf8ByteSize)]
    | none => []

def text (m : Message) : String :=
  let start := m.method.name ++ " " ++ m.url.pathText ++ Url.marked "?" m.url.query ++ " HTTP/1.1"
  let lines := start :: m.headers.map fun h => h.1 ++ ": " ++ h.2
  String.join (lines.map (· ++ "\r\n")) ++ "\r\n" ++ ((m.body.map Body.text).getD "")

end Message

/-! ### Answers -/

/-- The bytes before the first line end, and those after it. -/
def takeLine : List UInt8 → Option (List UInt8 × List UInt8)
  | 13 :: 10 :: rest => some ([], rest)
  | b :: rest => (takeLine rest).map fun (line, rest) => (b :: line, rest)
  | [] => none

def lineText (line : List UInt8) : List Char := line.map fun b => Char.ofNat b.toNat

/-- The lines up to an empty one, at most `fuel` of them, and the bytes after it. -/
def takeLines : (fuel : Nat) → List UInt8 → Option (List (List Char) × List UInt8)
  | 0, _ => none
  | fuel + 1, bytes => do
    let (line, rest) ← takeLine bytes
    if line.isEmpty then some ([], rest)
    else
      let (lines, rest) ← takeLines fuel rest
      some (lineText line :: lines, rest)

/-- The status in the first line of an answer. -/
def readStatus (line : List Char) : Option UInt16 :=
  match (line.splitOn ' ').drop 1 with
  | code :: _ => (Text.readNat code).map UInt16.ofNat
  | [] => none

/-- The value of a header among the lines of an answer, in lower case. -/
def header? (lines : List (List Char)) (name : String) : Option String :=
  lines.findSome? fun line =>
    let key := String.ofList ((line.takeWhile (· != ':')).map Char.toLower)
    if key = name then
      some (Text.trim (String.ofList (((line.dropWhile (· != ':')).drop 1).map Char.toLower)))
    else none

def readHex (s : List Char) : Option Nat :=
  if s.isEmpty then none
  else (s.mapM Json.hexValue).map fun ds => ds.foldl (fun n d => 16 * n + d) 0

/-- The bytes of a body that comes in chunks, at most `fuel` of them, each after its length. -/
def joinChunks : (fuel : Nat) → List UInt8 → Option (List UInt8)
  | 0, _ => none
  | fuel + 1, bytes => do
    let (line, rest) ← takeLine bytes
    let length ← readHex (((lineText line).takeWhile (· != ';')).filter (· != ' '))
    if length = 0 then some []
    else
      let more ← joinChunks fuel (rest.drop (length + 2))
      some (rest.take length ++ more)

def Answer.ofBytes (bytes : List UInt8) : Option Answer := do
  let (lines, rest) ← takeLines bytes.length bytes
  let status ← readStatus (← lines.head?)
  let body ←
    if header? lines "transfer-encoding" = some "chunked" then joinChunks (rest.length + 1) rest
    else some rest
  some ⟨status, (Url.textOfBytes body).getD ""⟩

end DocSearch.Http
