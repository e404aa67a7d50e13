import DocSearch.Http.Message

/-!
An engine that is reached over a network. Every answer of success must be one for the call; every
other answer is a failure with its status and its body, except that a document that is not there is
told by an answer to the call.
-/

namespace DocSearch.Http

/-- A network with a state: it takes a message and brings an answer or none. -/
abbrev Connection (σ : Type) := σ → Message → σ × Option Answer

def isWeb (scheme : String) : Bool := scheme == "http" || scheme == "https"

def sendableHost (c : Char) : Bool := !(['"', '\x60', '\x7b', '\x7d'].contains c)

/-- The greatest length of the address of a message, in bytes. -/
def addressLimit : Nat := 65534

def sendable (url : Url.Address) : Bool :=
  isWeb url.scheme && url.authority.any (fun a => a.host.text.toList.all sendableHost) &&
    decide (url.text.utf8ByteSize ≤ addressLimit)

/-- The text that an escaped text stands for, if it does. -/
def plainText (text : String) : Option String := Url.textOfBytes (Url.unescape text.toList)

/-- The login that an address holds: there must be a name or a password, and the name must stand
for text. A password that does not is left out. -/
def loginOf (a : Url.Authority) : Option String :=
  match plainText a.user with
  | none => none
  | some user =>
    let password := if a.password.isEmpty then none else plainText a.password
    if user.isEmpty && password.isNone then none else some (user ++ ":" ++ password.getD "")

def Message.addressed (m : Message) : Message :=
  match m.url.authority.bind loginOf with
  | none => m
  | some login => { m with url := m.url.withoutUser, login := some login }

def send {σ : Type} (connection : Connection σ) (state : σ) (m : Message) :
    σ × Except ClientError Answer :=
  let m := m.addressed
  if sendable m.url then
    match connection state m with
    | (state, some answer) => (state, .ok answer)
    | (state, none) => (state, .error (.http (.unanswered m.url)))
  else (state, .error (.http (.unsendable m.url)))

/-- Reads a typed value from a data value as it is written. Repeated members matter where they are
fields of a record, and only there. -/
def readValue {α : Type} (decode : Json → Except DecodeError α) (j : Json) : Option α :=
  match decode j with
  | .error _ => none
  | .ok _ => (decode j.normalize).toOption

/-- Reads a typed value from a text. Members that no field asks for are passed over. -/
def readBody {α : Type} (asked : Json.Asked) (decode : Json → Except DecodeError α)
    (body : String) : Option α :=
  (Json.parseAsked asked body).bind (readValue decode)

def askedOf : Request → Json.Asked
  | .search _ => SearchResponse.asked
  | .count _ => countAsked
  | .get _ => GetResponse.asked
  | .bulk _ _ => WriteResponse.asked
  | .updateByQuery _ _ => WriteByQueryResponse.asked
  | .deleteByQuery _ _ => WriteByQueryResponse.asked

def decodeAnswer : (r : Request) → Json → Except DecodeError r.Reply
  | .count _ => decodeCount
  | r => r.decodeReply

def readReply (r : Request) : String → Option r.Reply := readBody (askedOf r) (decodeAnswer r)

/-- Whether an answer of a status may tell that a document is not there. -/
def tellsAbsence (r : Request) (status : UInt16) : Bool :=
  match r with
  | .get _ => status == 404
  | _ => false

def readAnswer (r : Request) (answer : Answer) : Except ClientError r.Reply :=
  match readReply r answer.body with
  | some reply =>
    if succeeded answer.status || tellsAbsence r answer.status then .ok reply
    else .error (.status answer.status answer.body)
  | none =>
    if succeeded answer.status then .error (.http .unreadable)
    else .error (.status answer.status answer.body)

def engine {σ : Type} (connection : Connection σ) (base : Base) : Engine σ :=
  fun state index r =>
    match send connection state (message base index r) with
    | (state, .error e) => (state, .error e.toEngineError)
    | (state, .ok answer) => (state, (readAnswer r answer).mapError ClientError.toEngineError)

end DocSearch.Http
