import DocSearch.ClientFailure
import DocSearch.Engine
import DocSearch.Url.Parser

/-!
Calls of the engine as messages: each call has a method, an address below that of the engine, and a
body, which for writes sent together has a line for every action and every document.
-/

namespace DocSearch.Http

/-- The address of an engine. Names can be added to its path. -/
structure Base where
  address : Url.Address
  hierarchical : address.isOpaque = false

namespace Base

/-- Reads the address of an engine, which may end in slashes. -/
def parse (url : String) : Except ClientError Base :=
  let trimmed := String.ofList (url.toList.reverse.dropWhile (· == '/')).reverse
  match Url.parse trimmed with
  | .error e => .error (.invalidUrl e)
  | .ok address =>
    if h : address.isOpaque = false then .ok ⟨address, h⟩
    else .error (.config ("'" ++ url ++ "' cannot be used as a base URL"))

def endpoint (base : Base) (names : List String) : Url.Address := base.address.append names

end Base

/-- What a message is sent for. -/
inductive Method where
  | get | post
  deriving Repr, DecidableEq

def Method.name : Method → String
  | .get => "GET"
  | .post => "POST"

/-- A body and the kind of its content. -/
structure Body where
  contentType : String
  text : String
  deriving Repr, DecidableEq

/-- A message to the engine. The login is a name and a password with a colon between them. -/
structure Message where
  method : Method
  url : Url.Address
  body : Option Body := none
  login : Option String := none
  deriving Repr, DecidableEq

/-- What comes back for a message. -/
structure Answer where
  status : UInt16
  body : String
  deriving Repr, DecidableEq

def actionLine (a : BulkAction) : String :=
  (Json.object [(a.name, .object [("_id", .string a.id)])]).compact ++ "\n"

/-- The line with the document of an action, if it has one. -/
def documentLine : BulkAction → String
  | .create _ doc => doc.compact ++ "\n"
  | .update _ doc => (Json.object [("doc", doc)]).compact ++ "\n"
  | .delete _ => ""

def bulkBody (actions : List BulkAction) : String :=
  String.join (actions.map fun a => actionLine a ++ documentLine a)

def flag (b : Bool) : String := if b then "true" else "false"

def jsonBody (j : Json) : Body := ⟨"application/json", j.compact⟩

/-- The message for a write by query, which goes on over conflicts. -/
def byQuery (base : Base) (index action : String) (request : WriteByQueryRequest)
    (refresh : Bool) : Message :=
  let url := (base.endpoint [index, action]).addParameter "conflicts" "proceed"
  ⟨.post, url.addParameter "refresh" (flag refresh), some (jsonBody request.toJson), none⟩

def message (base : Base) (index : String) : Request → Message
  | .search request =>
    ⟨.post, base.endpoint [index, "_search"], some (jsonBody request.toJson), none⟩
  | .count query =>
    let body := Json.object [("query", query.toJson)]
    ⟨.post, base.endpoint [index, "_count"], some (jsonBody body), none⟩
  | .get id => ⟨.get, base.endpoint [index, "_doc", id], none, none⟩
  | .bulk actions refresh =>
    ⟨.post, (base.endpoint [index, "_bulk"]).addParameter "refresh" (flag refresh),
      some ⟨"application/x-ndjson", bulkBody actions⟩, none⟩
  | .updateByQuery request refresh => byQuery base index "_update_by_query" request refresh
  | .deleteByQuery request refresh => byQuery base index "_delete_by_query" request refresh

end DocSearch.Http
