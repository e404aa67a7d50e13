import DocSearch.Failure
import DocSearch.Json.Parser
import DocSearch.Url.Basic

/-!
What can go wrong between a user and an engine that is reached over a network.
-/

namespace DocSearch

/-- Why a message over the network has no answer that can be used. -/
inductive HttpFailure where
  | unsendable (url : Url.Address)
  | unanswered (url : Url.Address)
  | unreadable
  deriving Repr, DecidableEq

def HttpFailure.message : HttpFailure → String
  | .unsendable url => "builder error for url (" ++ url.text ++ ")"
  | .unanswered url => "error sending request for url (" ++ url.text ++ ")"
  | .unreadable => "error decoding response body"

/-- The failure of a client. -/
inductive ClientError where
  | config (text : String)
  | http (e : HttpFailure)
  | status (code : UInt16) (body : String)
  | invalidUrl (e : Url.UrlError)
  | invalidArgument (text : String)
  | json (e : Json.SyntaxError)
  | io (text : String)
  | toml
  deriving Repr, DecidableEq

namespace ClientError

def message : ClientError → String
  | .config text => "Configuration error: " ++ text
  | .http e => "HTTP error: " ++ e.message
  | .status code body => "Engine returned status " ++ toString code.toNat ++ ": " ++ body
  | .invalidUrl e => "Invalid URL: " ++ e.message
  | .invalidArgument text => "Invalid argument: " ++ text
  | .json e => "JSON error: " ++ e.message
  | .io text => "IO error: " ++ text
  | .toml => "TOML error"

def kind : ClientError → String
  | .config _ => "config"
  | .http _ => "http"
  | .status _ _ => "status"
  | .invalidUrl _ => "invalid_url"
  | .invalidArgument _ => "invalid_argument"
  | .json _ => "json"
  | .io _ => "io"
  | .toml => "toml"

/-- What a failure is for the one who called the engine: a status is passed on, an answer that
cannot be read is malformed, and anything else means that there is no answer. -/
def toEngineError : ClientError → EngineError
  | .status code body => .status code body
  | .http .unreadable => .malformed HttpFailure.unreadable.message
  | .json e => .malformed e.message
  | other => .transport other.message

end ClientError

end DocSearch
