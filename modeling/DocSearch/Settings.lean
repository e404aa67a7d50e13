import DocSearch.ClientFailure
import DocSearch.Config
import DocSearch.Text.Blank
import DocSearch.Toml.Document

/-!
The settings of a client: how the engine is reached, how answers are worked on, and what is logged.
-/

namespace DocSearch

/-- How the engine is reached. The times are in milliseconds. -/
structure ConnectionConfig where
  url : String := "http://localhost:9200"
  connectTimeout : UInt64 := 5000
  requestTimeout : UInt64 := 30000
  refresh : Bool := true
  deriving Repr, DecidableEq

/-- What is logged. -/
structure LoggingConfig where
  level : String := "info"
  json : Bool := false
  deriving Repr, DecidableEq

/-- The settings of a client. -/
structure Settings where
  connection : ConnectionConfig := {}
  execution : ExecutionConfig := {}
  logging : LoggingConfig := {}
  deriving Repr, DecidableEq

/-- A list with no more items than a record has fields. -/
def clip (fields : Nat) : Json → Json
  | .array items => .array (items.take fields)
  | j => j

namespace ConnectionConfig

def toJson (c : ConnectionConfig) : Json :=
  .object [("url", .string c.url), ("connect_timeout_ms", .ofWord c.connectTimeout),
    ("request_timeout_ms", .ofWord c.requestTimeout), ("refresh", .bool c.refresh)]

def decode (j : Json) : Except DecodeError ConnectionConfig := do
  let r ← Decode.record "ConnectionConfig"
    ["url", "connect_timeout_ms", "request_timeout_ms", "refresh"] (clip 4 j)
  let url := r.slot "url" Decode.string
  let connect := r.slot "connect_timeout_ms" Decode.word64
  let request := r.slot "request_timeout_ms" Decode.word64
  let refresh := r.slot "refresh" Decode.bool
  r.check [url.fault, connect.fault, request.fault, refresh.fault]
  let usual : ConnectionConfig := {}
  return ⟨url.getD usual.url, connect.getD usual.connectTimeout,
    request.getD usual.requestTimeout, refresh.getD usual.refresh⟩

end ConnectionConfig

namespace LoggingConfig

def toJson (l : LoggingConfig) : Json :=
  .object [("level", .string l.level), ("json", .bool l.json)]

def decode (j : Json) : Except DecodeError LoggingConfig := do
  let r ← Decode.record "LoggingConfig" ["level", "json"] (clip 2 j)
  let level := r.slot "level" Decode.string
  let json := r.slot "json" Decode.bool
  r.check [level.fault, json.fault]
  let usual : LoggingConfig := {}
  return ⟨level.getD usual.level, json.getD usual.json⟩

end LoggingConfig

namespace Settings

def toJson (s : Settings) : Json :=
  .object [("connection", s.connection.toJson), ("execution", s.execution.toJson),
    ("logging", s.logging.toJson)]

def decode (j : Json) : Except DecodeError Settings := do
  let r ← Decode.record "Config" ["connection", "execution", "logging"] j
  let connection := r.slot "connection" ConnectionConfig.decode
  let execution := r.slot "execution" fun j => ExecutionConfig.decode (clip 2 j)
  let logging := r.slot "logging" LoggingConfig.decode
  r.check [connection.fault, execution.fault, logging.fault]
  return ⟨connection.getD {}, execution.getD {}, logging.getD {}⟩

def parse (text : String) : Except ClientError Settings :=
  match Toml.parse text with
  | none => .error .toml
  | some j => (decode j).mapError fun _ => .toml

/-- The settings with another address of the engine, unless it is blank. -/
def overrideUrl (s : Settings) : Option String → Settings
  | none => s
  | some url =>
    if Text.blank url then s else { s with connection := { s.connection with url := url } }

end Settings

end DocSearch
