import DocSearch.CommandLine.Program
import DocSearch.Http.Wire
import Std.Async.DNS
import Std.Async.TCP
import Std.Async.Timer

/-!
The program in its surroundings: variables, files, the network, and what it writes.
-/

namespace DocSearch

open Std.Async

def readSettings (path : String) : IO CommandLine.FileContent := do
  try
    return .text (← IO.FS.readFile path)
  catch
    | .noFileOrDirectory _ _ _ => return .absent
    | _ => return .unreadable

def socketAddress (port : UInt16) : Std.Net.IPAddr → Std.Net.SocketAddress
  | .v4 addr => .v4 ⟨addr, port⟩
  | .v6 addr => .v6 ⟨addr, port⟩

partial def receive (client : TCP.Socket.Client) (read : ByteArray) : Async ByteArray := do
  match ← client.recv? 65536 with
  | some bytes => receive client (read ++ bytes)
  | none => return read

def exchange (m : Http.Message) (host : String) (port : UInt16) : Async (Option Http.Answer) := do
  let some addr := (← DNS.getAddrInfo host (toString port))[0]? | return none
  let client ← TCP.Socket.Client.mk
  client.connect (socketAddress port addr)
  client.send m.text.toUTF8
  let bytes ← receive client .empty
  return Http.Answer.ofBytes bytes.toList

/-- No answer, after a time in milliseconds. -/
def expire (time : UInt64) : Async (Option Http.Answer) := do
  sleep (.ofNat time.toNat)
  return none

/-- The name under which a host is looked up. -/
def lookupName : Url.Host → String
  | .ipv6 parts => Url.ipv6Text parts
  | host => host.text

/-- Brings the answer to a message, if there is one in time. Only open connections are made. -/
def deliver (m : Http.Message) (time : UInt64) : IO (Option Http.Answer) := do
  let some a := m.url.authority | return none
  if m.url.scheme != "http" then return none
  let port := UInt16.ofNat (a.port.getD 80)
  try
    Async.block (Async.race (exchange m (lookupName a.host) port) (expire time))
  catch _ => return none

/-- Runs the program once its arguments are read. A run that sends a message is done again with the
answer to it. -/
def runInvocation (i : CommandLine.Invocation) (s : CommandLine.Surroundings) :
    IO CommandLine.Outcome := do
  let file ← readSettings i.configPath
  let (sent, outcome) := i.run s file (fun _ m => (some m, none)) none
  match sent, i.settings s file with
  | some m, .ok settings =>
    let answer ← deliver m settings.connection.requestTimeout
    return (i.run s file (fun u _ => (u, answer)) ()).2
  | _, _ => return outcome

def outcome (args : List String) : IO CommandLine.Outcome := do
  let s : CommandLine.Surroundings :=
    { configPath := ← IO.getEnv "PRISM_ES_CONFIG", url := ← IO.getEnv "PRISM_ES_URL" }
  match CommandLine.readInvocation s args with
  | .error outcome => return outcome
  | .ok i => runInvocation i s

end DocSearch

def main (args : List String) : IO UInt32 := do
  let o ← DocSearch.outcome args
  IO.print o.output
  IO.eprint o.errors
  return UInt32.ofNat o.code
