import DocSearch.CommandLine.Help
import DocSearch.CommandLine.Query
import DocSearch.Http.Engine
import DocSearch.Index
import DocSearch.Settings

/-!
The program: its arguments say which settings to take, which index to ask, and what to print.
-/

namespace DocSearch.CommandLine

/-- What the program depends on besides its arguments: variables that name the settings and the
engine. -/
structure Surroundings where
  configPath : Option String := none
  url : Option String := none

/-- What stands under the name of a file. -/
inductive FileContent where
  | absent
  | unreadable
  | text (s : String)

/-- How the program ends: its exit code and what it writes. -/
structure Outcome where
  code : Nat
  output : String := ""
  errors : String := ""
  deriving Repr, DecidableEq

namespace Outcome

def printed (j : Json) : Outcome := { code := 0, output := j.pretty 0 ++ "\n" }

def failed (text : String) : Outcome := { code := 1, errors := "Error: " ++ text ++ "\n" }

end Outcome

/-- What to ask of an index. -/
inductive Command where
  | search
  | count
  | aggregate
  | cursor (size : UInt64) (after : Option String)
  | minMax (field : String) (isDate : Bool)
  | get (id : String)

/-- The arguments of the program once they are read. -/
structure Invocation where
  configPath : String
  url : Option String
  index : String
  command : Command
  query : QueryOptions

/-! ### Arguments -/

def programName : String := "prism-esq"

def versionText : String := programName ++ " 0.6.5\n"

/-- The file with the settings, unless another is named. -/
def usualConfigPath : String := "prism-es.toml"

def pathKind : OptionKind := .single fun s => !s.isEmpty

def commandList : List (String × String) :=
  [("search", "Print every matching document"),
    ("count", "Print the number of matching documents"),
    ("aggregate", "Print group-by buckets and stats"),
    ("cursor", "Print one search-after page"),
    ("min-max", "Print the lowest and highest value of a field"),
    ("get", "Print a single document by id"),
    ("help", "Print this message or the help of the given subcommand(s)")]

def programGrammar (s : Surroundings) : Grammar where
  name := programName
  about := "Prism Elasticsearch query tool"
  commands := commandList
  options :=
    [⟨"config", some 'c', pathKind, "CONFIG",
        "Configuration file path [env: PRISM_ES_CONFIG=" ++ s.configPath.getD "" ++
          "] [default: " ++ usualConfigPath ++ "]"⟩,
      ⟨"url", none, .single fun _ => true, "URL",
        "Elasticsearch URL, overrides the configuration file [env: PRISM_ES_URL=" ++
          s.url.getD "" ++ "]"⟩,
      helpOption,
      ⟨"version", some 'V', .version, "", "Print version"⟩]

def commandPositionals : String → List String
  | "min-max" => ["INDEX", "FIELD"]
  | "get" => ["INDEX", "ID"]
  | "help" => []
  | _ => ["INDEX"]

def commandOptions : String → List Opt
  | "cursor" =>
    ⟨"size", none, .single fun s => (Text.readSize s).isSome, "SIZE", "Page size [default: 100]"⟩ ::
      ⟨"after", none, .single fun _ => true, "AFTER",
        "JSON array of sort values from the previous page\x27s \"next\""⟩ :: queryOptions
  | "min-max" => ⟨"date", none, .switch, "", "Report formatted date values"⟩ :: queryOptions
  | "get" | "help" => []
  | _ => queryOptions

def commandGrammar (name : String) : Grammar where
  name := programName ++ " " ++ name
  about := (List.lookup name commandList).getD ""
  positionals := commandPositionals name
  options := commandOptions name ++ (if name = "help" then [] else [helpOption])

/-- The command that is read, if there is one of that name. -/
def commandOf (name : String) (r : Reading) : Command :=
  match name, r.positionals with
  | "count", _ => .count
  | "aggregate", _ => .aggregate
  | "cursor", _ => .cursor (((r.value? "size").bind Text.readSize).getD 100) (r.value? "after")
  | "min-max", _ :: field :: _ => .minMax field (r.has "date")
  | "get", _ :: id :: _ => .get id
  | _, _ => .search

/-- What is wrong with arguments, in a word. -/
def Halt.text : Halt → String
  | .help | .version => ""
  | .unknownArgument => "unexpected argument found"
  | .missingValue => "a value is required for an option but none was supplied"
  | .unneededValue => "unexpected value for an option found"
  | .repeatedOption => "an option cannot be used multiple times"
  | .invalidValue => "invalid value for an option"
  | .missingArgument => "a required argument was not provided"

/-- How the program ends if it does not get past its arguments. -/
def halted (g : Grammar) : Halt → Outcome
  | .help => { code := 0, output := g.help }
  | .version => { code := 0, output := versionText }
  | h => { code := 2, errors := "error: " ++ h.text ++ "\n\n" ++ g.usage ++ "\n" }

def helpFor (g : Grammar) : List String → Outcome
  | [] => halted g .help
  | [name] =>
    if (List.lookup name commandList).isSome then halted (commandGrammar name) .help
    else halted g .unknownArgument
  | _ => halted g .unknownArgument

def readInvocation (s : Surroundings) (args : List String) : Except Outcome Invocation := do
  let g := programGrammar s
  let (r, rest) ← (Reading.readArguments g false {} args).mapError (halted g)
  match rest with
  | [] =>
    .error (if args.isEmpty then { code := 2, errors := g.help } else halted g .missingArgument)
  | name :: args =>
    if name = "help" then .error (helpFor g args)
    else
      let inner := commandGrammar name
      let given ← (inner.read args).mapError (halted inner)
      let r ← r.settle.mapError (halted g)
      let path := ((r.value? "config").or s.configPath).getD usualConfigPath
      if path.isEmpty then .error (halted g .invalidValue)
      else
        .ok {
          configPath := path
          url := (r.value? "url").or s.url
          index := given.positionals.headD ""
          command := commandOf name given
          query := .ofReading given }

/-! ### Runs -/

def Invocation.settings (i : Invocation) (s : Surroundings) (file : FileContent) :
    Except String Settings :=
  let loaded : Except String Settings :=
    match file with
    | .absent => .ok {}
    | .unreadable => .error ("loading " ++ i.configPath)
    | .text text => (Settings.parse text).mapError fun _ => "loading " ++ i.configPath
  loaded.map fun settings => (settings.overrideUrl s.url).overrideUrl i.url

/-- Reads the place after which a page begins. -/
def readAfter : Option String → Except String (Option (List Json))
  | none => .ok none
  | some text =>
    match Json.parse text with
    | .ok (.array items) => .ok (some (items.map Json.normalize))
    | _ => .error "--after must be a JSON array"

section

variable {σ : Type} (engine : Engine σ) (state : σ)

/-- How a run ends whose plan may have failed before there was one. -/
def conclude {α : Type} (ix : Index) (plan : Except String (Plan α)) (encode : α → Json) :
    σ × Outcome :=
  match plan with
  | .error text => (state, .failed text)
  | .ok plan =>
    match plan.run engine ix.name {} state with
    | (state, .error e) => (state, .failed e.message)
    | (state, .ok a) => (state, .printed (encode a))

def pageJson (page : CursorPage Json) : Json :=
  .object [("items", .array page.items), ("next", .orNull (page.next.map Json.array))]

def Invocation.perform (i : Invocation) (ix : Index) : σ × Outcome :=
  let query := i.query.toBuilder.mapError ClientError.message
  match i.command with
  | .search =>
    conclude engine state ix (query.map fun b => ix.get Decode.any b) fun docs => .array docs
  | .count =>
    conclude engine state ix (query.map fun b => Index.count b) fun n =>
      .object [("count", .ofWord n)]
  | .aggregate =>
    conclude engine state ix (query.map fun b => Index.aggregate b) AggregateOutput.toJson
  | .cursor size after =>
    let plan := do
      let after ← readAfter after
      let b ← query
      return ix.cursor Decode.any b size after
    conclude engine state ix plan pageJson
  | .minMax field isDate =>
    conclude engine state ix (query.map fun b => Index.minMax b field isDate) Bounds.toJson
  | .get id => conclude engine state ix (.ok (Index.find Decode.any id)) fun doc => doc

end

def Invocation.run {σ : Type} (i : Invocation) (s : Surroundings) (file : FileContent)
    (connection : Http.Connection σ) (state : σ) : σ × Outcome :=
  match i.settings s file with
  | .error text => (state, .failed text)
  | .ok settings =>
    match Http.Base.parse settings.connection.url with
    | .error e => (state, .failed e.message)
    | .ok base =>
      i.perform (Http.engine connection base) state
        { name := i.index, config := settings.execution, refresh := settings.connection.refresh }

end DocSearch.CommandLine
