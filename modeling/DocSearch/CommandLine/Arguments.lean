/-!
Options and other arguments of a command. An option begins with two hyphens, or has a letter after
one hyphen; its value comes after an equals sign or as the next argument, which must not look like
an option. An option without its value is noticed when the next option comes, or at the end. After
two hyphens alone no argument is an option.
-/

namespace DocSearch.CommandLine

/-- What an option takes and what it does. -/
inductive OptionKind where
  | help
  | version
  | switch
  | single (accepts : String → Bool)
  | repeated
  | listed

def OptionKind.hasValue : OptionKind → Bool
  | .single _ | .repeated | .listed => true
  | .help | .version | .switch => false

/-- An option, with the name of its value and what it is for. -/
structure Opt where
  name : String
  letter : Option Char := none
  kind : OptionKind
  valueName : String := ""
  about : String := ""

/-- What a command takes: options, other arguments by name, and commands of its own with what they
are for, which it leaves it to them to read on. -/
structure Grammar where
  name : String := ""
  about : String := ""
  options : List Opt
  positionals : List String := []
  commands : List (String × String) := []

/-- Why arguments are not read to their end. -/
inductive Halt where
  | help
  | version
  | unknownArgument
  | missingValue
  | unneededValue
  | repeatedOption
  | invalidValue
  | missingArgument
  deriving Repr, DecidableEq

/-- What is read so far: options with their values, the option that is not yet settled with the
value it has, and other arguments. -/
structure Reading where
  given : List (String × String) := []
  pending : Option (Opt × Option String) := none
  positionals : List String := []

namespace Reading

def has (r : Reading) (name : String) : Bool := r.given.any (·.1 == name)

/-- The values of an option in order. -/
def values (r : Reading) (name : String) : List String :=
  (r.given.filter (·.1 == name)).map Prod.snd

/-- The first value of an option. -/
def value? (r : Reading) (name : String) : Option String := (r.values name).head?

def give (r : Reading) (o : Opt) (values : List String) : Reading :=
  { r with given := r.given ++ values.map (o.name, ·) }

def settleWith (r : Reading) (o : Opt) (value : String) : Except Halt Reading :=
  match o.kind with
  | .single accepts =>
    if r.has o.name then .error .repeatedOption
    else if accepts value then .ok (r.give o [value])
    else .error .invalidValue
  | .listed => .ok (r.give o ((value.toList.splitOn ',').map String.ofList))
  | _ => .ok (r.give o [value])

/-- Settles the option that is not yet settled. -/
def settle (r : Reading) : Except Halt Reading :=
  match r.pending with
  | none => .ok r
  | some (_, none) => .error .missingValue
  | some (o, some value) => { r with pending := none }.settleWith o value

/-- Whether the next argument is the value of an option unless it looks like one itself. -/
def waits (r : Reading) : Bool :=
  match r.pending with
  | some (_, none) => true
  | _ => false

/-- Takes an option with the value that is attached to it, if there is one. -/
def meet (r : Reading) (o : Opt) (attached : Option String) : Except Halt Reading :=
  if o.kind.hasValue then do
    let r ← r.settle
    match attached with
    | some value => r.settleWith o value
    | none => .ok { r with pending := some (o, none) }
  else
    match attached with
    | some _ => .error .unneededValue
    | none => do
      let r ← r.settle
      match o.kind with
      | .help => .error .help
      | .version => .error .version
      | _ => if r.has o.name then .error .repeatedOption else .ok (r.give o [""])

def place (g : Grammar) (r : Reading) (arg : String) : Except Halt Reading :=
  if r.positionals.length < g.positionals.length then do
    let r ← r.settle
    .ok { r with positionals := r.positionals ++ [arg] }
  else .error .unknownArgument

/-- Takes options that are letters after one hyphen. What follows the letter of an option with a
value is its value. -/
def letters (g : Grammar) (r : Reading) : List Char → Except Halt Reading
  | [] => .ok r
  | c :: cs =>
    match g.options.find? (·.letter == some c) with
    | none => .error .unknownArgument
    | some o =>
      if o.kind.hasValue then
        match cs with
        | [] => r.meet o none
        | '=' :: value => r.meet o (some (String.ofList value))
        | value => r.meet o (some (String.ofList value))
      else do
        let r ← r.meet o none
        letters g r cs

def long (g : Grammar) (r : Reading) (s : List Char) : Except Halt Reading :=
  let name := String.ofList (s.takeWhile (· != '='))
  let attached := match s.dropWhile (· != '=') with
    | _ :: value => some (String.ofList value)
    | [] => none
  match g.options.find? (·.name == name) with
  | none => .error .unknownArgument
  | some o => r.meet o attached

def take (g : Grammar) (r : Reading) (arg : String) : Except Halt Reading :=
  match arg.toList with
  | '-' :: '-' :: s => r.long g s
  | '-' :: c :: s => r.letters g (c :: s)
  | _ =>
    match r.pending with
    | some (o, none) => .ok { r with pending := some (o, some arg) }
    | _ => r.place g arg

/-- Reads arguments up to the name of a command. The rest begins with that name. -/
def readArguments (g : Grammar) (plain : Bool) (r : Reading) :
    List String → Except Halt (Reading × List String)
  | [] => .ok (r, [])
  | arg :: args =>
    if plain then do
      let r ← r.place g arg
      readArguments g true r args
    else if !r.waits && (List.lookup arg g.commands).isSome then .ok (r, arg :: args)
    else if arg = "--" then readArguments g true r args
    else do
      let r ← r.take g arg
      readArguments g false r args

end Reading

namespace Grammar

/-- Reads the arguments of a command that has no commands of its own. -/
def read (g : Grammar) (args : List String) : Except Halt Reading := do
  let (r, _) ← Reading.readArguments g false {} args
  let r ← r.settle
  if r.positionals.length < g.positionals.length then .error .missingArgument else .ok r

end Grammar

end DocSearch.CommandLine
