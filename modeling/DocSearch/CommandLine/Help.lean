import DocSearch.CommandLine.Arguments

/-!
The help for a command: what it is for, how it is used, and what it takes, in columns.
-/

namespace DocSearch.CommandLine

/-- An option as it is written, with its letter before it if it has one. -/
def Opt.spelling (o : Opt) : String :=
  (match o.letter with
    | some c => String.ofList ['-', c, ',', ' ']
    | none => "    ") ++
    "--" ++ o.name ++ (if o.valueName.isEmpty then "" else " <" ++ o.valueName ++ ">")

/-- Rows of two columns, the first as wide as its widest text. -/
def columns (rows : List (String × String)) : List String :=
  let width := rows.foldl (fun w row => max w row.1.length) 0
  rows.map fun (left, right) =>
    "  " ++ left ++ String.ofList (List.replicate (width - left.length) ' ') ++ "  " ++ right

/-- Rows under a heading, after an empty line, unless there are none. -/
def helpSection (heading : String) (rows : List (String × String)) : List String :=
  if rows.isEmpty then [] else "" :: heading :: columns rows

namespace Grammar

/-- Whether a command has options besides those that ask for help or the version. -/
def hasOptions (g : Grammar) : Bool :=
  g.options.any fun o =>
    match o.kind with
    | .help | .version => false
    | _ => true

def usage (g : Grammar) : String :=
  "Usage: " ++ g.name ++ (if g.hasOptions then " [OPTIONS]" else "") ++
    String.join (g.positionals.map fun name => " <" ++ name ++ ">") ++
    (if g.commands.isEmpty then "" else " <COMMAND>")

def help (g : Grammar) : String :=
  let lines := [g.about, "", g.usage] ++ helpSection "Commands:" g.commands ++
    helpSection "Arguments:" (g.positionals.map fun name => ("<" ++ name ++ ">", "")) ++
    helpSection "Options:" (g.options.map fun o => (o.spelling, o.about))
  String.join (lines.map (· ++ "\n"))

end Grammar

end DocSearch.CommandLine
