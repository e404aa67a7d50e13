import DocSearch.Toml.Value

/-!
Reading a configuration text: lines with a key and its value, and headers that open the tables which
the lines after them fill.
-/

namespace DocSearch.Toml

/-- The rest of a text after the end of a line, before which blanks and a comment may stand. -/
def endLine (s : List Char) : Option (List Char) :=
  match skipComment (skipBlanks s) with
  | [] => some []
  | s => lineFeed s

/-- Opens what the last part of a path names. -/
def openAt (opener : String → Table → Option Table) (path : List String) (t : Table) :
    Option Table :=
  match path.getLast? with
  | none => none
  | some name => within (opener name) path.dropLast t

/-- Reads a header whose opening brackets are behind, and opens what it names. -/
def header (opener : String → Table → Option Table) (close s : List Char) (t : Table) :
    Option (List String × Table × List Char) := do
  let (path, s) ← key s
  let s ← takeWord close s
  let s ← endLine s
  let t ← openAt opener path t
  some (path, t, s)

def entry (path : List String) (s : List Char) (t : Table) : Option (Table × List Char) := do
  let (names, s) ← key s
  let s ← Calendar.takeChar '=' s
  let (v, s) ← value depthLimit (skipBlanks s)
  let s ← endLine s
  let t ← within (assign v true names) path t
  some (t, s)

/-- Reads lines, at most `fuel` of them, where those with keys belong to the table at a path. -/
def lines : (fuel : Nat) → (path : List String) → Table → List Char → Option Table
  | 0, _, _, _ => none
  | fuel + 1, path, t, s =>
    match skipBlanks s with
    | [] => some t
    | '[' :: '[' :: s => do
      let (path, t, s) ← header openNext [']', ']'] s t
      lines fuel path t s
    | '[' :: s => do
      let (path, t, s) ← header openTable [']'] s t
      lines fuel path t s
    | s =>
      if s.head?.any fun c => c == '#' || c == '\n' || c == '\r' then do
        let s ← endLine s
        lines fuel path t s
      else do
        let (t, s) ← entry path s t
        lines fuel path t s

/-- Reads a configuration text as a data value. The mark of its encoding may stand before it. -/
def parse (text : String) : Option Json :=
  let s := match text.toList with
    | c :: s => if c.toNat = 0xFEFF then s else c :: s
    | [] => []
  (lines (s.length + 1) [] [] s).map fun t => .object (members t)

end DocSearch.Toml
