import DocSearch.Text.Ranges

/-!
White space, and text without the white space around it.
-/

namespace DocSearch.Text

/-- The characters with the property White_Space. -/
def whiteSpace : Ranges :=
    [(9, 13), (32, 32), (133, 133), (160, 160), (5760, 5760), (8192, 8202), (8232, 8233),
    (8239, 8239), (8287, 8287), (12288, 12288)]

/-- White space of any script. -/
def isBlank (c : Char) : Bool := whiteSpace.contains c

/-- The characters left after the leading blanks. -/
def dropBlanks (s : List Char) : List Char := s.dropWhile isBlank

/-- The characters left after the trailing blanks are removed. -/
def dropBlanksRight (s : List Char) : List Char := (dropBlanks s.reverse).reverse

/-- A text without the blanks at its two ends. -/
def trim (s : String) : String :=
  String.ofList (dropBlanksRight (dropBlanks s.toList))

/-- Whether a text has no character besides blanks. -/
def blank (s : String) : Bool := s.toList.all isBlank

theorem dropBlanks_of_head {c : Char} {s : List Char} (h : isBlank c = false) :
    dropBlanks (c :: s) = c :: s := by
  simp [dropBlanks, h]

end DocSearch.Text
