import DocGuard.Text.Blank
/-!
Indentation and tab stops.

Tab stops stand at every eighth column. `width` is the column that a run of characters reaches
from the start of its line, and `expandTabs` writes the blanks that lead there.
-/

namespace DocGuard.Text

/-- The distance between tab stops. -/
def tabStop : Nat := 8

/-- The column reached from `column` by writing `c`: a tab leads to the next tab stop, and a line
feed or carriage return back to the start. -/
def advance (column : Nat) (c : Char) : Nat :=
  if c = '\t' then (column / tabStop + 1) * tabStop
  else if c = '\n' ∨ c = '\r' then 0
  else column + 1

/-- The column reached from the start of a line. -/
def width (text : List Char) : Nat :=
  text.foldl advance 0

/-- The text with each tab replaced by the blanks up to the next tab stop, begun at `column`. -/
def expandTabs (column : Nat) : List Char → List Char
  | [] => []
  | c :: rest =>
    (if c = '\t' then List.replicate (tabStop - column % tabStop) ' ' else [c])
      ++ expandTabs (advance column c) rest

/-- The column that the spaces and tabs at the start of a line reach. -/
def indentWidth (line : List Char) : Nat :=
  width (line.takeWhile isPad)

/-- A line of white space only, the empty line included. -/
def isBlankLine (line : List Char) : Bool :=
  line.all isBlank

end DocGuard.Text
