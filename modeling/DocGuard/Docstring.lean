import DocGuard.Text.Line
import DocGuard.Text.Indent
/-!
Docstrings as they are meant.

A docstring is written inside indented source text, so every row after the first carries the
indentation of the source. Cleaning it expands the tabs, strips the first row on the left, takes
from every other row the margin that all rows with content share, and drops the empty rows at both
ends. The first row has no part in the margin.
-/

namespace DocGuard.Docstring

open Text

/-- The length of the white space at the start of a row. -/
def indentLength (row : List Char) : Nat :=
  (row.takeWhile isBlank).length

/-- The least indentation of the rows that have content, if there are any. -/
def margin? (rows : List (List Char)) : Option Nat :=
  ((rows.filter fun row => !isBlankLine row).map indentLength).min?

/-- The rows without the margin they share. -/
def dropMargin (rows : List (List Char)) : List (List Char) :=
  match margin? rows with
  | none => rows
  | some n => rows.map (·.drop n)

/-- The rows without the empty ones at both ends. -/
def trimRows (rows : List (List Char)) : List (List Char) :=
  ((rows.dropWhile (·.isEmpty)).reverse.dropWhile (·.isEmpty)).reverse

/-- The rows of a docstring, cleaned: the first stripped on the left, the margin taken from the
others. -/
def cleanRows : List (List Char) → List (List Char)
  | [] => []
  | first :: later => trimRows (first.dropWhile isBlank :: dropMargin later)

/-- The rows of a docstring as one text, cleaned. -/
def cleanedRows (rows : List (List Char)) : List Char :=
  unrows (cleanRows rows)

/-- A docstring without the indentation of the source it was written in. -/
def clean (text : List Char) : List Char :=
  cleanedRows (rows (expandTabs 0 text))

/-- The cleaned docstring, if the text is more than white space. -/
def ofText? (text : String) : Option String :=
  if isBlankLine text.toList then none else some (String.ofList (clean text.toList))

end DocGuard.Docstring
