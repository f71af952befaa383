import DocGuard.Text.Line
import DocGuard.Text.Indent
/-!
Argument sections of a docstring.

A section has a header, `Args:` or `Arguments:` on a row of its own, and a body: the lines after
it up to the first that is not blank and is indented no deeper than the header. The header's row
is cut at line feeds only, the body's lines at every line break. A header on the last row has no
body and makes no section.
-/

namespace DocGuard

open Text

/-- The body of an argument section: the characters from `start` up to `stop`. -/
structure Section where
  /-- The offset of its first character. -/
  start : Nat
  /-- The offset just past its last character. -/
  stop : Nat
deriving DecidableEq, Repr

namespace Section

/-- The offset lies in the section. -/
def holds (s : Section) (offset : Nat) : Bool :=
  s.start ≤ offset && offset < s.stop

/-- The text after the title of an argument section. -/
def afterTitle? (text : List Char) : Option (List Char) :=
  (['A', 'r', 'g', 'u', 'm', 'e', 'n', 't', 's', ':'].isPrefixOf? text).or
    (['A', 'r', 'g', 's', ':'].isPrefixOf? text)

/-- If the text begins with a header and its line feed: the column at which the title stands, and
the text after the line feed. -/
def header? (text : List Char) : Option (Nat × List Char) := do
  let afterTitle ← afterTitle? (text.dropWhile isPad)
  match afterTitle.dropWhile isPad with
  | '\n' :: body => some (indentWidth text, body)
  | _ => none

/-- The line belongs to the body of a section whose header stands at column `indent`. -/
def inBody (indent : Nat) (line : List Char) : Bool :=
  isBlankLine line || decide (indent < indentWidth line)

/-- The length of the body with which a text begins. -/
def bodyLength (indent : Nat) (text : List Char) : Nat :=
  ((lines text).takeWhile (inBody indent)).flatten.length

/-- The section whose header begins at `offset`, where `text` is what follows. -/
def at? (offset : Nat) (text : List Char) : Option Section :=
  (header? text).map fun (indent, body) =>
    let start := offset + (text.length - body.length)
    ⟨start, start + bodyLength indent body⟩

/-- The sections whose headers begin at `offset` or later; the text begins a row or not. -/
def scan (offset : Nat) (rowStart : Bool) : List Char → List Section
  | [] => []
  | c :: rest =>
    (if rowStart then (at? offset (c :: rest)).toList else [])
      ++ scan (offset + 1) (c == '\n') rest

/-- The argument sections of a docstring, in the order of their headers. -/
def all (text : List Char) : List Section :=
  scan 0 true text

end Section

end DocGuard
