import DocGuard.Tag.Reading
/-!
The tags of a text.

A text is scanned from left to right. At each place the styles are tried in their order; where a
tag is read, the scan goes on after it, so tags never overlap.
-/

namespace DocGuard

/-- A tag in its place: it covers the characters from `start` up to `stop`. -/
structure Tag where
  /-- The style in which it is written. -/
  style : Style
  /-- The spelling of the declared type. -/
  token : String
  /-- The name of the parameter. -/
  name : String
  /-- The offset of its first character. -/
  start : Nat
  /-- The offset just past its last character. -/
  stop : Nat
deriving DecidableEq, Repr

namespace Tag

/-- The tag that begins at offset `start`, where `text` is what follows and `before` the character
in front. -/
def at? (styles : List Style) (names : List String) (before : Option Char) (start : Nat)
    (text : List Char) : Option Tag :=
  styles.findSome? fun style => (style.read? names before text).map fun r =>
    ⟨style, r.token, r.name, start, start + (text.length - r.rest.length)⟩

/-- The tags of a text that begins at `offset`, the first `covered` characters of which belong to
a tag already. -/
def scan (styles : List Style) (names : List String) (before : Option Char) (offset : Nat) :
    (covered : Nat) → List Char → List Tag
  | _, [] => []
  | covered + 1, c :: rest => scan styles names (some c) (offset + 1) covered rest
  | 0, c :: rest =>
    match at? styles names before offset (c :: rest) with
    | some tag => tag :: scan styles names (some c) (offset + 1) (tag.stop - tag.start - 1) rest
    | none => scan styles names (some c) (offset + 1) 0 rest

/-- The tags of a text for parameters of these names, in the order in which they stand. -/
def all (styles : List Style) (names : List String) (text : List Char) : List Tag :=
  scan styles (longestFirst names) none 0 0 text

/-- The tags of a text, in styles given by their names. At least one parameter name is needed. -/
def search (names : List String) (styleNames : List String) (text : String) :
    Except OptionError (List Style × List Tag) := do
  if names.isEmpty then throw .noName
  let styles ← Style.ofNames styleNames
  return (styles, all styles names text.toList)

end Tag

end DocGuard
