import DocGuard.ScalarType
import DocGuard.Sorting
import DocGuard.Style
import DocGuard.Text.Blank
import DocGuard.Text.Word
/-!
Reading one tag.

A reader is given a text that may begin with a tag and answers with the type token, the name and
what is left of the text. Type tokens and names are tried longest first, and one counts only if
the rest of the tag can be read after it. Names are arbitrary strings, so a name may hold blanks
or the marks that surround it; the longest name that leaves a complete tag wins.

The forms, with blanks wherever two parts meet:

* phpdoc: `@param TYPE NAME`, where a sigil may precede the name;
* sphinx: `:param TYPE NAME:`;
* google: `NAME (TYPE):` or `NAME (TYPE, optional):` at the start of a line.
-/

namespace DocGuard

open Text

/-- The parts of a tag, and the text that follows it. -/
structure Reading where
  /-- The spelling of the declared type. -/
  token : String
  /-- The name of the parameter. -/
  name : String
  /-- What stands after the tag. -/
  rest : List Char
deriving DecidableEq, Repr

/-- Strings without repetition, longer ones first. -/
def longestFirst (strings : List String) : List String :=
  sortBy (fun a b => decide (b.length ≤ a.length)) strings.eraseDups

/-- The spellings of the scalar types, longer ones first. -/
def typeTokens : List String :=
  longestFirst (ScalarType.spellings.map Prod.fst)

namespace Reading

/-- The text after the blanks that it has to begin with. -/
def afterBlanks? : List Char → Option (List Char)
  | [] => none
  | c :: rest => if isBlank c then some (rest.dropWhile isBlank) else none

/-- The text after the character that it has to begin with. -/
def afterMark? (mark : Char) : List Char → Option (List Char)
  | [] => none
  | c :: rest => if c = mark then some rest else none

/-- The text after a sigil, if it begins with one. -/
def dropSigil : List Char → List Char
  | '$' :: rest => rest
  | text => text

/-- The text after the spaces and tabs at its start. -/
def dropPads (text : List Char) : List Char :=
  text.dropWhile isPad

/-- The first of some words with which the text begins and after which `next` can read on. -/
def oneOf (words : List String) (next : String → List Char → Option Reading)
    (text : List Char) : Option Reading :=
  words.findSome? fun word => (word.toList.isPrefixOf? text).bind (next word)

/-- Reads `@param TYPE NAME`. The name begins and ends at a word boundary. -/
def phpdoc? (names : List String) (text : List Char) : Option Reading := do
  let text ← ['@', 'p', 'a', 'r', 'a', 'm'].isPrefixOf? text
  let text ← afterBlanks? text
  oneOf typeTokens (fun token text => do
    let text ← afterBlanks? text
    let text := dropSigil text
    guard (isWordAt text.head?)
    oneOf names (fun name rest => do
      guard (isBoundary name.toList.getLast? rest.head?)
      return ⟨token, name, rest⟩) text) text

/-- Reads `:param TYPE NAME:`. The name begins at a word boundary, and blanks may precede the
closing colon. -/
def sphinx? (names : List String) (text : List Char) : Option Reading := do
  let text ← [':', 'p', 'a', 'r', 'a', 'm'].isPrefixOf? text
  let text ← afterBlanks? text
  oneOf typeTokens (fun token text => do
    let text ← afterBlanks? text
    guard (isWordAt text.head?)
    oneOf names (fun name text => do
      let rest ← afterMark? ':' (text.dropWhile isBlank)
      return ⟨token, name, rest⟩) text) text

/-- The text after the remark that the parameter is optional, if it begins with one. -/
def dropOptional? (text : List Char) : Option (List Char) :=
  match text with
  | ',' :: text => do
    let text ← ['o', 'p', 't', 'i', 'o', 'n', 'a', 'l'].isPrefixOf? (dropPads text)
    return dropPads text
  | text => some text

/-- Reads `NAME (TYPE):` at the start of a line, which may be indented. -/
def google? (names : List String) (text : List Char) : Option Reading := do
  let text := dropPads text
  guard (isWordAt text.head?)
  oneOf names (fun name text => do
    let text ← afterMark? '(' (dropPads text)
    oneOf typeTokens (fun token text => do
      let text ← dropOptional? (dropPads text)
      let text ← afterMark? ')' text
      let rest ← afterMark? ':' (dropPads text)
      return ⟨token, name, rest⟩) (dropPads text)) text

end Reading

/-- A line starts where nothing or a line feed stands before. -/
def atLineStart (before : Option Char) : Bool :=
  before.all (· == '\n')

/-- Reads a tag of this style where `before` is the character in front of the text. -/
def Style.read? (style : Style) (names : List String) (before : Option Char)
    (text : List Char) : Option Reading :=
  match style with
  | phpdoc => Reading.phpdoc? names text
  | sphinx => Reading.sphinx? names text
  | google => if atLineStart before then Reading.google? names text else none

end DocGuard
