import DocGuard.Text.Layout
/-!
Templates: texts with places that values are put into.

A place in the one kind of template stands between curly brackets: which value is meant, by number
or by name and through its members and items, how it is turned into text first, and its layout. In
the other kind a place begins with a percent sign and ends with the letter of a notation. A template
is read up to where it cannot be read any more: what stands before is filled first.
-/

namespace DocGuard.Text

/-! ### Places between brackets -/

/-- A step from a value to a part of it. -/
inductive PartStep where
  | member (name : String)
  /-- The item at a place. -/
  | item (n : Nat)
  /-- The item under a name. -/
  | key (name : String)
  /-- What follows is no step, as the message says. -/
  | broken (message : String)
deriving DecidableEq, Repr

/-- A place in a template. -/
structure Slot where
  /-- Which value is meant: by number, by name, or, if this is empty, the next one. -/
  source : List Char
  steps : List PartStep
  /-- The letter of the way in which the value is turned into text first. -/
  conversion : Option Char
  /-- The layout; it can be a template itself. -/
  layout : List Char

/-- A piece of a template. -/
inductive Piece where
  | text (chars : List Char)
  | slot (slot : Slot)
  /-- What follows is no template, as the message says. -/
  | broken (message : String)

namespace Template

/-- A part must have a name. -/
def noName : PartStep :=
  .broken "Empty attribute in format string"

/-- The step between brackets. -/
def itemStep (inside : List Char) : PartStep :=
  match decimalOf? inside with
  | some n => if Layout.mostSaid < n then .broken Layout.tooManyDigits else .item n
  | none => if inside.isEmpty then noName else .key (String.ofList inside)

/-- At most `n` steps from a value to a part of it. -/
def steps : (n : Nat) → List Char → List PartStep
  | 0, _ | _, [] => []
  | n + 1, c :: rest =>
    let isEnd (c : Char) : Bool := c == '.' || c == '['
    if c = '.' then
      let name := rest.takeWhile (!isEnd ·)
      if name.isEmpty then [noName]
      else .member (String.ofList name) :: steps n (rest.dropWhile (!isEnd ·))
    else if c = '[' then
      let inside := rest.takeWhile (· != ']')
      match rest.dropWhile (· != ']') with
      | [] => [.broken "Missing ']' in format string"]
      | _ :: more => itemStep inside :: steps n more
    else [.broken "Only '.' or '[' may follow ']' in format field specifier"]

/-- The name of a place: what stands before the bracket that ends it or before a layout, and what
follows, beginning with the character that ended it. -/
def takeName : (inItem : Bool) → List Char → List Char × List Char
  | _, [] => ([], [])
  | true, c :: rest =>
    let (name, more) := takeName (c != ']') rest
    (c :: name, more)
  | false, c :: rest =>
    if c = '\x7b' ∨ c = '\x7d' ∨ c = ':' ∨ c = '!' then ([], c :: rest)
    else
      let (name, more) := takeName (c == '[') rest
      (c :: name, more)

/-- A layout up to the bracket that ends the place, with `depth` brackets open, and what follows. -/
def takeLayout (depth : Nat) : List Char → Except String (List Char × List Char)
  | [] => throw "unmatched '\x7b' in format spec"
  | c :: rest =>
    if c = '\x7d' ∧ depth = 0 then return ([], rest)
    else
      let depth := if c = '\x7b' then depth + 1 else if c = '\x7d' then depth - 1 else depth
      (takeLayout depth rest).map fun (layout, more) => (c :: layout, more)

/-- The letter behind an exclamation mark, a layout, and what follows. -/
def takeConversion : List Char → Except String (Char × List Char × List Char)
  | [] => throw "end of string while looking for conversion specifier"
  | c :: '\x7d' :: more => return (c, [], more)
  | c :: rest => do
    if rest.head?.any (· != ':') then throw "expected ':' after conversion specifier"
    let (layout, more) ← takeLayout 0 rest.tail
    return (c, layout, more)

/-- The place that begins a text, behind its opening bracket, and what follows. -/
def takeSlot (text : List Char) : Except String (Slot × List Char) := do
  let (name, rest) := takeName false text
  let isEnd (c : Char) : Bool := c == '.' || c == '['
  let source := name.takeWhile (!isEnd ·)
  let steps := steps (name.length + 1) (name.dropWhile (!isEnd ·))
  match rest with
  | '\x7d' :: more => return (⟨source, steps, none, []⟩, more)
  | ':' :: more =>
    let (layout, more) ← takeLayout 0 more
    return (⟨source, steps, none, layout⟩, more)
  | '!' :: more =>
    let (c, layout, more) ← takeConversion more
    return (⟨source, steps, some c, layout⟩, more)
  | [] => throw "expected '\x7d' before end of string"
  | _ => throw "unexpected '\x7b' in field name"

/-- A text of which the first piece gets another character in front. -/
def prepend (c : Char) : List Piece → List Piece
  | .text chars :: rest => .text (c :: chars) :: rest
  | pieces => .text [c] :: pieces

/-- At most `n` pieces and characters of a template. A bracket that is written twice stands for
itself. -/
def piecesIn : (n : Nat) → List Char → List Piece
  | 0, _ | _, [] => []
  | n + 1, '\x7b' :: '\x7b' :: rest => prepend '\x7b' (piecesIn n rest)
  | n + 1, '\x7d' :: '\x7d' :: rest => prepend '\x7d' (piecesIn n rest)
  | _ + 1, ['\x7b'] => [.broken "Single '\x7b' encountered in format string"]
  | n + 1, '\x7b' :: rest =>
    match takeSlot rest with
    | .ok (slot, more) => .slot slot :: piecesIn n more
    | .error message => [.broken message]
  | _ + 1, '\x7d' :: _ => [.broken "Single '\x7d' encountered in format string"]
  | n + 1, c :: rest => prepend c (piecesIn n rest)

/-- The pieces of a template with places between brackets. -/
def pieces (text : List Char) : List Piece :=
  piecesIn text.length text

end Template

/-! ### Places behind a percent sign -/

/-- A number that stands in a template, or is taken from the values. -/
inductive Given where
  | nothing
  | number (n : Nat)
  | next
deriving DecidableEq, Repr

/-- A place behind a percent sign. -/
structure Mark where
  /-- The name of the value meant, if it is meant by name. -/
  key : Option (List Char)
  /-- Signs that change how the value is written. -/
  flags : List Char
  width : Given
  precision : Given
  /-- The letter of the notation; missing if the template ends before it. -/
  letter : Option Char
  /-- Where the letter stands in the template. -/
  place : Nat

/-- A piece of a template with percent signs. -/
inductive MarkedPiece where
  | text (chars : List Char)
  | mark (mark : Mark)
  /-- A name that does not end. -/
  | openKey

namespace Mark

/-- The name between parentheses, of which `depth` are open, and what follows. -/
def takeKey? (depth : Nat) : List Char → Option (List Char × List Char)
  | [] => none
  | c :: rest =>
    if c = ')' ∧ depth = 0 then some ([], rest)
    else
      let depth := if c = '(' then depth + 1 else if c = ')' then depth - 1 else depth
      (takeKey? depth rest).map fun (key, more) => (c :: key, more)

/-- The number at the beginning of a text, or the sign that it is taken from the values. -/
def takeGiven (text : List Char) : Given × List Char :=
  match text, Layout.takeNumberOf Char.isDigit text with
  | '*' :: rest, _ => (.next, rest)
  | _, (some n, rest) => (.number n, rest)
  | _, (none, rest) => (.nothing, rest)

/-- The place that begins a text, behind its percent sign, and what follows. There is none if its
name does not end. The template has `size` characters. -/
def take? (size : Nat) (text : List Char) : Option (Mark × List Char) := do
  let (key, rest) ← match text with
    | '(' :: rest => (takeKey? 0 rest).map fun (key, more) => (some key, more)
    | _ => some (none, text)
  let isFlag (c : Char) : Bool := "-+ #0".toList.contains c
  let flags := rest.takeWhile isFlag
  let (width, rest) := takeGiven (rest.dropWhile isFlag)
  let (precision, rest) := match rest with
    | '.' :: rest =>
      match takeGiven rest with
      | (.nothing, rest) => (Given.number 0, rest)
      | given => given
    | rest => (.nothing, rest)
  let rest := (Layout.takeOne ['h', 'l', 'L'] rest).2
  return (⟨key, flags, width, precision, rest.head?, size - rest.length⟩, rest.tail)

/-- At most `n` pieces of a template with percent signs, which has `size` characters. A sign that is
written twice stands for itself. -/
def piecesIn (size : Nat) : (n : Nat) → List Char → List MarkedPiece
  | 0, _ | _, [] => []
  | n + 1, '%' :: '%' :: rest => .text ['%'] :: piecesIn size n rest
  | n + 1, '%' :: rest =>
    match take? size rest with
    | some (mark, more) => .mark mark :: piecesIn size n more
    | none => [.openKey]
  | n + 1, text =>
    let (before, more) := (text.takeWhile (· != '%'), text.dropWhile (· != '%'))
    .text before :: piecesIn size n more

/-- The pieces of a template with percent signs. -/
def pieces (text : List Char) : List MarkedPiece :=
  piecesIn text.length text.length text

/-- The sign changes how the value is written. -/
def has (mark : Mark) (flag : Char) : Bool :=
  mark.flags.contains flag

/-- The text of a value in a width: at the left if a sign says so, else at the right; a number can
be filled with zeros behind its sign. -/
def placed (mark : Mark) (width : Nat) (numeric negative : Bool) (front body : List Char) :
    List Char :=
  let sign := if !numeric then []
    else if negative then ['-']
    else if mark.has '+' then ['+']
    else if mark.has ' ' then [' ']
    else []
  let front := sign ++ front
  let free := width - (front.length + body.length)
  if mark.has '-' then front ++ body ++ List.replicate free ' '
  else if numeric && mark.has '0' then front ++ List.replicate free '0' ++ body
  else List.replicate free ' ' ++ front ++ body

end Mark

end DocGuard.Text
