import DocGuard.Text.Line
/-!
Finding, cutting and filling text.

A text is cut at the places where another one stands, from either end and at most so many times. A
text is filled up to a width, and a part of it is named by its bounds, which can be counted from the
end.
-/

namespace DocGuard.Text

/-! ### Bounds -/

/-- A bound within `size`; a negative one is counted from the end. -/
def boundWithin (size : Nat) (n : Int) : Nat :=
  (max 0 (min (size : Int) (if n < 0 then n + size else n))).toNat

/-- The part of a text between two bounds, and how much stands before it, if the first bound is not
behind the text or the second bound. -/
def between? (text : List Char) (start : Option Int) (stop : Option Int) :
    Option (Nat × List Char) :=
  let size := text.length
  let first := start.getD 0
  let first := if first < 0 then max 0 (first + size) else first
  let last := (stop.map (boundWithin size)).getD size
  if first ≤ last then some (first.toNat, (text.take last).drop first.toNat) else none

/-! ### Finding -/

/-- How much of the text stands before the first place where `part` does. -/
def place? (part : List Char) : List Char → Option Nat
  | [] => if part.isEmpty then some 0 else none
  | c :: rest =>
    if part.isPrefixOf (c :: rest) then some 0 else (place? part rest).map (· + 1)

/-- How much of the text stands before the last place where `part` does. -/
def lastPlace? (part text : List Char) : Option Nat :=
  (place? part.reverse text.reverse).map fun n => text.length - n - part.length

/-- What stands before and behind the first place where a part that is not empty does. -/
def cutOnce? (part text : List Char) : Option (List Char × List Char) :=
  (place? part text).map fun n => (text.take n, text.drop (n + part.length))

/-- What stands before and behind the last place where a part that is not empty does. -/
def cutLast? (part text : List Char) : Option (List Char × List Char) :=
  (lastPlace? part text).map fun n => (text.take n, text.drop (n + part.length))

/-! ### Cutting -/

/-- The pieces of a text between places where a part that is not empty stands. It is cut at most
`n` times. -/
def cut (part : List Char) : (n : Nat) → List Char → List (List Char)
  | 0, text => [text]
  | n + 1, text =>
    match cutOnce? part text with
    | some (before, behind) => before :: cut part n behind
    | none => [text]

/-- The pieces of a text, cut from its end at most `n` times; the last piece comes first. -/
def cutBackwards (part : List Char) : (n : Nat) → List Char → List (List Char)
  | 0, text => [text]
  | n + 1, text =>
    match cutLast? part text with
    | some (before, behind) => behind :: cutBackwards part n before
    | none => [text]

/-- Pieces put together, with a text between neighbours. -/
def joined (between : List Char) (pieces : List (List Char)) : List Char :=
  (pieces.intersperse between).flatten

/-- The first words of a text, at most `n`, and what stands behind them and the blanks after
them. -/
def cutWords (blank : Char → Bool) : (n : Nat) → List Char → List (List Char)
  | n, text =>
    let rest := text.dropWhile blank
    match n with
    | 0 => if rest.isEmpty then [] else [rest]
    | n + 1 =>
      if rest.isEmpty then []
      else rest.takeWhile (!blank ·) :: cutWords blank n (rest.dropWhile (!blank ·))

/-- The last words of a text, at most `n`, the last one first, and what stands before them and the
blanks in front of them. -/
def cutWordsBackwards (blank : Char → Bool) (n : Nat) (text : List Char) : List (List Char) :=
  (cutWords blank n text.reverse).map List.reverse

/-- The text with one text in place of another; what is not there at all stands before and behind
each character. At most `n` places are changed. -/
def replaced (old new : List Char) (n : Nat) (text : List Char) : List Char :=
  if old.isEmpty then
    if n = 0 then text
    else (text.take (n - 1)).flatMap (fun c => new ++ [c])
      ++ (if text.length < n then new else new ++ text.drop (n - 1))
  else joined new (cut old n text)

/-- At how many places a text stands that do not overlap. -/
def countOf (part text : List Char) : Nat :=
  if part.isEmpty then text.length + 1 else (cut part text.length text).length - 1

/-! ### Ends -/

/-- The text without some characters at its beginning. -/
def withoutStart (drop : Char → Bool) (text : List Char) : List Char :=
  text.dropWhile drop

/-- The text without some characters at its end. -/
def withoutEnd (drop : Char → Bool) (text : List Char) : List Char :=
  (text.reverse.dropWhile drop).reverse

/-! ### Filling -/

/-- The text filled up to a width with a character on its right. -/
def filledRight (width : Nat) (fill : Char) (text : List Char) : List Char :=
  text ++ List.replicate (width - text.length) fill

/-- The text filled up to a width with a character on its left. -/
def filledLeft (width : Nat) (fill : Char) (text : List Char) : List Char :=
  List.replicate (width - text.length) fill ++ text

/-- The text in the middle of a width. If it cannot stand there exactly, it stands on the left of
the middle when the width is even, else on the right. -/
def centered (width : Nat) (fill : Char) (text : List Char) : List Char :=
  let free := width - text.length
  let left := free / 2 + (if free % 2 = 1 ∧ width % 2 = 1 then 1 else 0)
  List.replicate left fill ++ text ++ List.replicate (free - left) fill

/-- The text filled up to a width with zeros behind its sign. -/
def filledWithZeros (width : Nat) (text : List Char) : List Char :=
  let zeros := List.replicate (width - text.length) '0'
  match text with
  | c :: rest => if c = '+' ∨ c = '-' then c :: zeros ++ rest else zeros ++ text
  | [] => zeros

/-- The text with blanks in place of tabs, up to the next of the places that are `width` apart. -/
def tabsFilled (width : Nat) (column : Nat) : List Char → List Char
  | [] => []
  | c :: rest =>
    if c = '\t' then
      let free := if width = 0 then 0 else width - column % width
      List.replicate free ' ' ++ tabsFilled width (column + free) rest
    else if c = '\n' ∨ c = '\r' then c :: tabsFilled width 0 rest
    else c :: tabsFilled width (column + 1) rest

end DocGuard.Text
