import DocGuard.Text.Printable
/-!
Quoted text.

A text is quoted between apostrophes, or between quotation marks if it holds an apostrophe and no
quotation mark. The mark in use and the backslash are escaped, line feed, carriage return and tab
have letters of their own, and any other character that is not printable is written by its number
in the shortest of three fixed widths.
-/

namespace DocGuard.Text

/-- The digits of `n` to base sixteen, filled up with zeros to `width` places. -/
def hexDigits (width n : Nat) : List Char :=
  let digits := Nat.toDigits 16 n
  List.replicate (width - digits.length) '0' ++ digits

/-- A character written by its number, in two, four or eight places. -/
def numbered (c : Char) : List Char :=
  let n := c.toNat
  if n < 0x100 then '\\' :: 'x' :: hexDigits 2 n
  else if n < 0x10000 then '\\' :: 'u' :: hexDigits 4 n
  else '\\' :: 'U' :: hexDigits 8 n

/-- A character as it stands in text quoted by `mark`. -/
def escape (mark c : Char) : List Char :=
  if c = mark ∨ c = '\\' then ['\\', c]
  else if c = '\n' then ['\\', 'n']
  else if c = '\r' then ['\\', 'r']
  else if c = '\t' then ['\\', 't']
  else if isPrintable c then [c]
  else numbered c

/-- The mark that quotes a text: the apostrophe unless only the quotation mark avoids escapes. -/
def quoteMark (text : List Char) : Char :=
  if '\x27' ∈ text ∧ '\x22' ∉ text then '\x22' else '\x27'

/-- A text between quotation marks, read back without doubt. -/
def quoted (text : String) : String :=
  let mark := quoteMark text.toList
  String.ofList (mark :: text.toList.flatMap (escape mark) ++ [mark])

/-- Texts in brackets, each quoted, separated by commas. -/
def quotedList (texts : List String) : String :=
  "[" ++ ", ".intercalate (texts.map quoted) ++ "]"

end DocGuard.Text
