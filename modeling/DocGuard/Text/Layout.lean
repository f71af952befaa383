import DocGuard.Number.Decimal
import DocGuard.Text.Search
/-!
How a value is laid out as text.

A layout says how wide a text is to be, where it stands in that width and what fills the rest, and
for numbers also how the sign is shown, to which base or in which notation they are written, and how
their digits are grouped. `Layout.ofText` reads a layout; `Layout.laidText`, `laidInteger`,
`laidDouble` and `laidComplex` apply it. What does not fit is refused, and a message says why.
-/

namespace DocGuard.Text

/-- How a value is laid out. -/
structure Layout where
  /-- What fills the width. -/
  fill : Char
  /-- Where the text stands: at the left, at the right, in the middle, or with the filling behind
  the sign. -/
  align : Option Char
  /-- How a number that is not negative shows its sign. -/
  sign : Option Char
  /-- A zero never shows a negative sign. -/
  plainZero : Bool
  /-- The other of two ways of writing is asked for: with the mark of the base, or with a point. -/
  other : Bool
  width : Nat
  /-- What stands between groups of digits. -/
  grouping : Option Char
  precision : Option Nat
  /-- The letter of a notation. -/
  type : Option Char

namespace Layout

/-! ### Refusing -/

/-- Why a value is not laid out. -/
inductive Refusal where
  /-- The layout does not fit, as the message says. -/
  | unfit (message : String)
  /-- The value is too large for it. -/
  | tooLarge

/-- A number in the digits of the base sixteen. -/
def hexadecimal (n : Nat) : String :=
  "0x" ++ Integer.digits 16 n

/-- A letter as it is shown in a message. -/
def shown (c : Char) : String :=
  if 32 < c.toNat ∧ c.toNat < 128 then c.toString else "\\x" ++ Integer.digits 16 c.toNat

/-- Where a number stands in a layout or a template, it is at most this. -/
def mostSaid : Nat := Nat.pow 2 63 - 1

/-- There are at most so many digits behind the point. -/
def mostPlaces : Nat := Nat.pow 2 31 - 1

/-- The number is more than may be said. -/
def tooManyDigits : String := "Too many decimal digits in format string"

/-- Values of the class `kind` have no notation of this letter. -/
def unknownLetter (kind : String) (c : Char) : Refusal :=
  .unfit ("Unknown format code '" ++ shown c ++ "' for object of type '" ++ kind ++ "'")

/-! ### Reading -/

/-- The character says where the text stands. -/
def aligns (c : Char) : Bool :=
  c == '<' || c == '>' || c == '=' || c == '^'

/-- The number at the beginning of a text, if there is one, and what follows. `isDigit` holds of the
characters that are taken for digits. -/
def takeNumberOf (isDigit : Char → Bool) (text : List Char) : Option Nat × List Char :=
  (decimalOf? (text.takeWhile isDigit), text.dropWhile isDigit)

/-- The number at the beginning of a text in decimal digits of any script, and what follows. -/
def takeNumber (text : List Char) : Option Nat × List Char :=
  takeNumberOf (fun c => (digit? c).isSome) text

/-- Takes a character from the beginning of a text, if it is one of some. -/
def takeOne (chars : List Char) (text : List Char) : Option Char × List Char :=
  match text with
  | c :: rest => if chars.contains c then (some c, rest) else (none, text)
  | [] => (none, [])

/-- Takes a number from the beginning of a text, unless it is too large. -/
def takeSaid (text : List Char) : Except Refusal (Option Nat × List Char) :=
  let (n, rest) := takeNumber text
  if n.any (mostSaid < ·) then throw (.unfit tooManyDigits) else return (n, rest)

/-- Takes what stands between groups of digits from the beginning of a text. -/
def takeGrouping (text : List Char) : Except Refusal (Option Char × List Char) :=
  let (comma, rest) := takeOne [','] text
  let (line, rest) := takeOne ['_'] rest
  if line.isSome && (comma.isSome || rest.head? == some ',') then
    throw (.unfit "Cannot specify both ',' and '_'.")
  else return (comma.or line, rest)

/-- Takes a precision from the beginning of a text. -/
def takePrecision (text : List Char) : Except Refusal (Option Nat × List Char) :=
  match text with
  | '.' :: rest => do
    let (n, rest) ← takeSaid rest
    if n.isNone then throw (.unfit "Format specifier missing precision")
    return (n, rest)
  | text => return (none, text)

/-- Digits may be grouped by the character in a notation. -/
def mayGroup (grouping : Char) (type : Option Char) : Bool :=
  match type with
  | none => true
  | some t => "defgEGF%".toList.contains t || (grouping == '_' && "boxX".toList.contains t)

/-- The layout that a text describes for values of the class `kind`. What is not said is as for a
number if `numeric` holds, and else as for a text. -/
def ofText (numeric : Bool) (kind : String) (text : List Char) : Except Refusal Layout := do
  let (fill, align, rest) := match text with
    | f :: a :: rest =>
      if aligns a then (some f, some a, rest)
      else if aligns f then (none, some f, a :: rest)
      else (none, none, text)
    | [a] => if aligns a then (none, some a, []) else (none, none, text)
    | [] => (none, none, [])
  let (sign, rest) := takeOne [' ', '+', '-'] rest
  let (zero, rest) := takeOne ['z'] rest
  let (other, rest) := takeOne ['#'] rest
  let (padded, rest) := if fill.isSome then (none, rest) else takeOne ['0'] rest
  let align := if padded.isSome && align.isNone && numeric then some '=' else align
  let fill := fill.getD (if padded.isSome then '0' else ' ')
  let (width, rest) ← takeSaid rest
  let (grouping, rest) ← takeGrouping rest
  let (precision, rest) ← takePrecision rest
  if 1 < rest.length then
    throw (.unfit ("Invalid format specifier '" ++ String.ofList text ++ "' for object of type '"
      ++ kind ++ "'"))
  let type := rest.head?
  let way := if numeric then type else type.or (some 's')
  match grouping, way with
  | some c, some t =>
    if !mayGroup c t then
      throw (.unfit ("Cannot specify '" ++ c.toString ++ "' with '" ++ shown t ++ "'."))
  | _, _ => pure ()
  return ⟨fill, align, sign, zero.isSome, other.isSome, width.getD 0, grouping, precision, type⟩

/-! ### Standing in a width -/

/-- The text in the width of the layout; `align` is where it stands if nothing is said of it. -/
def placed (layout : Layout) (align : Char) (text : List Char) : List Char :=
  let free := layout.width - text.length
  let left := match layout.align.getD align with
    | '<' => 0
    | '^' => free / 2
    | _ => free
  List.replicate left layout.fill ++ text ++ List.replicate (free - left) layout.fill

/-- Digits in groups, read backwards, with zeros in front of them up to a width. -/
def groupedBack (size : Nat) (mark : List Char) :
    (n : Nat) → (width : Nat) → (digits : List Char) → List Char
  | 0, _, digits => digits
  | n + 1, width, digits =>
    let length := min size (max (max digits.length width) 1)
    let here := digits.take length ++ List.replicate (length - digits.length) '0'
    let rest := digits.drop length
    if rest.isEmpty && width ≤ length then here
    else here ++ mark ++ groupedBack size mark n (width - length - mark.length) rest

/-- Digits in groups, with zeros in front of them up to a width. -/
def grouped (size : Nat) (mark : Option Char) (width : Nat) (digits : List Char) : List Char :=
  match mark, digits with
  | _, [] => []
  | none, digits => filledLeft width '0' digits
  | some c, digits =>
    (groupedBack size [c] (digits.length + width + 1) width digits.reverse).reverse

/-- A number in the width of the layout: its sign and mark, the digits before the point, which can
be grouped, and the rest. -/
def numberPlaced (layout : Layout) (negative : Bool) (mark digits rest : List Char) : List Char :=
  let sign := if negative then ['-'] else match layout.sign with
    | some '+' => ['+']
    | some ' ' => [' ']
    | _ => []
  let size := match layout.grouping, layout.type with
    | some '_', some t => if "boxX".toList.contains t then 4 else 3
    | _, _ => 3
  let front := sign ++ mark
  let zeros := if layout.fill == '0' && layout.align == some '=' then
      layout.width - (front.length + rest.length) else 0
  let body := grouped size layout.grouping zeros digits ++ rest
  match layout.align with
  | some '=' =>
    front ++ List.replicate (layout.width - (front.length + body.length)) layout.fill ++ body
  | _ => layout.placed '>' (front ++ body)

/-! ### Texts -/

/-- A text laid out. Only its width and the number of its characters can be asked for. -/
def laidText (layout : Layout) (kind : String) (text : List Char) : Except Refusal (List Char) := do
  let refused (what : String) : Refusal := .unfit (what ++ " not allowed in string format specifier")
  match layout.type with
  | none | some 's' => pure ()
  | some c => throw (unknownLetter kind c)
  match layout.sign with
  | none => pure ()
  | some ' ' => throw (refused "Space")
  | some _ => throw (refused "Sign")
  if layout.plainZero then throw (refused "Negative zero coercion (z)")
  if layout.other then throw (refused "Alternate form (#)")
  if layout.align == some '=' then throw (refused "'=' alignment")
  let text := match layout.precision with
    | some n => text.take n
    | none => text
  return layout.placed '<' text

/-! ### Floating point numbers -/

/-- The notations for floating point numbers. -/
def pointNotations : List Char :=
  ['e', 'E', 'f', 'F', 'g', 'G', 'n', '%']

/-- The text of a number with a point before its exponent, if it has none. -/
def withPoint (text : String) : String :=
  let chars := text.toList
  if chars.contains '.' then text
  else String.ofList (chars.takeWhile (· != 'e') ++ '.' :: chars.dropWhile (· != 'e'))

/-- The size of a floating point number in a notation; without one, as short as it can be. -/
def sizeText (layout : Layout) (d : Double) : String :=
  match d with
  | .nan => "nan"
  | .infinite _ => "inf"
  | d =>
    let n := layout.precision.getD 6
    match layout.type with
    | some 'e' | some 'E' => d.scientificText n layout.other
    | some 'f' | some 'F' => d.fixedText n layout.other
    | some '%' => (d.multiply (.ofInt 100)).fixedText n layout.other
    | some _ => d.generalText n layout.other false
    | none =>
      match layout.precision with
      | some n => d.generalText n layout.other true
      | none => if layout.other then withPoint d.magnitude.text else d.magnitude.text

/-- The letter of the notation is one of some, if there is any. -/
def requireNotation (layout : Layout) (kind : String) (letters : List Char) :
    Except Refusal Unit :=
  match layout.type with
  | none => return ()
  | some c => if letters.contains c then return () else throw (unknownLetter kind c)

/-- There are not too many digits behind the point. -/
def requirePlaces (layout : Layout) : Except Refusal Unit :=
  if layout.precision.any (mostPlaces < ·) then throw (.unfit "precision too big") else return ()

/-- A floating point number laid out. -/
def laidDouble (layout : Layout) (kind : String) (d : Double) : Except Refusal (List Char) := do
  layout.requireNotation kind pointNotations
  layout.requirePlaces
  let upper := layout.type.any fun t => t == 'E' || t == 'F' || t == 'G'
  let size := layout.sizeText d
  let size := (if upper then size.toUpper else size).toList
  let whole := size.takeWhile Char.isDigit
  let rest := size.dropWhile Char.isDigit ++ (if layout.type == some '%' then ['%'] else [])
  let negative := d.isNegative
    && !(layout.plainZero && d.isFinite && size.all fun c => c == '0' || !c.isDigit)
  return layout.numberPlaced negative [] whole rest

/-! ### Complex numbers -/

/-- The size of a part of a complex number in a notation; without one, as short as it can be. -/
def partText (layout : Layout) (d : Double) : List Char :=
  let short := layout.type.isNone && layout.precision.isNone
  let chars := (({ layout with type := some (layout.type.getD 'g') } : Layout).sizeText d).toList
  let shortest := d.magnitude.text.toList
  let whole :=
    if shortest.reverse.take 2 == ['0', '.'] then shortest.dropLast.dropLast else shortest
  if !short || !d.isFinite then chars
  else if layout.other then (withPoint (String.ofList whole)).toList
  else whole

/-- A part of a complex number with its sign, which is shown in the way that `sign` says. -/
def signedPart (layout : Layout) (sign : Option Char) (d : Double) : List Char :=
  let text := layout.partText d
  let text := if layout.type.any Char.isUpper then (String.ofList text).toUpper.toList else text
  let zero := text.all fun c => c == '0' || !c.isDigit
  let negative := d.isNegative && !(layout.plainZero && d.isFinite && zero)
  let free : Layout := { layout with fill := ' ', align := some '<', width := 0, sign := sign }
  free.numberPlaced negative [] (text.takeWhile Char.isDigit) (text.dropWhile Char.isDigit)

/-- A complex number laid out. If no notation is asked for it stands in brackets, or its first part
is left out if that is zero. -/
def laidComplex (layout : Layout) (kind : String) (re im : Double) :
    Except Refusal (List Char) := do
  layout.requireNotation kind (pointNotations.erase '%')
  layout.requirePlaces
  if layout.fill == '0' then
    throw (.unfit "Zero padding is not allowed in complex format specifier")
  if layout.align == some '=' then
    throw (.unfit "'=' alignment flag is not allowed in complex format specifier")
  let alone := layout.type.isNone && re.text == "0.0"
  let body := if alone then layout.signedPart layout.sign im
    else layout.signedPart layout.sign re ++ layout.signedPart (some '+') im
  let body := body ++ ['j']
  return layout.placed '>' (if layout.type.isNone && !alone then '(' :: body ++ [')'] else body)

/-! ### Integers -/

/-- The base of a notation for integers, with the mark of it. -/
def base? : Option Char → Option (Nat × String)
  | none | some 'd' | some 'n' => some (10, "")
  | some 'b' => some (2, "0b")
  | some 'o' => some (8, "0o")
  | some 'x' | some 'X' => some (16, "0x")
  | _ => none

/-- The character with a number laid out. -/
def laidCharacter (layout : Layout) (n : Int) : Except Refusal (List Char) := do
  let refused (what : String) : Refusal :=
    .unfit (what ++ " not allowed with integer format specifier 'c'")
  if layout.sign.isSome then throw (refused "Sign")
  if layout.other then throw (refused "Alternate form (#)")
  if n < 0 ∨ 0x110000 ≤ n then throw .tooLarge
  return layout.placed '>' [Char.ofNat n.toNat]

/-- An integer laid out: to a base, as the character with its number, or as a floating point
number. -/
def laidInteger (layout : Layout) (kind : String) (n : Int) : Except Refusal (List Char) := do
  let refused (what : String) : Refusal :=
    .unfit (what ++ " not allowed in integer format specifier")
  let base := base? layout.type
  if base.isSome || layout.type == some 'c' then
    if layout.precision.isSome then throw (refused "Precision")
    if layout.plainZero then throw (refused "Negative zero coercion (z)")
  match base with
  | some (base, mark) =>
    let upper (text : String) : List Char :=
      (if layout.type == some 'X' then text.toUpper else text).toList
    return layout.numberPlaced (n < 0) (upper (if layout.other then mark else ""))
      (upper (Integer.digits base n.natAbs)) []
  | none =>
    if layout.type == some 'c' then layout.laidCharacter n
    else
      layout.requireNotation kind pointNotations
      let d := Double.ofInt n
      if !d.isFinite then throw .tooLarge
      layout.laidDouble kind d

end Layout

end DocGuard.Text
