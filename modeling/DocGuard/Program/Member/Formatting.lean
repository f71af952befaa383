import DocGuard.Program.Argument
import DocGuard.Text.Encoding
import DocGuard.Text.Template
/-!
Putting values into templates.

A template names the values that it takes, and how each of them is written. `filledByPercent` puts
values into a template with percent signs, and `filledByBrackets` into one with brackets.
-/

namespace DocGuard

/-! ### Percent signs -/

/-- The values that a template with percent signs takes. -/
structure PercentSource where
  /-- The values that are taken one after the other. -/
  values : List Value
  /-- What values with a name are taken from. -/
  mapping : Option Value
  /-- The values were given one after the other. -/
  counted : Bool

/-- The next value, and the source without it. -/
def PercentSource.next (source : PercentSource) : Run (Value × PercentSource) :=
  match source.values with
  | v :: rest => return (v, { source with values := rest })
  | [] => throw .badCall

/-- A number of a place that is given in the template, at most `most`, or taken from the values. The
message is for a number that is larger. -/
def PercentSource.given (source : PercentSource) (most : Nat) (tooLarge : String) (g : Text.Given) :
    Run (Option Int × PercentSource) := do
  match g with
  | .nothing => return (none, source)
  | .number n => if most < n then throw (.badValue tooLarge) else return (some n, source)
  | .next =>
    let (v, source) ← source.next
    let s ← Run.store
    match s.isOf "int" v, (s.content v).integer? with
    | true, some n => return (some n, source)
    | _, _ => throw .badCall

/-- The value is a number, or its class says which number it stands for. -/
def Store.isNumeric (s : Store) (v : Value) : Bool :=
  ["__index__", "__int__", "__float__"].any (fun name => (s.special? v name).isSome)
    || s.isOf "complex" v

/-- The digits of an integer in the notation of a letter, with what stands in front of them. -/
def integerDigits (letter : Char) (other : Bool) (n : Int) : List Char × List Char :=
  let base := match letter with
    | 'o' => 8
    | 'x' | 'X' => 16
    | _ => 10
  let digits := (Integer.digits base n.natAbs).toList
  let front := match other, letter with
    | true, 'o' => "0o"
    | true, 'x' => "0x"
    | true, 'X' => "0X"
    | _, _ => ""
  (front.toList, if letter == 'X' then digits.map Char.toUpper else digits)

/-- A floating point number in the notation of a letter, without its sign. -/
def doubleDigits (letter : Char) (other : Bool) (places : Nat) (d : Double) : List Char :=
  let size := d.magnitude
  let text := match size, letter.toLower with
    | .nan, _ => "nan"
    | .infinite _, _ => "inf"
    | _, 'e' => size.scientificText places other
    | _, 'f' => size.fixedText places other
    | _, _ => size.generalText (max places 1) other false
  if letter.isUpper then text.toList.map Char.toUpper else text.toList

/-- No notation has the letter that stands at `place`. -/
def unknownNotation (bytes : Bool) (letter : Char) (place : Nat) : Fault :=
  let n := letter.toNat
  let isPlain := if bytes then n < 128 else 31 ≤ n ∧ n ≤ 126
  if bytes && !isPlain then .tooLarge
  else .badValue ("unsupported format character '" ++ (if isPlain then letter else '?').toString
    ++ "' (" ++ Text.Layout.hexadecimal n ++ ") at index " ++ toString place)

/-- The text for a place with a percent sign and a letter that takes a value. With `bytes`, codes
are written. -/
def percentText (call : Call) (bytes : Bool) (mark : Text.Mark) (letter : Char) (width : Nat)
    (precision : Option Nat) (v : Value) : Run (List Char) := do
  let cut (text : List Char) : List Char := match precision with
    | some n => text.take n
    | none => text
  let plain (text : List Char) : Run (List Char) :=
    return mark.placed width false false [] (cut text)
  let s ← Run.store
  match letter with
  | 's' | 'b' =>
    if !bytes then
      if letter == 'b' then throw (unknownNotation bytes letter mark.place)
      plain (← askText call v).toList
    else
      match s.bytesOf? v, s.special? v "__bytes__" with
      | some codes, _ => plain codes
      | none, some operation => do plain (← bytesIn (← callSpecial call operation v []))
      | none, none => throw .badCall
  | 'r' =>
    let text ← askWritten call v
    plain (if bytes then asciiText text else text).toList
  | 'a' => do plain (asciiText (← askWritten call v)).toList
  | 'c' =>
    match s.bytesOf? v, s.textOf? v, bytes with
    | some [c], _, true => plain [c]
    | _, some text, false => if text.length = 1 then plain text.toList else throw .badCall
    | _, _, _ =>
      let n ← indexOf call v
      let most : Int := if bytes then 0x100 else 0x110000
      if 0 ≤ n && n < most then plain [Char.ofNat n.toNat] else throw .tooLarge
  | 'd' | 'i' | 'u' | 'o' | 'x' | 'X' =>
    if !s.isNumeric v then throw .badCall
    let exact := letter == 'o' || letter.toLower == 'x'
    let n ← match s.isOf "int" v, (s.content v).integer? with
      | true, some n => pure n
      | _, _ => if exact then indexOf call v else integerOf call v
    let (front, digits) := integerDigits letter (mark.has '#') n
    let digits := List.replicate ((precision.getD 0) - digits.length) '0' ++ digits
    return mark.placed width true (n < 0) front digits
  | 'e' | 'E' | 'f' | 'F' | 'g' | 'G' =>
    let d ← doubleFrom call v
    let digits := doubleDigits letter (mark.has '#') (precision.getD 6) d
    return mark.placed width true d.isNegative [] digits
  | _ => throw (unknownNotation bytes letter mark.place)

/-- The value that a name in a template stands for. -/
def PercentSource.named (call : Call) (bytes : Bool) (source : PercentSource) (key : List Char) :
    Run Value := do
  match source.mapping with
  | none => throw .badCall
  | some mapping =>
    let name ← if bytes then do
        let mark ← Run.newMark
        Run.changeContent mark (.str mark (String.ofList key))
        pure (Value.object mark (.builtin "bytes"))
      else Run.newText (String.ofList key)
    itemUnder call mapping name

/-- Puts values into the pieces of a template with percent signs. -/
def fillMarks (call : Call) (bytes : Bool) (source : PercentSource) :
    List Text.MarkedPiece → Run (List Char)
  | [] => if source.counted && !source.values.isEmpty then throw .badCall else return []
  | .text chars :: rest => return chars ++ (← fillMarks call bytes source rest)
  | .openKey :: _ =>
    if source.mapping.isNone then throw .badCall else throw (.badValue "incomplete format key")
  | .mark mark :: rest => do
    let source ← match mark.key with
      | none => pure source
      | some key => do
        let v ← source.named call bytes key
        pure { source with values := [v], counted := false }
    let (width, source) ← source.given Text.Layout.mostSaid "width too big" mark.width
    let (precision, source) ← source.given Text.Layout.mostPlaces
      (if bytes then "prec too big" else "precision too big") mark.precision
    let mark := if (width.getD 0) < 0 then { mark with flags := '-' :: mark.flags } else mark
    let width := (width.getD 0).natAbs
    match mark.letter with
    | none => throw (.badValue "incomplete format")
    | some letter =>
      let (v, source) ← source.next
      let text ← percentText call bytes mark letter (min width mostMade) (precision.map Int.toNat) v
      if mostMade < width then throw .tooLarge
      return text ++ (← fillMarks call bytes source rest)

/-- A template with percent signs, with values in the places. -/
def filledByPercent (call : Call) (bytes : Bool) (template : List Char) (given : Value) :
    Run (List Char) := do
  let s ← Run.store
  let single := s.isOf "tuple" given || s.isText given
    || (bytes && (s.isOf "bytes" given || s.isOf "bytearray" given))
  let mapping := if single then none
    else if (s.special? given "__getitem__").isSome then some given
    else none
  let source : PercentSource :=
    if s.isOf "tuple" given then ⟨s.itemsOf given, none, true⟩
    else ⟨[given], mapping, mapping.isNone⟩
  fillMarks call bytes source (Text.Mark.pieces template)

/-! ### Brackets -/

/-- The values that a template with brackets takes. -/
structure BracketSource where
  /-- The values by place; missing if there are none. -/
  values : Option (List Value)
  /-- The value of a name. -/
  named : String → Run Value

/-- How the places of a template are counted: not yet, from this number on, or by numbers written.
-/
inductive Counting where
  | undecided
  | upFrom (n : Nat)
  | written
deriving DecidableEq, Repr

/-- The value that a place of a template takes, and how places are counted behind it. -/
def BracketSource.take (source : BracketSource) (counting : Counting) (name : List Char) :
    Run (Value × Counting) := do
  let at_ (n : Nat) : Run Value :=
    match source.values with
    | none => throw (.badValue "Format string contains positional fields")
    | some values =>
      match values[n]? with
      | some v => return v
      | none => throw .noItem
  if name.isEmpty then
    match counting with
    | .undecided => return (← at_ 0, .upFrom 1)
    | .upFrom n => return (← at_ n, .upFrom (n + 1))
    | .written =>
      throw (.badValue "cannot switch from manual field specification to automatic field numbering")
  else
    match Text.decimalOf? name, counting with
    | some n, .upFrom _ =>
      if Text.Layout.mostSaid < n then throw (.badValue Text.Layout.tooManyDigits)
      throw (.badValue "cannot switch from automatic field numbering to manual field specification")
    | some n, _ =>
      if Text.Layout.mostSaid < n then throw (.badValue Text.Layout.tooManyDigits)
      return (← at_ n, .written)
    | none, _ => return (← source.named (String.ofList name), counting)

/-- The part of a value that a step of a template leads to. -/
def partOf (call : Call) (v : Value) : Text.PartStep → Run Value
  | .member name => getMember call v name
  | .item n => do itemUnder call v (← Run.newInt n)
  | .key name => do itemUnder call v (← Run.newText name)
  | .broken message => throw (.badValue message)

/-- A value turned into text in the way of a letter. -/
def converted (call : Call) (v : Value) (letter : Char) : Run Value := do
  match letter with
  | 's' => call (.cls (.builtin "str")) [v] []
  | 'r' => call (.builtin "repr") [v] []
  | 'a' => call (.builtin "ascii") [v] []
  | _ =>
    let shown := if letter.toNat = 127 then "\\x7f" else Text.Layout.shown letter
    throw (.badValue ("Unknown conversion specifier " ++ shown))

/-- What is written into a place of a template, and how places are counted behind it. A layout that
is a template is filled by `fill`. -/
def fillSlot (call : Call) (source : BracketSource)
    (fill : Counting → List Text.Piece → Run (List Char × Counting)) (counting : Counting)
    (slot : Text.Slot) : Run (Value × Counting) := do
  let (v, counting) ← source.take counting slot.source
  let v ← slot.steps.foldlM (partOf call) v
  let v ← match slot.conversion with
    | some letter => converted call v letter
    | none => pure v
  let (layout, counting) ←
    if slot.layout.contains '\x7b' then fill counting (Text.Template.pieces slot.layout)
    else pure (slot.layout, counting)
  let written ← call (.builtin "format") [v, ← Run.newText (String.ofList layout)] []
  return (written, counting)

/-- Fills the pieces of a template, of which layouts are templates themselves, at most `depth` deep.
-/
def fillPieces (call : Call) (source : BracketSource) :
    (depth : Nat) → Counting → List Text.Piece → Run (List Char × Counting)
  | 0, _, _ => throw (.badValue "Max string recursion exceeded")
  | depth + 1, counting, pieces =>
    pieces.foldlM (fun (text, counting) piece => do
      match piece with
      | .text chars => return (text ++ chars, counting)
      | .slot slot => do
        let (written, counting) ←
          fillSlot call source (fillPieces call source depth) counting slot
        return (text ++ (← requireText written).toList, counting)
      | .broken message => throw (.badValue message)) ([], counting)

/-- The text of a template with brackets, with values in the places. A template without places is
its own text, and what is written into a template that is one place is its text. -/
def filledByBrackets (call : Call) (template : Value) (chars : List Char) (source : BracketSource) :
    Run Value := do
  let isBracket (c : Char) : Bool := c == '\x7b' || c == '\x7d'
  match Text.Template.pieces chars, chars.any isBracket with
  | _ :: _, false => return template
  | [.slot slot], _ => do
    let written := (← fillSlot call source (fillPieces call source 1) .undecided slot).1
    if (← requireText written).isEmpty then Run.newText "" else return written
  | pieces, _ => do
    Run.newText (String.ofList (← fillPieces call source 2 .undecided pieces).1)

end DocGuard
