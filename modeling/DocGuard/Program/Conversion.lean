import DocGuard.Number.Arithmetic
import DocGuard.Program.Writing
/-!
Numbers and bytes made out of other values.

A number can be made of text or of another number, bytes of whatever holds codes. A class that a
program defines takes part by operations of its own.
-/

namespace DocGuard

/-! ### Integers -/

/-- The integer that an operation of a program gives. -/
def integerFrom (call : Call) (operation v : Value) : Run Int := do
  let given ← callSpecial call operation v []
  let s ← Run.store
  match s.isOf "int" given, (s.content given).integer? with
  | true, some n => return n
  | _, _ => throw .badCall

/-- The integer that a value is, or that its class says it stands for. -/
def indexOf (call : Call) (v : Value) : Run Int := do
  let s ← Run.store
  match s.special? v "__index__", if s.isOf "int" v then (s.content v).integer? else none with
  | _, some n => return n
  | some (.slot _ _ _), none | none, _ => throw .badCall
  | some operation, _ => integerFrom call operation v

/-- A whole number that can be a length or a place. -/
def requireSize (n : Int) : Run Int :=
  if -Int.pow 2 63 ≤ n ∧ n < Int.pow 2 63 then return n else throw .tooLarge

/-- The length or the place that a value stands for. -/
def sizeOf (call : Call) (v : Value) : Run Int := do
  requireSize (← indexOf call v)

/-- The place that a value stands for, if it is given and is not absent. -/
def boundOf? (call : Call) (v : Option Value) : Run (Option Int) := do
  match v with
  | none | some .none => return none
  | some v => return some (← indexOf call v)

/-- The most digits that are read as an integer or written. -/
def mostDigits : Nat := 4300

/-- The integer that a text writes to a base, if it writes one; the base 0 is told by the text. -/
def integerIn? (base : Nat) (text : List Char) : Run (Option Int) := do
  let (negative, digits) := Double.takeSign text
  let lower := digits.map Char.toLower
  let marked (mark : Char) : Bool := match lower with
    | '0' :: c :: _ => c == mark
    | _ => false
  let after := match lower.drop 2 with
    | '_' :: rest => rest
    | rest => rest
  let read :=
    if marked 'x' && (base == 16 || base == 0) then Text.naturalOf? 16 after
    else if marked 'o' && (base == 8 || base == 0) then Text.naturalOf? 8 after
    else if marked 'b' && (base == 2 || base == 0) then Text.naturalOf? 2 after
    else if base == 0 then
      -- without a mark the digits are decimal, and only zero begins with a zero
      (Text.naturalOf? 10 lower).filter fun n => n == 0 || lower.head? != some '0'
    else Text.naturalOf? base lower
  let exact := [2, 4, 8, 16, 32].contains base
  let count := (lower.filter (· != '_')).length
  if !exact && mostDigits < count then
    throw (.badValue ("Exceeds the limit (" ++ toString mostDigits
      ++ " digits) for integer string conversion: value has " ++ toString count
      ++ " digits; use sys.set_int_max_str_digits() to increase the limit"))
  return read.map fun n => if negative then -(n : Int) else n

/-- The text that a value writes a number with: a text, or bytes. -/
def Store.numeral? (s : Store) (v : Value) : Option (List Char) :=
  match s.textOf? v with
  | some text => some (Text.trimmed (Text.plainDigits text.toList))
  | none =>
    if s.isOf "bytes" v || s.isOf "bytearray" v then
      let blank (c : Char) : Bool := c == ' ' || (9 ≤ c.toNat && c.toNat ≤ 13)
      let codes := (s.codesOf v).toList
      some ((codes.dropWhile blank).reverse.dropWhile blank).reverse
    else none

/-- The integer that a value writes to a base. A value that writes none is written out: a text by
itself, bytes as what they are. -/
def integerWritten (call : Call) (base : Nat) (v : Value) (text : List Char) : Run Int := do
  match ← integerIn? base text with
  | some n => return n
  | none =>
    let misfit (written : String) : Fault :=
      .badValue ("invalid literal for int() with base " ++ toString base ++ ": " ++ written)
    let s ← Run.store
    if s.isText v then refuse call v misfit else throw (misfit (bytesText (s.codesOf v)))

/-- The integer that is made by leaving out what stands behind the point. -/
def truncatedOf (d : Double) : Run Int :=
  match d, d.truncated? with
  | .infinite _, _ => throw .tooLarge
  | _, some n => return n
  | _, none => throw (.badValue "cannot convert float NaN to integer")

/-- The integer made of a value. -/
def integerOf (call : Call) (v : Value) : Run Int := do
  let s ← Run.store
  match s.special? v "__int__", s.content v with
  | some (.slot _ _ _), .float _ text => truncatedOf (doubleOf text)
  | some (.slot _ _ _), content =>
    match content.integer? with
    | some n => return n
    | none => throw .badCall
  | some operation, _ => integerFrom call operation v
  | none, _ =>
    match s.special? v "__index__", s.special? v "__trunc__", s.numeral? v with
    | some operation, _, _ => integerFrom call operation v
    | none, some operation, _ => do indexOf call (← callSpecial call operation v [])
    | none, none, some text => integerWritten call 10 v text
    | none, none, none => throw .badCall

/-- The integer made of a text to the base that a value gives. -/
def integerToBase (call : Call) (v base : Value) : Run Int := do
  let n ← indexOf call base
  if n != 0 && (n < 2 || 36 < n) then
    throw (.badValue "int() base must be >= 2 and <= 36, or 0")
  match (← Run.store).numeral? v with
  | some text => integerWritten call n.toNat v text
  | none => throw .badCall

/-! ### Floating point numbers -/

/-- A number that must not be too large. -/
def requireFinite (d : Double) : Run Double :=
  match d with
  | .infinite _ => throw .tooLarge
  | d => return d

/-- The floating point number made of a value that is a number. -/
def doubleFrom (call : Call) (v : Value) : Run Double := do
  let s ← Run.store
  match s.special? v "__float__", s.special? v "__index__", s.content v with
  | some (.slot _ _ _), _, .float _ text => return doubleOf text
  | some (.slot _ _ _), _, content =>
    match content.integer? with
    | some n => requireFinite (.ofInt n)
    | none => throw .badCall
  | some operation, _, _ =>
    let given ← callSpecial call operation v []
    let s ← Run.store
    match s.isOf "float" given, s.content given with
    | true, .float _ text => return doubleOf text
    | _, _ => throw .badCall
  | none, some operation, _ => do requireFinite (.ofInt (← integerFrom call operation v))
  | none, none, _ => throw .badCall

/-- The floating point number made of a value. -/
def doubleMadeOf (call : Call) (v : Value) : Run Double := do
  let s ← Run.store
  match s.special? v "__float__", s.special? v "__index__", s.numeral? v with
  | none, none, some text =>
    match Double.ofText? (String.ofList text) with
    | some d => return d
    | none => refuse call v fun text => .badValue ("could not convert string to float: " ++ text)
  | _, _, _ => doubleFrom call v

/-- A floating point number made while the program runs. -/
def newDouble (d : Double) : Run Value := do
  return .float (← Run.newMark) d.text

/-! ### Complex numbers -/

/-- A complex number made while the program runs. -/
def newComplex (re im : Double) : Run Value := do
  newKeeping "complex" [.float 0 re.text, .float 0 im.text]

/-- The text without the brackets around it. -/
def withoutBrackets (chars : List Char) : List Char :=
  match chars, chars.getLast? with
  | '(' :: rest, some ')' => Text.trimmed rest.dropLast
  | _, _ => chars

/-- The length of the first of two numbers that follow each other: up to the last sign that is not
the sign of an exponent. -/
def firstLength (chars : List Char) : Nat :=
  let signs := (List.range chars.length).filter fun i =>
    let before := chars.getD (i - 1) 'e'
    (chars.getD i ' ' == '+' || chars.getD i ' ' == '-')
      && i != 0 && before != 'e' && before != 'E'
  signs.getLast?.getD 0

/-- The number before the sign of the imaginary unit, which can be left out if it is one. -/
def imaginaryPart? (chars : List Char) : Option Double :=
  match chars with
  | [] | ['+'] => some (.ofInt 1)
  | ['-'] => some (.ofInt (-1))
  | _ => Double.ofText? (String.ofList chars)

/-- The real and the imaginary part that a text writes. -/
def complexParts? (text : String) : Option (Double × Double) :=
  let chars := withoutBrackets (Text.trimmed text.toList)
  match chars.getLast? with
  | some 'j' | some 'J' => do
    let n := firstLength chars.dropLast
    let imaginary ← imaginaryPart? (chars.dropLast.drop n)
    if n = 0 then return (.ofInt 0, imaginary)
    return (← Double.ofText? (String.ofList (chars.take n)), imaginary)
  | _ => (Double.ofText? (String.ofList chars)).map (·, .ofInt 0)

/-- The complex number that the class of a value says it is, or else the value. -/
def complexOr (call : Call) (v : Value) : Run Value := do
  match (← Run.store).special? v "__complex__" with
  | none | some (.slot _ _ _) => return v
  | some operation =>
    let given ← callSpecial call operation v []
    if (← Run.store).isOf "complex" given then return given else throw .badCall

/-- The value is a complex number or can be asked for the number that it is. -/
def Store.isNumber (s : Store) (v : Value) : Bool :=
  s.isOf "complex" v || (s.special? v "__float__").isSome || (s.special? v "__index__").isSome

/-- The two parts of a complex number, or of another number. -/
def doublesIn (call : Call) (v : Value) : Run (Double × Double) := do
  let s ← Run.store
  match s.isOf "complex" v, s.content v with
  | true, .tuple _ [.float _ re, .float _ im] => return (doubleOf re, doubleOf im)
  | _, _ => return (← doubleFrom call v, .ofInt 0)

/-! ### Bytes -/

/-- The code that a value is. -/
def codeOf (call : Call) (v : Value) : Run Char := do
  let n ← indexOf call v
  if 0 ≤ n ∧ n < 256 then return Char.ofNat n.toNat
  else throw (.badValue "byte must be in range(0, 256)")

/-- The most things that are made by naming a number. -/
def mostMade : Nat := Nat.pow 2 20

/-- The codes that a value holds as bytes, if it holds any. -/
def Store.bytesOf? (s : Store) (v : Value) : Option (List Char) :=
  (s.bytesHeld? v).map String.toList

/-- The codes that a value holds as bytes. -/
def bytesIn (v : Value) : Run (List Char) := do
  match (← Run.store).bytesOf? v with
  | some codes => return codes
  | none => throw .badCall

/-- The codes that a value goes through. -/
def codesOfItems (call : Call) (v : Value) (asks : Bool) : Run (List Char) := do
  return (← foldIn call v asks [] fun codes w => do
    return .yield ((← codeOf call w) :: codes)).reverse

/-- The codes that a value holds: as bytes, or as the values that it goes through. With `asks`, it
is asked how many there are before. -/
def codesIn (call : Call) (v : Value) (asks : Bool) : Run (List Char) := do
  let s ← Run.store
  match s.bytesOf? v with
  | some codes => return codes
  | none =>
    if s.isText v then throw .badCall
    codesOfItems call v asks

/-- The codes of the bytes made of a value: as many zeros as an integer says, else those that the
value holds. -/
def bytesOf (call : Call) (v : Value) (asks : Bool) : Run (List Char) := do
  let s ← Run.store
  match if s.isText v then none else s.special? v "__index__" with
  | none => codesIn call v asks
  | some _ =>
    match ← Run.attempt (sizeOf call v) with
    | .error .badCall => codesIn call v asks
    | .error e => throw e
    | .ok n =>
      if 0 ≤ n ∧ n ≤ mostMade then return List.replicate n.toNat (Char.ofNat 0)
      else throw (.badValue "negative count")

end DocGuard
