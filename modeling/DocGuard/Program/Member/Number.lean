import DocGuard.Number.Decimal
import DocGuard.Number.Integer
import DocGuard.Program.Argument
import DocGuard.Program.Operator
/-!
What the members of the classes of numbers do.

Integers are exact, floating point numbers are rounded to the nearest, and a complex number is a
pair of these. An operator has an answer for numbers that the class can take up; `integerOperator`,
`doubleOperator` and `complexOperator` give it.
-/

namespace DocGuard

/-! ### Operators -/

/-- Both parts of a division. -/
def pairOf (first second : Value) : Run Value :=
  Run.newTuple [first, second]

/-- How many bits a number can have that is made by raising or shifting another one. -/
def mostBits : Nat := Nat.pow 2 22

/-- The power of a complex number, multiplied up. -/
def complexPowerBy : (places : Nat) → (exponent : Nat) → Double × Double → Double × Double
  | 0, _, _ => (.one, .zero false)
  | places + 1, exponent, (re, im) =>
    let square := ((re.multiply re).subtract (im.multiply im),
      (re.multiply im).add (im.multiply re))
    let (a, b) := complexPowerBy places (exponent / 2) square
    if exponent % 2 = 1 then
      ((re.multiply a).subtract (im.multiply b), (re.multiply b).add (im.multiply a))
    else (a, b)

/-- The quotient of two complex numbers, if there is one. -/
def complexQuotient? (a b c d : Double) : Option (Double × Double) :=
  if !c.magnitude.less d.magnitude then
    if c.isZero then none
    else
      let ratio := d.divide c
      let size := c.add (d.multiply ratio)
      some ((a.add (b.multiply ratio)).divide size, (b.subtract (a.multiply ratio)).divide size)
  else
    let ratio := c.divide d
    let size := (c.multiply ratio).add d
    some (((a.multiply ratio).add b).divide size, ((b.multiply ratio).subtract a).divide size)

/-- The size of a complex number. -/
def complexSize (re im : Double) : Double :=
  match re, im with
  | .infinite _, _ | _, .infinite _ => .infinite false
  | re, im =>
    if im.isZero then re.magnitude
    else if re.isZero then im.magnitude
    else re.hypotenuse im

/-- The power of two complex numbers, if there is one. -/
def complexPower? (a b c d : Double) : Option (Double × Double) :=
  let exact := d.isZero && c.isWhole && !(Double.ofInt 100).less c.magnitude
  if exact then
    let n := (c.truncated?.getD 0)
    let (re, im) := complexPowerBy (n.natAbs.log2 + 1) n.natAbs (a, b)
    if n < 0 then complexQuotient? .one (.zero false) re im else some (re, im)
  else if c.isZero && d.isZero then some (.one, .zero false)
  else if a.isZero && b.isZero then
    if !d.isZero || c.isNegative then none else some (.zero false, .zero false)
  else
    let size := (complexSize a b).toFloat
    let angle := Float.atan2 b.toFloat a.toFloat
    let turned := angle * c.toFloat
    let length := size.pow c.toFloat
    let (length, turned) := if d.isZero then (length, turned)
      else (length / Float.exp (angle * d.toFloat), turned + d.toFloat * size.log)
    some (.ofFloat (length * turned.cos), .ofFloat (length * turned.sin))

/-- A complex number that must not be too large. -/
def finiteComplex (parts : Option (Double × Double)) : Run Value := do
  match parts with
  | none => throw .noQuotient
  | some (.infinite _, _) | some (_, .infinite _) => throw .tooLarge
  | some (re, im) => newComplex re im

/-- What two complex numbers come to. -/
def complexOperator (op : Operator) (a b c d : Double) : Run Value := do
  match op with
  | .sum => newComplex (a.add c) (b.add d)
  | .difference => newComplex (a.subtract c) (b.subtract d)
  | .product =>
    newComplex ((a.multiply c).subtract (b.multiply d)) ((a.multiply d).add (b.multiply c))
  | .quotient =>
    match complexQuotient? a b c d with
    | some (re, im) => newComplex re im
    | none => throw .noQuotient
  | .power => finiteComplex (complexPower? a b c d)
  | _ => return .noAnswer

/-- What two floating point numbers come to. -/
def doubleOperator (op : Operator) (a b : Double) : Run Value := do
  match op with
  | .sum => newDouble (a.add b)
  | .difference => newDouble (a.subtract b)
  | .product => newDouble (a.multiply b)
  | .quotient => if b.isZero then throw .noQuotient else newDouble (a.divide b)
  | .floorQuotient => if b.isZero then throw .noQuotient else newDouble (a.floorDivide b)
  | .remainder => if b.isZero then throw .noQuotient else newDouble (a.modulo b)
  | .division =>
    if b.isZero then throw .noQuotient
    pairOf (← newDouble (a.floorDivide b)) (← newDouble (a.modulo b))
  | .power =>
    if a.isZero && b.isNegative && !b.isZero then throw .noQuotient
    if a.isFinite && a.isNegative && !a.isZero && b.isFinite && !b.isWhole then
      return ← finiteComplex (complexPower? a (.zero false) b (.zero false))
    let result := a.power b
    if a.isFinite && b.isFinite && !result.isFinite then throw .tooLarge
    newDouble result
  | _ => return .noAnswer

/-- What two integers come to. -/
def integerOperator (op : Operator) (m n : Int) : Run Value := do
  match op with
  | .sum => Run.newInt (m + n)
  | .difference => Run.newInt (m - n)
  | .product => Run.newInt (m * n)
  | .quotient =>
    if n = 0 then throw .noQuotient
    let result ← requireFinite (.nearest ((m < 0) != (n < 0)) m.natAbs n.natAbs)
    newDouble result
  | .floorQuotient => if n = 0 then throw .noQuotient else Run.newInt (m.fdiv n)
  | .remainder => if n = 0 then throw .noQuotient else Run.newInt (m.fmod n)
  | .division =>
    if n = 0 then throw .noQuotient
    pairOf (← Run.newInt (m.fdiv n)) (← Run.newInt (m.fmod n))
  | .power =>
    if n < 0 then
      let a ← requireFinite (.ofInt m)
      let b ← requireFinite (.ofInt n)
      doubleOperator .power a b
    else
      if mostBits < Integer.bitLength m * n.natAbs && 1 < m.natAbs then throw .tooLarge
      let size : Int := if m.natAbs ≤ 1 then Int.pow m (n.natAbs % 2 + 2) else Int.pow m n.natAbs
      Run.newInt (if n = 0 then 1 else size)
  | .leftShift =>
    if n < 0 then throw (.badValue "negative shift count")
    if m = 0 then return ← Run.newInt 0
    if (mostBits : Int) < n then throw .tooLarge
    Run.newInt (m * Int.pow 2 n.natAbs)
  | .rightShift =>
    if n < 0 then throw (.badValue "negative shift count")
    if (Integer.bitLength m : Int) < n then return ← Run.newInt (if m < 0 then -1 else 0)
    Run.newInt (m.fdiv (Int.pow 2 n.natAbs))
  | .both => Run.newInt (Integer.bitAnd m n)
  | .either => Run.newInt (Integer.bitOr m n)
  | .exactlyOne => Run.newInt (Integer.bitXor m n)
  | .matrixProduct => return .noAnswer

/-- What a number of the builtin class `owner` and another value come to, in this order if `front`
holds. -/
def numberOperator (owner : String) (op : Operator) (front : Bool) (v w : Value) : Run Value := do
  let s ← Run.store
  let isAny (classes : List String) (v : Value) : Bool := classes.any fun cls => s.isOf cls v
  let (a, b) := if front then (v, w) else (w, v)
  let double? (v : Value) : Run (Option Double) :=
    match isAny ["float", "int"] v, s.content v with
    | true, .float _ text => return some (doubleOf text)
    | true, content =>
      match content.integer? with
      | some n => do return some (← requireFinite (.ofInt n))
      | none => return none
    | _, _ => return none
  match owner with
  | "bool" =>
    match s.content a, s.content b with
    | .bool p, .bool q =>
      return match op with
        | .both => .bool (p && q)
        | .either => .bool (p || q)
        | _ => .bool (p != q)
    | a', b' =>
      match isAny ["int"] a && isAny ["int"] b, a'.integer?, b'.integer? with
      | true, some m, some n => integerOperator op m n
      | _, _, _ => return .noAnswer
  | "int" =>
    match isAny ["int"] a && isAny ["int"] b, (s.content a).integer?, (s.content b).integer? with
    | true, some m, some n => integerOperator op m n
    | _, _, _ => return .noAnswer
  | "float" =>
    match ← double? a, ← double? b with
    | some x, some y => doubleOperator op x y
    | _, _ => return .noAnswer
  | _ =>
    let complex? (v : Value) : Run (Option (Double × Double)) := do
      match s.isOf "complex" v, s.content v with
      | true, .tuple _ [.float _ re, .float _ im] => return some (doubleOf re, doubleOf im)
      | _, _ => return (← double? v).map (·, .zero false)
    match ← complex? a, ← complex? b with
    | some (re, im), some (re', im') => complexOperator op re im re' im'
    | _, _ => return .noAnswer

/-- The power of two integers within a modulus. -/
def powerWithin (base exponent modulus : Int) : Run Value := do
  if modulus = 0 then throw (.badValue "pow() 3rd argument cannot be 0")
  let found := if exponent < 0 then
      (Integer.inverseModulo? base modulus).map fun x =>
        Integer.powerModulo x exponent.natAbs modulus
    else some (Integer.powerModulo base exponent.natAbs modulus)
  match found with
  | some n => Run.newInt n
  | none => throw (.badValue "base is not invertible for the given modulus")

/-! ### Members of integers -/

/-- The order of bytes that a value names: the lowest comes first. -/
def lowestFirst (v : Option Value) : Run Bool := do
  match v with
  | none => return false
  | some v =>
    match ← requireText v with
    | "little" => return true
    | "big" => return false
    | _ => throw (.badValue "byteorder must be either 'little' or 'big'")

/-- What a member of the class of integers does with the integer `n`. -/
def integerMember (call : Call) (name : String) (n : Int) (args : Fitted) : Run Value := do
  match name, args with
  | "__neg__", [] => Run.newInt (-n)
  | "__invert__", [] => Run.newInt (-n - 1)
  | "__abs__", [] => Run.newInt n.natAbs
  | "__pos__", [] | "__int__", [] | "__index__", [] | "__trunc__", [] | "__floor__", []
  | "__ceil__", [] | "conjugate", [] | "__round__", [] => Run.newInt n
  | "__float__", [] => do newDouble (← requireFinite (.ofInt n))
  | "__round__", [some places] => do
    let places ← indexOf call places
    if 0 ≤ places then Run.newInt n
    else Run.newInt (Integer.roundedTo (Nat.pow 10 (min places.natAbs mostDigits)) n)
  | "bit_length", [] => Run.newInt (Integer.bitLength n)
  | "bit_count", [] => Run.newInt (Integer.bitCount n)
  | "as_integer_ratio", [] => do pairOf (← Run.newInt n) (← Run.newInt 1)
  | "__getnewargs__", [] => do Run.newTuple [← Run.newInt n]
  | "__sizeof__", [] => Run.newInt (24 + 4 * max 1 ((Integer.bitLength n + 29) / 30) : Nat)
  | "to_bytes", args => do
    let length ← match args.at? 0 with
      | some v => sizeOf call v
      | none => pure 1
    let low ← lowestFirst (args.at? 1)
    let signed ← flagOf call (args.at? 2) false
    if length < 0 || (mostMade : Int) < length then
      throw (.badValue "length argument must be non-negative")
    match Integer.toBytes? length.toNat signed n with
    | some codes => newBytes ((if low then codes else codes.reverse).map Char.ofNat)
    | none => throw .tooLarge
  | _, _ => throw .badCall

/-- The integer that bytes write. -/
def integerFromBytes (call : Call) (args : Fitted) : Run Int := do
  let low ← lowestFirst (args.at? 1)
  let signed ← flagOf call (args.at? 2) false
  let source := args.getD 0
  let s ← Run.store
  let codes ← match s.special? source "__bytes__" with
    | some (.slot _ _ _) | none => codesIn call source true
    | some operation => bytesIn (← callSpecial call operation source [])
  let codes := codes.map Char.toNat
  return Integer.ofBytes signed (if low then codes else codes.reverse)

/-! ### Members of floating point numbers -/

/-- The integer that a floating point number is rounded to in some way. -/
def roundedBy (way : Double → Option Int) (d : Double) : Run Value :=
  match d, way d with
  | .infinite _, _ => throw .tooLarge
  | _, some n => Run.newInt n
  | _, none => throw (.badValue "cannot convert float NaN to integer")

/-- What a member of the class of floating point numbers does with the number `d`. -/
def doubleMember (call : Call) (name : String) (d : Double) (args : Fitted) : Run Value := do
  match name, args with
  | "__neg__", [] => newDouble d.negate
  | "__abs__", [] => newDouble d.magnitude
  | "__pos__", [] | "__float__", [] | "conjugate", [] => newDouble d
  | "__int__", [] | "__trunc__", [] => do Run.newInt (← truncatedOf d)
  | "__floor__", [] => roundedBy Double.floored? d
  | "__ceil__", [] => roundedBy Double.raised? d
  | "__round__", [] | "__round__", [some .none] => roundedBy Double.closest? d
  | "__round__", [some places] => do
    let places ← sizeOf call places
    if 400 < places then newDouble d
    else if places < -400 then newDouble ((Double.zero false).withSignOf d)
    else
      let result := d.roundedAt places
      if d.isFinite && !result.isFinite then throw .tooLarge
      newDouble result
  | "is_integer", [] => return .bool d.isWhole
  | "hex", [] => Run.newText d.hexText
  | "as_integer_ratio", [] =>
    match d, d.ratio? with
    | .infinite _, _ => throw .tooLarge
    | _, some (num, den) => do pairOf (← Run.newInt num) (← Run.newInt den)
    | _, none => throw (.badValue "cannot convert NaN to integer ratio")
  | "__getnewargs__", [] => do Run.newTuple [← newDouble d]
  | _, _ => throw .badCall

/-! ### Members of complex numbers -/

/-- What a member of the class of complex numbers does with the number of these parts. -/
def complexMember (name : String) (re im : Double) (args : Fitted) : Run Value := do
  match name, args with
  | "__neg__", [] => newComplex re.negate im.negate
  | "__pos__", [] | "__complex__", [] => newComplex re im
  | "conjugate", [] => newComplex re im.negate
  | "__abs__", [] =>
    let size := complexSize re im
    if re.isFinite && im.isFinite && !size.isFinite then throw .tooLarge
    newDouble size
  | "__getnewargs__", [] => do Run.newTuple [← newDouble re, ← newDouble im]
  | _, _ => throw .badCall

/-! ### All numbers -/

/-- What a member of a class of numbers does with a number. -/
def numberMember (call : Call) (owner name : String) (v : Value) (args : Fitted) : Run Value := do
  let s ← Run.store
  match Operator.ofMember? name, args with
  | some (.power, front), [some w] | some (.power, front), [some w, some .none] =>
    numberOperator owner .power front v w
  | some (.power, front), [some w, some modulus] =>
    match owner, s.isOf "int" w, s.isOf "int" modulus, (s.content v).integer?,
      (s.content w).integer?, (s.content modulus).integer? with
    | "int", true, true, some n, some other, some modulus =>
      if front then powerWithin n other modulus else powerWithin other n modulus
    | "int", _, _, _, _, _ => return .noAnswer
    | "complex", _, _, _, _, _ =>
      let answer ← numberOperator owner .sum front v w
      if answer.isNoAnswer then return answer else throw (.badValue "complex modulo")
    | _, _, _, _, _, _ => throw .badCall
  | some (op, front), [some w] => numberOperator owner op front v w
  | some _, _ => throw .badCall
  | none, args =>
    match owner, s.content v with
    | "float", .float _ text => doubleMember call name (doubleOf text) args
    | "complex", .tuple _ [.float _ re, .float _ im] =>
      complexMember name (doubleOf re) (doubleOf im) args
    | _, content =>
      match content.integer? with
      | some n => integerMember call name n args
      | none => throw .badCall

/-- What a member that the classes of numbers have for themselves does for the class `c`. -/
def numberClassMember (call : Call) (owner name : String) (c : ClassRef) (args : Fitted) :
    Run Value := do
  let made (v : Value) : Run Value :=
    if c.origin == .builtin && c.name == owner then return v else call (.cls c) [v] []
  match owner, name, args with
  | "int", "from_bytes", some _ :: _ => do made (← Run.newInt (← integerFromBytes call args))
  | "float", "fromhex", [some text] => do
    match Double.ofHexText? (← requireText text) with
    | some (.infinite negative) =>
      if ((← requireText text).toList.any fun c => c == 'i' || c == 'I') then
        made (← newDouble (.infinite negative))
      else throw .tooLarge
    | some d => made (← newDouble d)
    | none => throw (.badValue "invalid hexadecimal floating-point string")
  | "float", "__getformat__", [some text] =>
    match ← requireText text with
    | "double" | "float" => Run.newText "IEEE, little-endian"
    | _ => throw (.badValue "__getformat__() argument 1 must be 'double' or 'float'")
  | _, _, _ => throw .badCall

end DocGuard
