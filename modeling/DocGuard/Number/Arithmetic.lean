import DocGuard.Number.Double
import DocGuard.Number.Integer
/-!
Arithmetic of floating point numbers.

Sums, products, quotients and remainders are computed exactly and then rounded to the closest
number. A quotient without a fraction is rounded down, and the remainder that goes with it has the
sign of the divisor. Powers are those of the machine.
-/

namespace DocGuard.Double

/-! ### Parts -/

/-- The number is negative, be it a zero. -/
def isNegative : Double → Bool
  | nan => false
  | infinite negative => negative
  | finite negative _ _ => negative

/-- Zero with a sign. -/
def zero (negative : Bool) : Double :=
  finite negative 0 leastExponent

/-- The number one. -/
def one : Double := ofInt 1

/-- The number with the other sign. -/
def negate : Double → Double
  | nan => nan
  | infinite negative => infinite !negative
  | finite negative m e => finite (!negative) m e

/-- The number without its sign. -/
def magnitude : Double → Double
  | nan => nan
  | infinite _ => infinite false
  | finite _ m e => finite false m e

/-- The number of the size of the first and the sign of the second. -/
def withSignOf (a b : Double) : Double :=
  if a.isNegative == b.isNegative then a else a.negate

/-- The number is finite. -/
def isFinite : Double → Bool
  | finite _ _ _ => true
  | _ => false

/-- The number closest to `size * 2 ^ e`. -/
def ofScaled (negative : Bool) (size : Nat) (e : Int) : Double :=
  match e with
  | .ofNat n => nearest negative (size * Nat.pow 2 n) 1
  | .negSucc n => nearest negative size (Nat.pow 2 (n + 1))

/-- The number closest to some units of `2 ^ leastExponent`. Of nothing, the sign is given. -/
def ofUnits (negativeZero : Bool) (n : Int) : Double :=
  if n = 0 then zero negativeZero else ofScaled (n < 0) n.natAbs leastExponent

/-- The numerator and the denominator of a finite number, without a common factor. -/
def ratio? : Double → Option (Int × Nat)
  | finite negative m e =>
    let (num, den) := scaled m 1 (-e)
    let common := Nat.gcd num den
    let size : Int := (num / common : Nat)
    some (if negative then -size else size, den / common)
  | _ => none

/-- The greatest integer that is not above a finite number. -/
def floored? (d : Double) : Option Int :=
  d.ratio?.map fun (num, den) => num.fdiv den

/-- The least integer that is not below a finite number. -/
def raised? (d : Double) : Option Int :=
  d.ratio?.map fun (num, den) => -(-num).fdiv den

/-- The integer closest to a finite number, the even one of two. -/
def closest? (d : Double) : Option Int :=
  d.ratio?.map fun (num, den) =>
    let size : Int := rounded num.natAbs den
    if num < 0 then -size else size

/-! ### Sums and products -/

/-- The sum. -/
def add : Double → Double → Double
  | nan, _ | _, nan => nan
  | infinite s, infinite t => if s = t then infinite s else nan
  | infinite s, _ | _, infinite s => infinite s
  | finite s m e, finite t n f => ofUnits (s && t) (units s m e + units t n f)

/-- The difference. -/
def subtract (a b : Double) : Double :=
  a.add b.negate

/-- The product. -/
def multiply : Double → Double → Double
  | nan, _ | _, nan => nan
  | infinite s, d | d, infinite s => if d.isZero then nan else infinite (s != d.isNegative)
  | finite s m e, finite t n f =>
    if m * n = 0 then zero (s != t) else ofScaled (s != t) (m * n) (e + f)

/-- The quotient. -/
def divide : Double → Double → Double
  | nan, _ | _, nan => nan
  | infinite _, infinite _ => nan
  | infinite s, d => infinite (s != d.isNegative)
  | d, infinite s => zero (s != d.isNegative)
  | finite s m e, finite t n f =>
    if n = 0 then if m = 0 then nan else infinite (s != t)
    else
      let (num, den) := scaled m n (f - e)
      nearest (s != t) num den

/-! ### Remainders -/

/-- What a quotient towards zero leaves; it has the sign of the number divided. -/
def leftOver : Double → Double → Double
  | finite s m e, finite t n f =>
    if n = 0 then nan else ofUnits s ((units s m e).tmod (units t n f))
  | finite s m e, infinite _ => finite s m e
  | _, _ => nan

/-- What a quotient that was rounded down leaves; it has the sign of the divisor. -/
def modulo (a b : Double) : Double :=
  let rest := leftOver a b
  match rest with
  | nan => nan
  | _ =>
    if rest.isZero then (zero false).withSignOf b
    else if rest.isNegative != b.isNegative then rest.add b else rest

/-- The quotient without a fraction, rounded down. -/
def floorDivide (a b : Double) : Double :=
  let rest := leftOver a b
  let whole := (a.subtract rest).divide b
  let whole := if !rest.isZero && rest.isNegative != b.isNegative then whole.subtract one else whole
  match whole.floored? with
  | none => whole
  | some n =>
    if whole.isZero then (zero false).withSignOf (a.divide b)
    else
      let floor := ofInt n
      if (Double.ofScaled false 1 (-1)).less (whole.subtract floor) then floor.add one else floor

/-! ### Powers -/

/-- The number as the machine keeps it. -/
def toFloat (d : Double) : Float :=
  let bits (negative : Bool) (n : Nat) : Float :=
    Float.ofBits (UInt64.ofNat ((if negative then Nat.pow 2 63 else 0) + n))
  match d with
  | nan => bits false 0x7ff8000000000000
  | infinite negative => bits negative 0x7ff0000000000000
  | finite negative m e =>
    if m < Nat.pow 2 52 then bits negative m
    else bits negative ((e + 1075).toNat * Nat.pow 2 52 + (m - Nat.pow 2 52))

/-- A number that the machine keeps. -/
def ofFloat (x : Float) : Double :=
  let n := x.toBits.toNat
  let negative : Bool := Nat.pow 2 63 ≤ n
  let exponent : Nat := n / Nat.pow 2 52 % Nat.pow 2 11
  let mantissa := n % Nat.pow 2 52
  if exponent = 0x7ff then if mantissa = 0 then infinite negative else nan
  else if exponent = 0 then finite negative mantissa leastExponent
  else finite negative (Nat.pow 2 52 + mantissa) (exponent - 1075)

/-- The power. -/
def power (a b : Double) : Double :=
  ofFloat (a.toFloat.pow b.toFloat)

/-- The number closest to the square root of the sum of two squares, of finite numbers. The root is
taken of a whole number so large that only what is behind its last bit is lost; that something is
lost is noted. -/
def hypotenuse (a b : Double) : Double :=
  match a, b with
  | .finite _ m e, .finite _ n f =>
    let low := min e f
    let sum := Nat.pow (m * Nat.pow 2 (e - low).toNat) 2
      + Nat.pow (n * Nat.pow 2 (f - low).toNat) 2
    let spare : Nat := 64
    let root := Nat.sqrt (sum * Nat.pow 4 spare)
    let noted := 2 * root + (if root * root = sum * Nat.pow 4 spare then 0 else 1)
    let places := low - spare - 1
    if 0 ≤ places then nearest false (noted * Nat.pow 2 places.toNat) 1
    else nearest false noted (Nat.pow 2 (-places).toNat)
  | .infinite _, _ | _, .infinite _ => .infinite false
  | _, _ => .nan

/-- The number has no fraction. -/
def isWhole (d : Double) : Bool :=
  match d.ratio? with
  | some (_, den) => den == 1
  | none => false

/-! ### Rounding -/

/-- The number closest to a decimal of `places` digits behind the point, which is closest to a
finite number. -/
def roundedAt (places : Int) (d : Double) : Double :=
  match d, d.ratio? with
  | finite negative _ _, some (num, den) =>
    let (n, k) := match places with
      | .ofNat p => (num.natAbs * Nat.pow 10 p, den)
      | .negSucc p => (num.natAbs, den * Nat.pow 10 (p + 1))
    ofDecimal negative (rounded n k) (-places)
  | d, _ => d

/-! ### Places among keys -/

/-- The modulus by which numbers are sorted into places. -/
def placeModulus : Nat := Nat.pow 2 61 - 1

/-- The number that stands for this one where keys are sorted into places: the fraction that it is,
within a modulus. -/
def keyPlace : Double → Int
  | nan => 0
  | infinite negative => if negative then -314159 else 314159
  | finite negative m e =>
    let size : Int := (m * Nat.pow 2 (e.emod 61).toNat % placeModulus : Nat)
    let n := if negative then -size else size
    if n = -1 then -2 else n

end DocGuard.Double
