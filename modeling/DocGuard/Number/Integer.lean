/-!
Integers as rows of bits and as digits.

A negative integer has bits too: infinitely many of them are set, those of `-n - 1` turned over.
`bitAnd`, `bitOr` and `bitXor` combine the bits of two integers. An integer can be rounded to a
power of ten, taken to a power within a modulus, and written with a given number of bytes.
-/

namespace DocGuard.Integer

/-! ### Bits -/

/-- The bits that both integers have. -/
def bitAnd : Int → Int → Int
  | .ofNat m, .ofNat n => (m &&& n : Nat)
  | .ofNat m, .negSucc n => (m ^^^ (m &&& n) : Nat)
  | .negSucc m, .ofNat n => (n ^^^ (m &&& n) : Nat)
  | .negSucc m, .negSucc n => .negSucc (m ||| n)

/-- The bits that one of two integers has, or both. -/
def bitOr (m n : Int) : Int :=
  -bitAnd (-m - 1) (-n - 1) - 1

/-- The bits that one of two integers has, and not both. -/
def bitXor : Int → Int → Int
  | .ofNat m, .ofNat n => (m ^^^ n : Nat)
  | .ofNat m, .negSucc n => .negSucc (m ^^^ n)
  | .negSucc m, .ofNat n => .negSucc (m ^^^ n)
  | .negSucc m, .negSucc n => (m ^^^ n : Nat)

/-- How many bits write the integer without its sign. -/
def bitLength (n : Int) : Nat :=
  if n = 0 then 0 else n.natAbs.log2 + 1

/-- How many bits of a number are set, among the last `places`. -/
def setBits : (places : Nat) → Nat → Nat
  | 0, _ => 0
  | places + 1, n => n % 2 + setBits places (n / 2)

/-- How many bits of the integer are set, leaving its sign aside. -/
def bitCount (n : Int) : Nat :=
  setBits (bitLength n) n.natAbs

/-! ### Rounding -/

/-- The multiple of `unit` closest to an integer; of two, that with the even factor. -/
def roundedTo (unit : Nat) (n : Int) : Int :=
  let low := n.fdiv unit
  let rest := (n.fmod unit).toNat
  if 2 * rest < unit then low * unit
  else if 2 * rest = unit then (low + low % 2) * unit
  else (low + 1) * unit

/-! ### Powers -/

/-- The power of `base` within `modulus`, of which `places` bits of the exponent are taken. -/
def powerWithin (modulus : Int) : (places : Nat) → (base : Int) → (exponent : Nat) → Int
  | 0, _, _ => (1 : Int).fmod modulus
  | places + 1, base, exponent =>
    let rest := powerWithin modulus places ((base * base).fmod modulus) (exponent / 2)
    if exponent % 2 = 1 then (base * rest).fmod modulus else rest

/-- The remainder that a power of an integer leaves. -/
def powerModulo (base : Int) (exponent : Nat) (modulus : Int) : Int :=
  powerWithin modulus (exponent.log2 + 1) (base.fmod modulus) exponent

/-- The factor `x` for which `a * x` leaves the rest `g`, the greatest common divisor of `a` and
`b`, when it is divided by what `b` was at first; `u` and `v` are the factors of `a` and `b`. -/
def bezout : (steps : Nat) → (a b u v : Int) → Int × Int
  | 0, a, _, u, _ => (a, u)
  | steps + 1, a, b, u, v =>
    if b = 0 then (a, u) else bezout steps b (a.fmod b) v (u - a.fdiv b * v)

/-- The integer by which `a` has to be multiplied to leave the rest one, if there is one. -/
def inverseModulo? (a modulus : Int) : Option Int :=
  let size := modulus.natAbs
  let (divisor, factor) := bezout (2 * size.log2 + 4) (a.fmod size) size 1 0
  if divisor.natAbs = 1 then some ((factor * divisor).fmod modulus) else none

/-! ### Digits -/

/-- The digits of a number to a base of up to 16. -/
def digits (base n : Nat) : String :=
  String.ofList (Nat.toDigits base n)

/-- An integer to a base, with a mark that tells the base behind its sign. -/
def marked (mark : String) (base : Nat) (n : Int) : String :=
  (if n < 0 then "-" else "") ++ mark ++ digits base n.natAbs

/-! ### Bytes -/

/-- The last `length` bytes of a number, the lowest first. -/
def lowBytes : (length : Nat) → Nat → List Nat
  | 0, _ => []
  | length + 1, n => n % 256 :: lowBytes length (n / 256)

/-- The number that bytes write, the lowest first. -/
def ofLowBytes : List Nat → Nat
  | [] => 0
  | b :: rest => b + 256 * ofLowBytes rest

/-- An integer as bytes, the lowest first, if `length` bytes are enough. Only with `signed` can it
be negative. -/
def toBytes? (length : Nat) (signed : Bool) (n : Int) : Option (List Nat) :=
  let size : Int := Int.pow 256 length
  let fits := if signed then -size ≤ 2 * n && 2 * n < size else 0 ≤ n && n < size
  if fits then some (lowBytes length (n.emod size).toNat) else none

/-- The integer that bytes write, the lowest first. -/
def ofBytes (signed : Bool) (bytes : List Nat) : Int :=
  let n := ofLowBytes bytes
  let size := Nat.pow 256 bytes.length
  if signed && size ≤ 2 * n then (n : Int) - size else n

end DocGuard.Integer
