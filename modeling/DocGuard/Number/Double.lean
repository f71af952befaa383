import DocGuard.Text.Digit
/-!
Floating point numbers of double width.

A finite number is a mantissa of at most 53 bits times a power of two. `nearest` rounds a fraction
to the number closest to it, the even mantissa deciding between two; reading a decimal text, and
every comparison with an integer, goes through the exact value. `text` is the shortest decimal that
reads back as the same number, and of these the closest.
-/

namespace DocGuard

/-- A floating point number. -/
inductive Double where
  | nan
  | infinite (negative : Bool)
  /-- The number `mantissa * 2 ^ exponent`, negated if `negative` holds. The mantissa has 53 bits
  unless the exponent is the least there is. -/
  | finite (negative : Bool) (mantissa : Nat) (exponent : Int)
deriving DecidableEq, Repr

namespace Double

/-- The least exponent. -/
def leastExponent : Int := -1074

/-- The greatest exponent. -/
def greatestExponent : Int := 971

/-- The fraction `num / den` divided by `2 ^ e`. -/
def scaled (num den : Nat) (e : Int) : Nat × Nat :=
  match e with
  | .ofNat n => (num, den * Nat.pow 2 n)
  | .negSucc n => (num * Nat.pow 2 (n + 1), den)

/-- The integer closest to a fraction, the even one of two. -/
def rounded (num den : Nat) : Nat :=
  let q := num / den
  let twice := 2 * (num % den)
  if twice < den then q
  else if twice = den then q + q % 2
  else q + 1

/-- The number closest to the fraction `num / den`. -/
def nearest (negative : Bool) (num den : Nat) : Double :=
  if num = 0 then .finite negative 0 leastExponent
  else
    let guess := max ((num.log2 : Int) - den.log2 - 53) leastExponent
    let whole (e : Int) : Nat := (scaled num den e).1 / (scaled num den e).2
    let e :=
      if whole guess < Nat.pow 2 53 then guess
      else if whole (guess + 1) < Nat.pow 2 53 then guess + 1
      else guess + 2
    let m := rounded (scaled num den e).1 (scaled num den e).2
    let (m, e) := if m = Nat.pow 2 53 then (Nat.pow 2 52, e + 1) else (m, e)
    if greatestExponent < e then .infinite negative else .finite negative m e

/-- The number closest to `digits * 10 ^ e`. -/
def ofDecimal (negative : Bool) (digits : Nat) (e : Int) : Double :=
  -- far outside the range the power itself need not be computed
  if 400 < e + (Nat.toDigits 10 digits).length then
    if digits = 0 then .finite negative 0 leastExponent else .infinite negative
  else match e with
    | .ofNat n => nearest negative (digits * Nat.pow 10 n) 1
    | .negSucc n =>
      if e < -1200 - (Nat.toDigits 10 digits).length then .finite negative 0 leastExponent
      else nearest negative digits (Nat.pow 10 (n + 1))

/-- The number closest to an integer. -/
def ofInt (n : Int) : Double :=
  nearest (n < 0) n.natAbs 1

/-! ### Reading -/

/-- The digits at the start of a text, where an underscore may stand between two of them, and what
follows. -/
def takeDigits (text : List Char) : List Char × List Char :=
  match text with
  | c :: '_' :: d :: rest =>
    if c.isDigit && d.isDigit then
      let (more, after) := takeDigits (d :: rest)
      (c :: more, after)
    else if c.isDigit then ([c], '_' :: d :: rest) else ([], text)
  | c :: rest =>
    if c.isDigit then
      let (more, after) := takeDigits rest
      (c :: more, after)
    else ([], text)
  | [] => ([], [])

/-- The sign at the start of a text, and what follows. -/
def takeSign : List Char → Bool × List Char
  | '-' :: rest => (true, rest)
  | '+' :: rest => (false, rest)
  | text => (false, text)

/-- The exponent that a text writes, which may be empty. -/
def exponentOf? : List Char → Option Int
  | [] => some 0
  | c :: rest =>
    if c = 'e' ∨ c = 'E' then
      let (negative, rest) := takeSign rest
      let (digits, after) := takeDigits rest
      if after.isEmpty then
        (Text.naturalOf? 10 digits).map fun n => if negative then -(n : Int) else n
      else none
    else none

/-- The number that a text without blanks and sign writes. -/
def ofUnsigned? (negative : Bool) (text : List Char) : Option Double :=
  let word := (String.ofList text).toLower
  if word = "inf" ∨ word = "infinity" then some (.infinite negative)
  else if word = "nan" then some .nan
  else
    let (whole, rest) := takeDigits text
    let (fraction, rest) := match rest with
      | '.' :: rest => takeDigits rest
      | rest => ([], rest)
    if whole.isEmpty && fraction.isEmpty then none
    else do
      let e ← exponentOf? rest
      let digits ← Text.naturalOf? 10 (whole ++ fraction)
      return ofDecimal negative digits (e - fraction.length)

/-- The number that a text writes. -/
def ofText? (text : String) : Option Double :=
  let (negative, rest) := takeSign (Text.trimmed (Text.plainDigits text.toList))
  ofUnsigned? negative rest

/-! ### Comparing -/

/-- The number is zero. -/
def isZero : Double → Bool
  | finite _ m _ => m == 0
  | _ => false

/-- The two are equal as numbers. -/
def equal : Double → Double → Bool
  | nan, _ => false
  | finite s m e, finite t n f => (m == 0 && n == 0) || (s == t && m == n && e == f)
  | a, b => a == b

/-- A finite number in units of `2 ^ leastExponent`, of which it is a whole multiple. -/
def units (negative : Bool) (mantissa : Nat) (exponent : Int) : Int :=
  let size := mantissa * Nat.pow 2 (exponent - leastExponent).toNat
  if negative then -(size : Int) else size

/-- The first number is less than the second. -/
def less : Double → Double → Bool
  | nan, _ | _, nan => false
  | infinite s, infinite t => s && !t
  | infinite s, finite _ _ _ => s
  | finite _ _ _, infinite t => !t
  | finite s m e, finite t n f => units s m e < units t n f

/-- The integer is less than the number. -/
def aboveInt (n : Int) : Double → Bool
  | nan => false
  | infinite negative => !negative
  | finite s m e => n * Int.pow 2 leastExponent.natAbs < units s m e

/-- The number is less than the integer. -/
def belowInt (n : Int) : Double → Bool
  | nan => false
  | infinite negative => negative
  | finite s m e => units s m e < n * Int.pow 2 leastExponent.natAbs

/-- The integer that the number is, if it is one. -/
def toInt? : Double → Option Int
  | finite negative m e =>
    let size := match e with
      | .ofNat n => some (m * Nat.pow 2 n)
      | .negSucc n => if m % Nat.pow 2 (n + 1) = 0 then some (m / Nat.pow 2 (n + 1)) else none
    size.map fun n => if negative then -(n : Int) else n
  | _ => none

/-- The number without its fraction. -/
def truncated? : Double → Option Int
  | finite negative m e =>
    let size : Nat := match e with
      | .ofNat n => m * Nat.pow 2 n
      | .negSucc n => m / Nat.pow 2 (n + 1)
    some (if negative then -(size : Int) else size)
  | _ => none

/-! ### Writing -/

/-- The digits and the exponent of the closest decimals of `places` digits below and above a
positive number: `digits * 10 ^ e`. -/
def decimals (mantissa : Nat) (exponent : Int) (places : Nat) : List (Nat × Int) :=
  let (num, den) := scaled mantissa 1 (-exponent)
  -- the power of ten of the last of the digits, which may at first be one too low
  let shifted (e : Int) : Nat × Nat := match e with
    | .ofNat n => (num, den * Nat.pow 10 n)
    | .negSucc n => (num * Nat.pow 10 (n + 1), den)
  let low := (((num.log2 : Int) - den.log2 - 1) * 30103).fdiv 100000 - places
  let fits (e : Int) : Bool := (shifted e).1 / (shifted e).2 < Nat.pow 10 places
  let e := (((List.range 5).map fun (i : Nat) => low + i).find? fits).getD (low + 5)
  let (n, d) := shifted e
  let q := n / d
  if 2 * (n % d) < d ∨ (2 * (n % d) = d ∧ q % 2 = 0) then [(q, e), (q + 1, e)]
  else [(q + 1, e), (q, e)]

/-- The shortest decimal that is closer to a positive number than to any other, and of these the
closest. -/
def shortest (mantissa : Nat) (exponent : Int) : Nat × Int :=
  let all := (List.range 17).flatMap fun i => decimals mantissa exponent (i + 1)
  (all.find? fun (digits, e) => ofDecimal false digits e == .finite false mantissa exponent).getD
    (mantissa, 0)

/-- Digits without the zeros at their end, and how many these were. -/
def strip (digits : List Char) : List Char × Nat :=
  let zeros := (digits.reverse.takeWhile (· == '0')).length
  (digits.take (digits.length - zeros), zeros)

/-- A positive decimal as text: plainly if it is neither too small nor too large, else with an
exponent. -/
def decimalText (digits : Nat) (e : Int) : String :=
  let (ds, zeros) := strip (Nat.toDigits 10 digits)
  -- the place of the point, counted from the first digit
  let point := e + zeros + ds.length
  if -4 < point ∧ point ≤ 16 then
    if point ≤ 0 then
      "0." ++ String.ofList (List.replicate point.natAbs '0' ++ ds)
    else
      let whole := ds.take point.toNat
      let filled := whole ++ List.replicate (point.toNat - whole.length) '0'
      let fraction := ds.drop point.toNat
      String.ofList filled ++ "." ++ (if fraction.isEmpty then "0" else String.ofList fraction)
  else
    let mantissa := match ds with
      | [d] => String.ofList [d]
      | d :: rest => String.ofList (d :: '.' :: rest)
      | [] => ""
    let size := toString (point - 1).natAbs
    mantissa ++ "e" ++ (if point - 1 < 0 then "-" else "+")
      ++ (if size.length < 2 then "0" ++ size else size)

/-- The shortest text that reads back as the same number. -/
def text : Double → String
  | nan => "nan"
  | infinite negative => if negative then "-inf" else "inf"
  | finite negative m e =>
    let size := if m = 0 then "0.0" else
      let (digits, e) := shortest m e
      decimalText digits e
    if negative then "-" ++ size else size

end Double

end DocGuard
