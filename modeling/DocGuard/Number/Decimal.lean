import DocGuard.Number.Arithmetic
/-!
Numbers written with a given number of digits.

A finite number has exactly one closest decimal with so many digits behind the point; a tie goes to
the even digit. Digits can be written plainly, with an exponent, or in whichever of the two ways is
shorter; and they can be written to the base of sixteen without loss.
-/

namespace DocGuard.Double

/-- Zeros. -/
def zeros (n : Nat) : String :=
  String.ofList (List.replicate n '0')

/-- The digits of a number, at least `n` of them. -/
def digitsOf (n size : Nat) : String :=
  let digits := toString size
  zeros (n - digits.length) ++ digits

/-- The size of a finite number as a fraction. -/
def fraction : Double → Nat × Nat
  | finite _ m e => scaled m 1 (-e)
  | _ => (0, 1)

/-- The size with `places` digits behind the point. The point is written if there are such digits,
or always if `pointed` holds. -/
def fixedText (places : Nat) (pointed : Bool) (d : Double) : String :=
  let (num, den) := d.fraction
  let all := digitsOf (places + 1) (rounded (num * Nat.pow 10 places) den)
  let whole := (all.take (all.length - places)).toString
  let rest := (all.drop (all.length - places)).toString
  whole ++ (if places = 0 && !pointed then "" else ".") ++ rest

/-- The `n` first digits of the size, and the power of ten of the first of them. -/
def firstDigits (n : Nat) (d : Double) : String × Int :=
  let (num, den) := d.fraction
  if num = 0 then (zeros n, 0)
  else
    -- the power of the last digit, which may be one too low or, after rounding, too high
    let at_ (e : Int) : Nat := match e with
      | .ofNat k => rounded num (den * Nat.pow 10 k)
      | .negSucc k => rounded (num * Nat.pow 10 (k + 1)) den
    let low := (((num.log2 : Int) - den.log2 - 1) * 30103).fdiv 100000 - n
    let e := (((List.range 6).map fun (i : Nat) => low + i).find? fun e => at_ e < Nat.pow 10 n).getD low
    (digitsOf n (at_ e), e + n - 1)

/-- A power of ten as it is written behind a number. -/
def exponentText (e : Int) : String :=
  (if e < 0 then "-" else "+") ++ digitsOf 2 e.natAbs

/-- Digits with a point behind the first `n` of them, if any follow or the point is always
written. -/
def pointAfter (n : Nat) (pointed : Bool) (digits : String) : String :=
  let rest := (digits.drop n).toString
  (digits.take n).toString ++ (if rest.isEmpty && !pointed then "" else ".") ++ rest

/-- The size with `places` digits behind the point and an exponent. -/
def scientificText (places : Nat) (pointed : Bool) (d : Double) : String :=
  let (digits, e) := d.firstDigits (places + 1)
  pointAfter 1 pointed digits ++ "e" ++ exponentText e

/-- The digits without the zeros at their end. -/
def withoutZeros (digits : String) : String :=
  String.ofList ((digits.toList.reverse.dropWhile (· == '0')).reverse)

/-- Digits of which the first has the power of ten `e`: plainly if that is not too large or too
small, else with an exponent. `most` is the number of digits before the point up to which they are
written plainly. Without a fraction, ".0" is added to plain digits if `whole` holds. -/
def generalDigits (most : Int) (pointed whole : Bool) (digits : String) (e : Int) : String :=
  if -4 ≤ e ∧ e < most then
    if e < 0 then "0." ++ zeros (e.natAbs - 1) ++ digits
    else
      let n := e.toNat + 1
      let filled := digits ++ zeros (n - digits.length)
      let text := pointAfter n pointed filled
      if whole && filled.length = n then
        (if pointed then text ++ "0" else text ++ ".0")
      else text
  else pointAfter 1 pointed digits ++ "e" ++ exponentText e

/-- The size with `n` digits in all: plainly, or with an exponent if it is large or small. Zeros at
the end are left out unless `pointed` holds. -/
def generalText (n : Nat) (pointed whole : Bool) (d : Double) : String :=
  let n := max n 1
  let (digits, e) := d.firstDigits n
  let kept := if pointed then digits else
    let short := withoutZeros digits
    if short.isEmpty then "0" else short
  -- a number that is always to show a fraction gives one place up for it
  generalDigits (if whole then (n : Int) - 1 else n) pointed whole kept e

/-! ### The base of sixteen -/

/-- A hexadecimal digit. -/
def hexDigit (n : Nat) : Char :=
  Nat.digitChar n

/-- The number to the base of sixteen, with an exponent to the base of two. -/
def hexText : Double → String
  | nan => "nan"
  | infinite negative => if negative then "-inf" else "inf"
  | finite negative m e =>
    let sign := if negative then "-" else ""
    if m = 0 then sign ++ "0x0.0p+0"
    else
      let fraction := m % Nat.pow 2 52
      let digits := (List.range 13).map fun i => hexDigit (fraction / Nat.pow 16 (12 - i) % 16)
      let power := e + 52
      sign ++ "0x" ++ toString (m / Nat.pow 2 52) ++ "." ++ String.ofList digits ++ "p"
        ++ (if power < 0 then "-" else "+") ++ toString power.natAbs

/-- Hexadecimal digits at the beginning of a text, and what follows. -/
def takeHex (text : List Char) : List Nat × List Char :=
  ((text.takeWhile fun c => (Text.placeValue? c).any (· < 16)).filterMap Text.placeValue?,
    text.dropWhile fun c => (Text.placeValue? c).any (· < 16))

/-- The power of two that a text writes, which may be empty. -/
def powerOf? : List Char → Option Int
  | [] => some 0
  | c :: rest =>
    if c = 'p' ∨ c = 'P' then
      let (negative, digits) := takeSign rest
      if digits.isEmpty || !digits.all Char.isDigit then none
      else (Text.naturalOf? 10 digits).map fun n => if negative then -(n : Int) else n
    else none

/-- The number that a text writes to the base of sixteen. -/
def ofHexText? (text : String) : Option Double :=
  let (negative, rest) := takeSign (Text.trimmed text.toList)
  let word := (String.ofList rest).toLower
  if word = "inf" ∨ word = "infinity" then some (infinite negative)
  else if word = "nan" then some nan
  else
    let rest := match rest with
      | '0' :: c :: more => if c = 'x' ∨ c = 'X' then more else rest
      | _ => rest
    let (whole, rest) := takeHex rest
    let (part, rest) := match rest with
      | '.' :: rest => takeHex rest
      | rest => ([], rest)
    if whole.isEmpty && part.isEmpty then none
    else do
      let e ← powerOf? rest
      let size := (whole ++ part).foldl (fun n d => n * 16 + d) 0
      let e := e - 4 * part.length
      -- far outside the range the power itself need not be computed
      if size = 0 then return zero negative
      else if 2000 < e then return infinite negative
      else if e < -2000 - 4 * (whole.length + part.length) then return zero negative
      else return ofScaled negative size e

end DocGuard.Double
