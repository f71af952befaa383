import DocGuard.Text.Blank
/-!
Decimal digits.

Numbers may be written with the decimal digits of any script. `digit?` is the value of such a
digit, and `plainDigits` writes a text with the ASCII digits and the space in place of the others.
-/

namespace DocGuard.Text

/-- The code points of the zeros. Each begins a run of ten digits. -/
def zeros : List Nat :=
  [0x30, 0x660, 0x6f0, 0x7c0, 0x966, 0x9e6, 0xa66, 0xae6, 0xb66, 0xbe6, 0xc66, 0xce6, 0xd66, 0xde6,
   0xe50, 0xed0, 0xf20, 0x1040, 0x1090, 0x17e0, 0x1810, 0x1946, 0x19d0, 0x1a80, 0x1a90, 0x1b50,
   0x1bb0, 0x1c40, 0x1c50, 0xa620, 0xa8d0, 0xa900, 0xa9d0, 0xa9f0, 0xaa50, 0xabf0, 0xff10, 0x104a0,
   0x10d30, 0x11066, 0x110f0, 0x11136, 0x111d0, 0x112f0, 0x11450, 0x114d0, 0x11650, 0x116c0,
   0x11730, 0x118e0, 0x11950, 0x11c50, 0x11d50, 0x11da0, 0x16a60, 0x16ac0, 0x16b50, 0x1d7ce,
   0x1d7d8, 0x1d7e2, 0x1d7ec, 0x1d7f6, 0x1e140, 0x1e2f0, 0x1e950, 0x1fbf0]

/-- The value of a decimal digit. -/
def digit? (c : Char) : Option Nat :=
  (zeros.find? fun first => first ≤ c.toNat && c.toNat < first + 10).map (c.toNat - ·)

/-- The value of an ASCII letter or decimal digit as a digit to a base of up to 36. -/
def placeValue? (c : Char) : Option Nat :=
  if c.isDigit then some (c.toNat - '0'.toNat)
  else if c.isLower then some (c.toNat - 'a'.toNat + 10)
  else if c.isUpper then some (c.toNat - 'A'.toNat + 10)
  else none

/-- The text with the ASCII digit or the space for each digit and each blank. -/
def plainDigits (text : List Char) : List Char :=
  text.map fun c =>
    if isBlank c then ' '
    else match digit? c with
      | some n => Char.ofNat ('0'.toNat + n)
      | none => c

/-- The number that decimal digits write, if a text is nothing else. -/
def decimalOf? (text : List Char) : Option Nat :=
  match text with
  | [] => none
  | text => text.foldlM (fun n c => (digit? c).map (10 * n + ·)) 0

/-- The text without the blanks at both ends. -/
def trimmed (text : List Char) : List Char :=
  ((text.dropWhile isBlank).reverse.dropWhile isBlank).reverse

/-- The number that a run of digits writes to a base. An underscore may stand between two digits. -/
def naturalOf? (base : Nat) (text : List Char) : Option Nat :=
  go none text
where
  /-- Reads on after a digit, if `read` holds what was read, or else where a digit has to come. -/
  go (read : Option Nat) : List Char → Option Nat
    | [] => read
    | '_' :: c :: rest =>
      match read, (placeValue? c).filter (· < base) with
      | some n, some d => go (some (n * base + d)) rest
      | _, _ => none
    | c :: rest =>
      match (placeValue? c).filter (· < base) with
      | some d => go (some (read.getD 0 * base + d)) rest
      | none => none

end DocGuard.Text
