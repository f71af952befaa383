import DocGuard.Text.Quoted
/-!
Text as bytes.

An encoding writes each character as some bytes, or cannot write it; it reads characters from bytes,
or finds bytes that it cannot read. `Encoding.charBytes?` and `Encoding.decode` say which. What
becomes of a character or of bytes that do not fit is told by `Misfit`.
-/

namespace DocGuard.Text

/-- A way to write text as bytes. -/
inductive Encoding where
  | ascii
  /-- One byte for each of the first 256 characters. -/
  | latin
  /-- One byte for each of the first 256 characters, but for some signs in place of what is without
  a sign among them. -/
  | western
  /-- One to four bytes for each character; with a mark at the beginning if `marked` holds. -/
  | utf8 (marked : Bool)
  /-- Units of two bytes if `wide` does not hold, else of four. The lowest byte comes first, or the
  highest, or a mark at the beginning tells which. -/
  | units (wide : Bool) (lowFirst : Option Bool)
deriving DecidableEq, Repr

namespace Encoding

/-- The names of the encodings, without what parts their words. -/
def names : List (String × Encoding) :=
  [("utf8", .utf8 false), ("u8", .utf8 false), ("utf", .utf8 false), ("cp65001", .utf8 false),
   ("utf8ucs2", .utf8 false), ("utf8ucs4", .utf8 false), ("utf8sig", .utf8 true),
   ("ascii", .ascii), ("usascii", .ascii), ("646", .ascii), ("us", .ascii), ("cp367", .ascii),
   ("iso646us", .ascii), ("ibm367", .ascii), ("ansix3.41968", .ascii),
   ("latin1", .latin), ("iso88591", .latin), ("latin", .latin), ("l1", .latin),
   ("88591", .latin), ("8859", .latin), ("cp819", .latin), ("iso8859", .latin),
   ("ibm819", .latin), ("cp1252", .western), ("1252", .western), ("windows1252", .western),
   ("utf16", .units false none), ("u16", .units false none), ("utf16le", .units false (some true)),
   ("utf16be", .units false (some false)),
   ("utf32", .units true none), ("u32", .units true none), ("utf32le", .units true (some true)),
   ("utf32be", .units true (some false))]

/-- The encoding of a name. -/
def ofName? (name : String) : Option Encoding :=
  let plain := (name.toList.map Char.toLower).filter fun c => !"-_ ".toList.contains c
  names.lookup (String.ofList plain)

/-- The bytes of a number, the lowest first, in this many bytes. -/
def unitBytes (lowFirst : Bool) (size n : Nat) : List Nat :=
  let low := (List.range size).map fun (i : Nat) => n / Nat.pow 256 i % 256
  if lowFirst then low else low.reverse

/-- A character in one to four bytes. -/
def shortBytes (n : Nat) : List Nat :=
  if n < 0x80 then [n]
  else if n < 0x800 then [0xc0 + n / 0x40, 0x80 + n % 0x40]
  else if n < 0x10000 then [0xe0 + n / 0x1000, 0x80 + n / 0x40 % 0x40, 0x80 + n % 0x40]
  else [0xf0 + n / 0x40000, 0x80 + n / 0x1000 % 0x40, 0x80 + n / 0x40 % 0x40, 0x80 + n % 0x40]

/-- The signs that `western` writes as the bytes from 128 to 159; no sign is zero. -/
def westernSigns : List Nat :=
  [0x20ac, 0, 0x201a, 0x192, 0x201e, 0x2026, 0x2020, 0x2021, 0x2c6, 0x2030, 0x160, 0x2039, 0x152, 0,
   0x17d, 0, 0, 0x2018, 0x2019, 0x201c, 0x201d, 0x2022, 0x2013, 0x2014, 0x2dc, 0x2122, 0x161,
   0x203a, 0x153, 0, 0x17e, 0x178]

/-- The byte that `western` writes for a character. -/
def westernByte? (n : Nat) : Option Nat :=
  if n < 0x80 || (0xa0 ≤ n && n < 0x100) then some n
  else (westernSigns.findIdx? (· == n)).map (· + 0x80)

/-- The bytes of a character, if it can be written. -/
def charBytes? (e : Encoding) (c : Char) : Option (List Nat) :=
  let n := c.toNat
  match e with
  | .ascii => if n < 0x80 then some [n] else none
  | .latin => if n < 0x100 then some [n] else none
  | .western => (westernByte? n).map ([·])
  | .utf8 _ => some (shortBytes n)
  | .units true order => some (unitBytes (order.getD true) 4 n)
  | .units false order =>
    let unit := unitBytes (order.getD true) 2
    if n < 0x10000 then some (unit n)
    else
      let m := n - 0x10000
      some (unit (0xd800 + m / 0x400) ++ unit (0xdc00 + m % 0x400))

/-- What is written before all characters. -/
def mark : Encoding → List Nat
  | .utf8 true => [0xef, 0xbb, 0xbf]
  | .units false none => [0xff, 0xfe]
  | .units true none => [0xff, 0xfe, 0, 0]
  | _ => []

/-- What is read from some bytes: a character, or bytes that cannot be read. -/
inductive Reading where
  | char (c : Char)
  | unreadable (bytes : List Nat)

/-- The number that a unit writes. -/
def unitValue (lowFirst : Bool) (bytes : List Nat) : Nat :=
  (if lowFirst then bytes.reverse else bytes).foldl (fun n b => n * 256 + b) 0

/-- Where the second of several bytes has to lie, and how many bytes follow the first. -/
def following? (first : Nat) : Option (Nat × Nat × Nat) :=
  if 0xc2 ≤ first && first ≤ 0xdf then some (0x80, 0xbf, 1)
  else if first == 0xe0 then some (0xa0, 0xbf, 2)
  else if first == 0xed then some (0x80, 0x9f, 2)
  else if 0xe1 ≤ first && first ≤ 0xef then some (0x80, 0xbf, 2)
  else if first == 0xf0 then some (0x90, 0xbf, 3)
  else if 0xf1 ≤ first && first ≤ 0xf3 then some (0x80, 0xbf, 3)
  else if first == 0xf4 then some (0x80, 0x8f, 3)
  else none

/-- The bytes at the beginning that go on a character; the first lies between `low` and `high`. -/
def continuing (low high : Nat) : (n : Nat) → List Nat → List Nat
  | n + 1, b :: rest => if low ≤ b && b ≤ high then b :: continuing 0x80 0xbf n rest else []
  | _, _ => []

/-- What the first of some bytes is read as, and how many bytes it takes. -/
def readShort (first : Nat) (rest : List Nat) : Reading × Nat :=
  if first < 0x80 then (.char (Char.ofNat first), 1)
  else match following? first with
    | none => (.unreadable [first], 1)
    | some (low, high, n) =>
      let more := continuing low high n rest
      if more.length = n then
        let start := if n = 1 then first - 0xc0 else if n = 2 then first - 0xe0 else first - 0xf0
        (.char (Char.ofNat (more.foldl (fun m b => m * 0x40 + (b - 0x80)) start)), n + 1)
      else (.unreadable (first :: more), more.length + 1)

/-- What the first unit among some bytes is read as, and how many bytes it takes. -/
def readUnit (wide lowFirst : Bool) (bytes : List Nat) : Reading × Nat :=
  let size := if wide then 4 else 2
  let unit (at_ : Nat) : Nat := unitValue lowFirst ((bytes.drop at_).take size)
  let n := unit 0
  if bytes.length < size then (.unreadable bytes, bytes.length)
  else if 0xd800 ≤ n && n < 0xdc00 && !wide then
    let m := unit 2
    if bytes.length < 4 then (.unreadable bytes, bytes.length)
    else if 0xdc00 ≤ m && m < 0xe000 then
      (.char (Char.ofNat (0x10000 + (n - 0xd800) * 0x400 + (m - 0xdc00))), 4)
    else (.unreadable (bytes.take 2), 2)
  else if n < 0x110000 && !(0xd800 ≤ n && n < 0xe000) then (.char (Char.ofNat n), size)
  else (.unreadable (bytes.take size), size)

/-- What the first of some bytes are read as, and how many bytes it takes. -/
def readFirst (e : Encoding) (first : Nat) (rest : List Nat) : Reading × Nat :=
  match e with
  | .ascii => (if first < 0x80 then .char (Char.ofNat first) else .unreadable [first], 1)
  | .latin => (.char (Char.ofNat first), 1)
  | .western =>
    let n := if 0x80 ≤ first && first < 0xa0 then westernSigns.getD (first - 0x80) 0 else first
    (if n = 0 && first != 0 then .unreadable [first] else .char (Char.ofNat n), 1)
  | .utf8 _ => readShort first rest
  | .units wide order => readUnit wide (order.getD true) (first :: rest)

/-- What bytes are read as, in at most `n` pieces. -/
def readAll (e : Encoding) : (n : Nat) → List Nat → List Reading
  | n + 1, first :: rest =>
    let (reading, size) := readFirst e first rest
    reading :: readAll e n (rest.drop (size - 1))
  | _, _ => []

/-- What bytes are read as. -/
def decode (e : Encoding) (bytes : List Nat) : List Reading :=
  let after (n : Nat) : List Nat := bytes.drop n
  let go (e : Encoding) (bytes : List Nat) : List Reading := readAll e bytes.length bytes
  match e with
  | .utf8 true => go e (if bytes.take 3 == e.mark then after 3 else bytes)
  | .units wide none =>
    let size := if wide then 4 else 2
    let low := e.mark
    if bytes.take size == low then go (.units wide (some true)) (after size)
    else if bytes.take size == low.reverse then go (.units wide (some false)) (after size)
    else go (.units wide (some true)) bytes
  | e => go e bytes

end Encoding

/-- What becomes of what does not fit an encoding. -/
inductive Misfit where
  | refused
  | dropped
  /-- A sign stands for it. -/
  | marked
  /-- Its number is written behind a backslash. -/
  | numbered
  /-- Its number is written as a reference. -/
  | referred
deriving DecidableEq, Repr

namespace Misfit

/-- The way of a name. -/
def ofName? (name : String) : Option Misfit :=
  match name with
  | "strict" | "surrogateescape" | "surrogatepass" => some refused
  | "ignore" => some dropped
  | "replace" => some marked
  | "backslashreplace" => some numbered
  | "xmlcharrefreplace" => some referred
  | _ => none

/-- The characters written for one that does not fit. -/
def forChar? (m : Misfit) (c : Char) : Option (List Char) :=
  match m with
  | refused => none
  | dropped => some []
  | marked => some ['?']
  | numbered => some (DocGuard.Text.numbered c)
  | referred => some (("&#" ++ toString c.toNat ++ ";").toList)

/-- The characters read for bytes that cannot be read. -/
def forBytes? (m : Misfit) (bytes : List Nat) : Option (List Char) :=
  match m with
  | dropped => some []
  | marked => some [Char.ofNat 0xfffd]
  | numbered => some (bytes.flatMap fun b => '\\' :: 'x' :: hexDigits 2 b)
  | _ => none

end Misfit

end DocGuard.Text
