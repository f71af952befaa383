import DocGuard.Program.Member.Text
/-!
What the members of the classes of bytes do.

Bytes are handled as the codes that they hold. Those that can be changed share most members with
those that cannot; what a member makes is of the class that it belongs to. Letters are those of
ASCII.
-/

namespace DocGuard

/-- Bytes with these codes, of the builtin class `owner`. -/
def newCodes (owner : String) (codes : List Char) : Run Value := do
  let mark ← Run.newMark
  Run.changeContent mark (.str mark (String.ofList codes))
  return .object mark (.builtin owner)

/-- Bytes with these codes in a list. -/
def newCodesList (owner : String) (pieces : List (List Char)) : Run Value := do
  Run.newList (← pieces.mapM (newCodes owner))

/-- The code is a blank. -/
def isBlankCode (c : Char) : Bool :=
  c == ' ' || (9 ≤ c.toNat && c.toNat ≤ 13)

/-- The code ends a line. -/
def isBreakCode (c : Char) : Bool :=
  c == '\n' || c == '\r'

/-- The lines that codes hold, each with the break that ends it. -/
def codeLines : List Char → List (List Char)
  | [] => []
  | c :: rest =>
    if isBreakCode c && !(c == '\r' && rest.head? == some '\n') then [c] :: codeLines rest
    else match codeLines rest with
      | [] => [[c]]
      | line :: more => (c :: line) :: more

/-- Large letters begin words, and small ones stand inside; `inside` tells whether what stands
before the codes is a letter. -/
def codesInTitleOrder (inside : Bool) : List Char → Bool
  | [] => true
  | c :: rest =>
    if c.isUpper then !inside && codesInTitleOrder true rest
    else if c.isLower then inside && codesInTitleOrder true rest
    else codesInTitleOrder false rest

/-- Codes with a large letter at the beginning of each word. -/
def titledCodes (inside : Bool) : List Char → List Char
  | [] => []
  | c :: rest => (if inside then c.toLower else c.toUpper) :: titledCodes c.isAlpha rest

/-- What a member tells about the kinds of some codes, if it tells such a thing. -/
def codesAre? (name : String) (codes : List Char) : Option Bool :=
  match name with
  | "isalnum" => some (Text.eachIs Char.isAlphanum codes)
  | "isalpha" => some (Text.eachIs Char.isAlpha codes)
  | "isascii" => some (codes.all (·.toNat < 0x80))
  | "isdigit" => some (Text.eachIs Char.isDigit codes)
  | "isspace" => some (Text.eachIs isBlankCode codes)
  | "islower" => some (codes.any Char.isLower && !codes.any Char.isUpper)
  | "isupper" => some (codes.any Char.isUpper && !codes.any Char.isLower)
  | "istitle" => some (codes.any Char.isAlpha && codesInTitleOrder false codes)
  | _ => none

/-- The codes in other letters, if a member makes such codes. -/
def codesInLetters? (name : String) (codes : List Char) : Option (List Char) :=
  match name with
  | "upper" => some (codes.map Char.toUpper)
  | "lower" => some (codes.map Char.toLower)
  | "title" => some (titledCodes false codes)
  | "capitalize" =>
    some (match codes with
      | [] => []
      | c :: rest => c.toUpper :: rest.map Char.toLower)
  | "swapcase" =>
    some (codes.map fun c => if c.isUpper then c.toLower else c.toUpper)
  | _ => none

/-- The codes of a value that is bytes, or the one code that an integer is. -/
def codesOrCode (call : Call) (v : Value) : Run (List Char) := do
  let s ← Run.store
  match s.bytesOf? v, s.special? v "__index__" with
  | some codes, _ => return codes
  | none, some _ => do return [← codeOf call v]
  | none, none => throw .badCall

/-- The text of codes to the base of sixteen, with a sign between groups of some size, which are
counted from the end, or from the start if the size is negative. -/
def hexOf (codes : List Char) (sign : Option Char) (size : Int) : List Char :=
  let pairs := codes.map fun c => Text.hexDigits 2 c.toNat
  match sign with
  | none => pairs.flatten
  | some sign =>
    if size = 0 then pairs.flatten
    else
      let n := size.natAbs
      let parts (i : Nat) : Bool :=
        if size < 0 then i % n == 0 else (pairs.length - i) % n == 0
      (pairs.zipIdx.map fun (pair, i) => if i != 0 && parts i then sign :: pair else pair).flatten

/-- What a digit to the base of sixteen stands for. -/
def hexValue? (c : Char) : Option Nat :=
  (Text.placeValue? c).filter (· < 16)

/-- The codes that a text writes to the base of sixteen, or the place of the first character that
does not fit; the text begins at `place`. Blanks may stand between the codes. -/
def codesOfHex (place : Nat) : List Char → Except Nat (List Char)
  | [] => .ok []
  | [c] => if isBlankCode c then .ok [] else .error (place + (hexValue? c).toList.length)
  | c :: d :: rest =>
    if isBlankCode c then codesOfHex (place + 1) (d :: rest)
    else
      match hexValue? c, hexValue? d with
      | none, _ => .error place
      | some _, none => .error (place + 1)
      | some high, some low => do
        return Char.ofNat (high * 16 + low) :: (← codesOfHex (place + 2) rest)

/-- The codes that are taken away at the ends. -/
def codesDroppedBy (v : Option Value) : Run (Char → Bool) := do
  match v with
  | none | some .none => return isBlankCode
  | some v => do return (← bytesIn v).contains

/-- The one code of a value that has to be such bytes. -/
def requireCode (v : Option Value) (otherwise : Char) : Run Char := do
  match v with
  | none => return otherwise
  | some v =>
    match ← bytesIn v with
    | [c] => return c
    | _ => throw .badCall

/-- The character that stands between groups of digits: a text or bytes of one of the first 128. -/
def signOf (call : Call) (v : Value) : Run Char := do
  match ← lengthOf? call v with
  | none => throw .badCall
  | some 1 =>
    let s ← Run.store
    let held := if s.isOf "bytes" v then s.bytesHeld? v else s.textOf? v
    match held.map String.toList with
    | some [c] => if c.toNat < 0x80 then return c else throw (.badValue "sep must be ASCII.")
    | _ => throw .badCall
  | some _ => throw (.badValue "sep must be length 1.")

/-- What a member of a class of bytes does that leaves the bytes as they are. -/
def fixedBytesMember (call : Call) (owner name : String) (v : Value) (codes : List Char)
    (args : Fitted) : Run Value := do
  let new := newCodes owner
  match codesAre? name codes, codesInLetters? name codes, args with
  | some b, _, [] => return .bool b
  | _, some codes, [] => new codes
  | _, _, args =>
    match name, args with
    | "strip", args | "lstrip", args | "rstrip", args => do
      new (strippedBy name (← codesDroppedBy (args.at? 0)) codes)
    | "center", some width :: _ | "ljust", some width :: _ | "rjust", some width :: _ => do
      let width ← sizeOf call width
      let fill ← requireCode (args.at? 1) ' '
      new (filledBy name (← requireWidth width) fill codes)
    | "zfill", [some width] => do new (Text.filledWithZeros (← widthOf call width) codes)
    | "expandtabs", args => do
      let width ← match args.at? 0 with
        | none => pure 8
        | some v => sizeOf call v
      new (Text.tabsFilled width.toNat 0 codes)
    | "find", some part :: rest | "rfind", some part :: rest | "index", some part :: rest
    | "rindex", some part :: rest | "count", some part :: rest => do
      if 2 < rest.length then throw .badCall
      let start ← boundOf? call (args.at? 1)
      let stop ← boundOf? call (args.at? 2)
      placeTold name "subsection not found" (← codesOrCode call part) codes start stop
    | "startswith", some part :: rest | "endswith", some part :: rest => do
      if 2 < rest.length then throw .badCall
      let start ← boundOf? call (args.at? 1)
      let stop ← boundOf? call (args.at? 2)
      let s ← Run.store
      let parts ← if s.isOf "tuple" part then (s.itemsOf part).mapM bytesIn
        else do pure [← bytesIn part]
      return .bool (meetsEnd (name == "startswith") codes start stop parts)
    | "replace", some old :: some fresh :: _ => do
      let old ← bytesIn old
      let fresh ← bytesIn fresh
      let times ← timesOf call (args.at? 2)
      new (Text.replaced old fresh (times.getD (codes.length + 1)) codes)
    | "split", args | "rsplit", args => do
      let times ← timesOf call (args.at? 1)
      let part ← match args.at? 0 with
        | none | some .none => pure none
        | some v => do pure (some (← bytesIn v))
      newCodesList owner (← piecesOf isBlankCode (name == "rsplit") part times codes)
    | "splitlines", args => do
      let kept ← match args.at? 0 with
        | none => pure 0
        | some v => sizeOf call v
      newCodesList owner (linesOf isBreakCode (kept != 0) (codeLines codes))
    | "partition", [some part] | "rpartition", [some part] => do
      let part ← bytesIn part
      if part.isEmpty then throw (.badValue "empty separator")
      -- bytes that cannot change and are not parted stay what they are
      let given (piece : List Char) : Run Value :=
        if owner == "bytes" && piece.length = codes.length && !codes.isEmpty then return v
        else new piece
      Run.newTuple (← (parted (name == "rpartition") part codes).mapM given)
    | "removeprefix", [some part] => do
      let part ← bytesIn part
      new (if part.isPrefixOf codes then codes.drop part.length else codes)
    | "removesuffix", [some part] => do
      let part ← bytesIn part
      new (if part.isSuffixOf codes then codes.take (codes.length - part.length) else codes)
    | "join", [some parts] => do
      new (Text.joined codes (← (← itemsListed call parts).mapM bytesIn))
    | "translate", some table :: _ => do
      let table ← if table.isAbsent then pure none else do pure (some (← bytesIn table).toArray)
      if table.any fun table => table.size != 256 then
        throw (.badValue "translation table must be 256 characters long")
      let dropped ← match args.at? 1 with
        | none => pure []
        | some v => bytesIn v
      let kept := codes.filter fun c => !dropped.contains c
      new (match table with
        | none => kept
        | some table => kept.map fun c => table.getD c.toNat c)
    | "decode", args => do
      let (e, m) ← encodingAnd (args.at? 0) (args.at? 1)
      newTextOf (← decoded e m codes)
    | "hex", args => do
      let size ← match args.at? 1 with
        | none => pure 1
        | some v => sizeOf call v
      newTextOf (hexOf codes (← (args.at? 0).mapM (signOf call)) size)
    | "__add__", [some other] => do new (codes ++ (← bytesIn other))
    | "__mul__", [some times] | "__rmul__", [some times] => do new (← repeated call codes times)
    | "__mod__", [some given] => do new (← filledByPercent call true codes given)
    | "__rmod__", [some template] =>
      match (← Run.store).isOf owner template with
      | true => do newCodes owner (← filledByPercent call true (← bytesIn template) v)
      | false => return .noAnswer
    | "__getitem__", [some at_] => do
      match ← subscripted call codes at_ with
      | .inl c => Run.newInt c.toNat
      | .inr codes => new codes
    | "__contains__", [some part] => do
      return .bool (Text.place? (← codesOrCode call part) codes).isSome
    | "__bytes__", [] => newBytes codes
    | "copy", [] => new codes
    | "__getnewargs__", [] => do Run.newTuple [← newBytes codes]
    | "__sizeof__", [] => Run.newInt (33 + codes.length : Nat)
    | "__alloc__", [] => Run.newInt (codes.length + 1 : Nat)
    | _, _ => throw .badCall

/-- What a member of the class of bytes that can be changed does with them. -/
def changingBytesMember (call : Call) (name : String) (v : Value) (args : Fitted) :
    Run Value := do
  let codes ← bytesIn v
  let keep (codes : List Char) : Run Value := do
    setContent v (.str 0 (String.ofList codes))
    return .none
  match name, args with
  | "append", [some item] => do keep (codes ++ [← codeOf call item])
  | "extend", [some items] => do
    let more ← if (← Run.store).isText items then codesOfItems call items true
      else codesIn call items true
    keep ((← bytesIn v) ++ more)
  | "insert", [some at_, some item] => do
    let n := placeToInsert codes.length (← sizeOf call at_)
    let c ← codeOf call item
    keep (codes.take n ++ c :: codes.drop n)
  | "pop", args => do
    let n ← match args.at? 0 with
      | none => pure (-1)
      | some at_ => sizeOf call at_
    match placeAmong? codes.length n with
    | some n => do
      discard (keep (codes.eraseIdx n))
      Run.newInt (codes.getD n ' ').toNat
    | none => throw .noItem
  | "remove", [some item] => do
    match Text.place? [← codeOf call item] codes with
    | some n => keep (codes.eraseIdx n)
    | none => throw (.badValue "value not found in bytearray")
  | "reverse", [] => keep codes.reverse
  | "clear", [] => keep []
  | "__iadd__", [some other] => do
    discard (keep (codes ++ (← bytesIn other)))
    return v
  | "__imul__", [some times] => do
    discard (keep (← repeated call codes times))
    return v
  | "__setitem__", [some at_, some held] => do
    match ← subscriptOf call codes.length at_ with
    | .place n =>
      let c ← codeOf call held
      let codes ← bytesIn v
      match placeAmong? codes.length n with
      | some n => keep (codes.set n c)
      | none => throw .noItem
    | .slice start stop step => do
      let more ← codesIn call held false
      if step = 1 then
        keep (codes.take start.toNat ++ more ++ codes.drop (max start stop).toNat)
      else
        let places := placesBetween start stop step
        if places.length != more.length then
          throw (.badValue ("attempt to assign bytes of size " ++ toString more.length
            ++ " to extended slice of size " ++ toString places.length))
        keep ((places.zip more).foldl (fun codes (i, c) => codes.set i c) codes)
  | "__delitem__", [some at_] => do
    match ← subscriptOf call codes.length at_ with
    | .place n =>
      match placeAmong? codes.length n with
      | some n => keep (codes.eraseIdx n)
      | none => throw .noItem
    | .slice start stop step =>
      let places := placesBetween start stop step
      keep ((codes.zipIdx.filter fun (_, i) => !places.contains i).map Prod.fst)
  | name, args => fixedBytesMember call "bytearray" name v codes args

/-- What a member of the class of bytes, or of those that can be changed, does. -/
def bytesMember (call : Call) (owner name : String) (v : Value) (args : Fitted) : Run Value := do
  if owner == "bytearray" then changingBytesMember call name v args
  else fixedBytesMember call owner name v (← bytesIn v) args

/-- What a member that a class of bytes has for itself does for the class `c`. -/
def bytesClassMember (call : Call) (owner name : String) (c : ClassRef) (args : Fitted) :
    Run Value := do
  match name, args with
  | "fromhex", [some text] => do
    match codesOfHex 0 (← requireChars text) with
    | .error n =>
      throw (.badValue
        ("non-hexadecimal number found in fromhex() arg at position " ++ toString n))
    | .ok codes =>
      let made ← newCodes owner codes
      if c == .builtin owner then return made else call (.cls c) [made] []
  | _, _ => throw .badCall

/-- A table that says which code stands for each of all codes. -/
def newCodeTable (args : List Value) : Run Value := do
  match args with
  | [first, second] => do
    let first ← bytesIn first
    let second ← bytesIn second
    if first.length != second.length then
      throw (.badValue "maketrans arguments must have same length")
    let all := (List.range 256).map Char.ofNat
    newBytes ((first.zip second).foldl (fun table (c, d) => table.set c.toNat d) all)
  | _ => throw .badCall

end DocGuard
