import DocGuard.Program.Member.Formatting
import DocGuard.Program.Member.Sequence
import DocGuard.Text.Letter
import DocGuard.Text.Line
/-!
What the members of the class of texts do.

A text never changes: each member makes a new one, or tells something about the text. Where a part
of the text is meant, it is given by the places where it begins and ends.
-/

namespace DocGuard

/-- A text of these characters. -/
def newTextOf (chars : List Char) : Run Value :=
  Run.newText (String.ofList chars)

/-- Texts of these characters in a list. -/
def newTexts (pieces : List (List Char)) : Run Value := do
  Run.newList (← pieces.mapM newTextOf)

/-- The characters of a value that has to be text. -/
def requireChars (v : Value) : Run (List Char) := do
  return (← requireText v).toList

/-- The one character of a value that has to be such a text. -/
def requireChar (v : Option Value) (otherwise : Char) : Run Char := do
  match v with
  | none => return otherwise
  | some v =>
    match ← requireChars v with
    | [c] => return c
    | _ => throw .badCall

/-- How many times something may be done: as often as wanted if the number is negative. -/
def timesOf (call : Call) (v : Option Value) : Run (Option Nat) := do
  match v with
  | none => return none
  | some v => do
    let n ← sizeOf call v
    return if n < 0 then none else some n.toNat

/-- A width that values are filled up to. -/
def requireWidth (n : Int) : Run Nat :=
  if (mostMade : Int) < n then throw .tooLarge else return n.toNat

/-- The width that a value says. -/
def widthOf (call : Call) (v : Value) : Run Nat := do
  requireWidth (← sizeOf call v)

/-! ### Searching -/

/-- What a member that searches tells: where the part stands, how often, or that it is nowhere, in
the words of `missing`. -/
def placeTold (name missing : String) (part text : List Char) (start stop : Option Int) :
    Run Value := do
  let space := Text.between? text start stop
  let count := match space with
    | none => 0
    | some (_, inside) => Text.countOf part inside
  if name == "count" then return ← Run.newInt count
  let found := space.bind fun (first, inside) =>
    (if name == "rfind" || name == "rindex" then Text.lastPlace? part inside
     else Text.place? part inside).map (first + ·)
  match found, name == "find" || name == "rfind" with
  | some n, _ => Run.newInt n
  | none, true => Run.newInt (-1)
  | none, false => throw (.badValue missing)

/-- A part of the text begins, or ends, with one of some texts. -/
def meetsEnd (atStart : Bool) (text : List Char) (start stop : Option Int)
    (parts : List (List Char)) : Bool :=
  match Text.between? text start stop with
  | none => false
  | some (_, inside) => parts.any fun part =>
    if atStart then part.isPrefixOf inside else part.isSuffixOf inside

/-- The pieces of a text before, of and behind a part that stands in it. -/
def parted (fromEnd : Bool) (part text : List Char) : List (List Char) :=
  match if fromEnd then Text.cutLast? part text else Text.cutOnce? part text with
  | some (before, behind) => [before, part, behind]
  | none => if fromEnd then [[], [], text] else [text, [], []]

/-- The pieces of a text between places where a part stands, or its words. -/
def piecesOf (blank : Char → Bool) (fromEnd : Bool) (part : Option (List Char))
    (times : Option Nat) (text : List Char) : Run (List (List Char)) := do
  let n := times.getD (text.length + 1)
  match part, fromEnd with
  | some [], _ => throw (.badValue "empty separator")
  | some part, false => return Text.cut part n text
  | some part, true => return (Text.cutBackwards part n text).reverse
  | none, false => return Text.cutWords blank n text
  | none, true => return (Text.cutWordsBackwards blank n text).reverse

/-- The lines of a text, with the breaks that end them or without. -/
def linesOf (isBreak : Char → Bool) (kept : Bool) (lines : List (List Char)) : List (List Char) :=
  if kept then lines else lines.map fun line => (line.reverse.dropWhile isBreak).reverse

/-! ### Tables -/

/-- What a table says about the character of a number: nothing, or what stands for it. -/
def tableEntry? (call : Call) (table : Value) (n : Nat) : Run (Option Value) := do
  match ← Run.attempt (itemUnder call table (← Run.newInt n)) with
  | .ok v => return some v
  | .error .noKey | .error .noItem => return none
  | .error e => throw e

/-- What stands for a character, as a table says: the character itself if the table says nothing,
and `none` if the character is dropped. -/
def standsFor (call : Call) (table : Value) (c : Char) : Run (Option (List Char)) := do
  let entry ← tableEntry? call table c.toNat
  let s ← Run.store
  match entry with
  | none => return some [c]
  | some .none => return none
  | some v =>
    match s.textOf? v, s.isOf "int" v, (s.content v).integer? with
    | some text, _, _ => return some text.toList
    | none, true, some n =>
      if 0 ≤ n && n < 0x110000 then return some [Char.ofNat n.toNat]
      else throw (.badValue "character mapping must be in range(0x110000)")
    | none, _, _ => throw .badCall

/-- A text from its first character that is not dropped. -/
def withoutDropped (call : Call) (table : Value) : List Char → Run (List Char)
  | [] => return []
  | c :: rest => do
    match ← standsFor call table c with
    | none => withoutDropped call table rest
    | some _ => return c :: rest

/-- At most `n` characters of a text, with what a table says for each of them. The character behind
dropped ones is looked up twice. -/
def translatedEach (call : Call) (table : Value) : (n : Nat) → List Char → Run (List Char)
  | 0, _ | _, [] => return []
  | n + 1, c :: rest => do
    match ← standsFor call table c with
    | some chars => return chars ++ (← translatedEach call table n rest)
    | none => do translatedEach call table n (← withoutDropped call table rest)

/-- The beginning of a text with what a table says for each character, as long as this is one
character of the first 128 at most, and the rest of the text. What is `known` is not looked up
again. -/
def translatedShortly (call : Call) (table : Value) (known : List (Char × List Char)) :
    List Char → Run (List Char × List Char)
  | [] => return ([], [])
  | c :: rest => do
    let goOn (known : List (Char × List Char)) (chars : List Char) :
        Run (List Char × List Char) := do
      let (done, left) ← translatedShortly call table known rest
      return (chars ++ done, left)
    match known.lookup c with
    | some chars => goOn known chars
    | none =>
      match ← standsFor call table c with
      | none => goOn ((c, []) :: known) []
      | some [d] => if d.toNat < 128 then goOn ((c, [d]) :: known) [d] else return ([], c :: rest)
      | some _ => return ([], c :: rest)

/-- The text with what a table says for each character. -/
def translated (call : Call) (table : Value) (text : List Char) : Run (List Char) := do
  let (done, left) ← if text.all (·.toNat < 128) then translatedShortly call table [] text
    else pure ([], text)
  return done ++ (← translatedEach call table left.length left)

/-- A table that says what stands for some characters. -/
def newTable (call : Call) (args : List Value) : Run Value := do
  let s ← Run.store
  match args with
  | [v] =>
    if s.classOf v != .builtin "dict" then throw .badCall
    let entries ← (s.entries v).mapM fun (key, held) => do
      match s.textOf? key with
      | some text =>
        match text.toList with
        | [c] => return (← Run.newInt c.toNat, held)
        | _ => throw (.badValue "string keys in translate table must be of length 1")
      | none => if s.isOf "int" key then return (key, held) else throw .badCall
    return .dict (← Run.newMark) (← putEntries call [] entries)
  | x :: y :: rest =>
    let first ← requireChars x
    let second ← requireChars y
    let dropped ← match rest with
      | [] => pure []
      | [z] => requireChars z
      | _ => throw .badCall
    if first.length != second.length then
      throw (.badValue "the first two maketrans arguments must have equal length")
    let changed ← (first.zip second).mapM fun (c, d) => do
      return (← Run.newInt c.toNat, ← Run.newInt d.toNat)
    let without ← dropped.mapM fun c => do return (← Run.newInt c.toNat, Value.none)
    return .dict (← Run.newMark) (← putEntries call [] (changed ++ without))
  | [] => throw .badCall

/-! ### Encodings -/

/-- The encoding that a value names. -/
def encodingOf (v : Option Value) : Run Text.Encoding := do
  match v with
  | none => return .utf8 false
  | some v =>
    match Text.Encoding.ofName? (← requireText v) with
    | some e => return e
    | none => throw .noEncoding

/-- What becomes of what does not fit, by the name that a value gives. -/
def misfitOf (v : Option Value) : Run (Option Text.Misfit) := do
  match v with
  | none => return some .refused
  | some v => return Text.Misfit.ofName? (← requireText v)

/-- The encoding and what becomes of what does not fit, as two values name them. -/
def encodingAnd (encoding misfit : Option Value) : Run (Text.Encoding × Option Text.Misfit) := do
  discard (encoding.mapM requireText)
  let m ← misfitOf misfit
  return (← encodingOf encoding, m)

/-- A text as bytes. -/
def encoded (e : Text.Encoding) (misfit : Option Text.Misfit) (text : List Char) :
    Run (List Char) := do
  let codes ← text.mapM fun c => do
    match e.charBytes? c, misfit with
    | some bytes, _ => return bytes
    | none, none => throw .noEncoding
    | none, some misfit =>
      match (misfit.forChar? c).bind fun chars => chars.mapM e.charBytes? with
      | some codes => return codes.flatten
      | none => throw .notEncoded
  return (e.mark ++ codes.flatten).map Char.ofNat

/-- Bytes as a text. -/
def decoded (e : Text.Encoding) (misfit : Option Text.Misfit) (bytes : List Char) :
    Run (List Char) := do
  let pieces ← (e.decode (bytes.map Char.toNat)).mapM fun reading => do
    match reading, misfit with
    | .char c, _ => return [c]
    | .unreadable _, none => throw .noEncoding
    | .unreadable bytes, some misfit =>
      match misfit.forBytes? bytes with
      | some chars => return chars
      | none => throw .notEncoded
  return pieces.flatten

/-! ### Members -/

/-- What a member tells about the kinds of the characters of a text, if it tells such a thing. -/
def textIs? (name : String) (text : List Char) : Option Bool :=
  match name with
  | "isalnum" => some (Text.eachIs Text.isAlphanumeric text)
  | "isalpha" => some (Text.eachIs Text.isLetter text)
  | "isascii" => some (text.all (·.toNat < 0x80))
  | "isdecimal" => some (Text.eachIs Text.isDecimal text)
  | "isdigit" => some (Text.eachIs Text.isDigit text)
  | "isidentifier" => some (Text.isName text)
  | "islower" => some (Text.allSmall text)
  | "isnumeric" => some (Text.eachIs Text.isNumeric text)
  | "isprintable" => some (text.all Text.isPrintable)
  | "isspace" => some (Text.eachIs Text.isBlank text)
  | "istitle" => some (Text.isTitled text)
  | "isupper" => some (Text.allLarge text)
  | _ => none

/-- The text in other letters, if a member makes such a text. -/
def textInLetters? (name : String) (text : List Char) : Option (List Char) :=
  match name with
  | "upper" => some (Text.large text)
  | "lower" => some (Text.small text)
  | "casefold" => some (Text.folded text)
  | "capitalize" => some (Text.capitalized text)
  | "title" => some (Text.titled text)
  | "swapcase" => some (Text.swapped text)
  | _ => none

/-- The characters that are taken away at the ends of a text. -/
def droppedBy (v : Option Value) : Run (Char → Bool) := do
  match v with
  | none | some .none => return Text.isBlank
  | some v =>
    let chars ← requireChars v
    return chars.contains

/-- The text without some characters at the ends that a member names. -/
def strippedBy (name : String) (drop : Char → Bool) (text : List Char) : List Char :=
  match name with
  | "lstrip" => Text.withoutStart drop text
  | "rstrip" => Text.withoutEnd drop text
  | _ => Text.withoutStart drop (Text.withoutEnd drop text)

/-- The text filled up to a width in the way of a member. -/
def filledBy (name : String) (width : Nat) (fill : Char) (text : List Char) : List Char :=
  match name with
  | "ljust" => Text.filledRight width fill text
  | "rjust" => Text.filledLeft width fill text
  | _ => Text.centered width fill text

/-- What a member of the class of texts does with a text. -/
def textMember (call : Call) (name : String) (v : Value) (text : List Char) (args : Fitted)
    (keywords : Bindings Value) : Run Value := do
  match textIs? name text, textInLetters? name text, args with
  | some b, _, [] => return .bool b
  | _, some chars, [] => newTextOf chars
  | _, _, args =>
    match name, args with
    | "strip", args | "lstrip", args | "rstrip", args => do
      newTextOf (strippedBy name (← droppedBy (args.at? 0)) text)
    | "center", some width :: _ | "ljust", some width :: _ | "rjust", some width :: _ => do
      let width ← sizeOf call width
      let fill ← requireChar (args.at? 1) ' '
      newTextOf (filledBy name (← requireWidth width) fill text)
    | "zfill", [some width] => do newTextOf (Text.filledWithZeros (← widthOf call width) text)
    | "expandtabs", args => do
      let width ← match args.at? 0 with
        | none => pure 8
        | some v => sizeOf call v
      newTextOf (Text.tabsFilled width.toNat 0 text)
    | "find", some part :: rest | "rfind", some part :: rest | "index", some part :: rest
    | "rindex", some part :: rest | "count", some part :: rest => do
      if 2 < rest.length then throw .badCall
      let start ← boundOf? call (args.at? 1)
      let stop ← boundOf? call (args.at? 2)
      placeTold name "substring not found" (← requireChars part) text start stop
    | "startswith", some part :: rest | "endswith", some part :: rest => do
      if 2 < rest.length then throw .badCall
      let start ← boundOf? call (args.at? 1)
      let stop ← boundOf? call (args.at? 2)
      let s ← Run.store
      let parts ← if s.isOf "tuple" part then (s.itemsOf part).mapM requireChars
        else do pure [← requireChars part]
      return .bool (meetsEnd (name == "startswith") text start stop parts)
    | "replace", some old :: some new :: _ => do
      let old ← requireChars old
      let new ← requireChars new
      let times ← timesOf call (args.at? 2)
      newTextOf (Text.replaced old new (times.getD (text.length + 1)) text)
    | "split", args | "rsplit", args => do
      let times ← timesOf call (args.at? 1)
      let part ← match args.at? 0 with
        | none | some .none => pure none
        | some v => do pure (some (← requireChars v))
      newTexts (← piecesOf Text.isBlank (name == "rsplit") part times text)
    | "splitlines", args => do
      let kept ← match args.at? 0 with
        | none => pure 0
        | some v => sizeOf call v
      newTexts (linesOf Text.isLineBreak (kept != 0) (Text.lines text))
    | "partition", [some part] | "rpartition", [some part] => do
      let part ← requireChars part
      if part.isEmpty then throw (.badValue "empty separator")
      -- a text that is not parted stays what it is
      let given (piece : List Char) : Run Value :=
        if piece.length = text.length && !text.isEmpty then return v else newTextOf piece
      Run.newTuple (← (parted (name == "rpartition") part text).mapM given)
    | "removeprefix", [some part] => do
      let part ← requireChars part
      newTextOf (if part.isPrefixOf text then text.drop part.length else text)
    | "removesuffix", [some part] => do
      let part ← requireChars part
      newTextOf (if part.isSuffixOf text then text.take (text.length - part.length) else text)
    | "join", [some parts] => do
      newTextOf (Text.joined text (← (← itemsListed call parts).mapM requireChars))
    | "translate", [some table] => do newTextOf (← translated call table text)
    | "encode", args => do
      let (e, m) ← encodingAnd (args.at? 0) (args.at? 1)
      newBytes (← encoded e m text)
    | "format", args =>
      let named (name : String) : Run Value :=
        match keywords.get? name with
        | some v => return v
        | none => throw .noKey
      filledByBrackets call v text ⟨some (args.filterMap id), named⟩
    | "format_map", [some mapping] =>
      let named (name : String) : Run Value := do itemUnder call mapping (← Run.newText name)
      filledByBrackets call v text ⟨none, named⟩
    | "__add__", [some other] => do newTextOf (text ++ (← requireChars other))
    | "__mul__", [some times] | "__rmul__", [some times] => do
      newTextOf (← repeated call text times)
    | "__mod__", [some given] => do
      let filled ← filledByPercent call false text given
      if text.contains '%' || text.isEmpty then newTextOf filled else return v
    | "__rmod__", [some template] =>
      match (← Run.store).textOf? template with
      | some template => do newTextOf (← filledByPercent call false template.toList v)
      | none => return .noAnswer
    | "__getitem__", [some at_] => do
      match ← subscripted call text at_ with
      | .inl c => newTextOf [c]
      | .inr chars => newTextOf chars
    | "__contains__", [some part] => do
      return .bool (Text.place? (← requireChars part) text).isSome
    | "__getnewargs__", [] => do Run.newTuple [← newTextOf text]
    | "__sizeof__", [] => Run.newInt (49 + text.length : Nat)
    | _, _ => throw .badCall

end DocGuard
