import DocGuard.Number.Double
/-!
The words and signs of a text that writes parameters.

`cleaned?` takes out of such a text what is said about the parameters and is no part of their list:
the dollar sign that marks the receiver, the stroke that ends the parameters given by position only,
and the blanks. `tokens?` cuts what is left into words, numbers, texts and signs.
-/

namespace DocGuard.Parameters

/-- A value that is written out in one piece. -/
inductive Constant where
  | none
  | bool (b : Bool)
  | int (n : Int)
  | float (d : Double)
  /-- A multiple of the imaginary unit. -/
  | imaginary (d : Double)
  | text (s : String)
  | bytes (codes : String)
  /-- The value that three dots stand for. -/
  | dots
deriving DecidableEq, Repr

/-- A piece of a text. -/
inductive Token where
  | word (name : String)
  | constant (c : Constant)
  | sign (text : String)
deriving DecidableEq, Repr

/-! ### Texts in quotes -/

/-- The text up to a mark, with the mark; a stroke keeps the character behind it from ending it. -/
def takeQuoted? (mark : List Char) : List Char → Option (List Char × List Char)
  | [] => none
  | text@('\\' :: c :: rest) =>
    if mark.isPrefixOf text then some ([], text.drop mark.length)
    else (takeQuoted? mark rest).map fun (inside, after) => ('\\' :: c :: inside, after)
  | c :: rest =>
    if mark.isPrefixOf (c :: rest) then some ([], (c :: rest).drop mark.length)
    else (takeQuoted? mark rest).map fun (inside, after) => (c :: inside, after)

/-- The letters that can stand before a text in quotes. -/
def quotePrefixes : List String :=
  ["", "r", "b", "u", "f", "br", "rb", "fr", "rf"]

/-- A text in quotes: the letters before it, its mark, what is inside and what follows. -/
def quoted? (text : List Char) : Option (List Char × List Char × List Char × List Char) := do
  let letters := text.takeWhile Char.isAlpha
  if !quotePrefixes.contains (String.ofList (letters.map Char.toLower)) then failure
  let body := text.drop letters.length
  let quote ← body.head?
  if quote != '\'' && quote != '"' then failure
  let three := [quote, quote, quote]
  let mark := if three.isPrefixOf body then three else [quote]
  let (inside, after) ← takeQuoted? mark (body.drop mark.length)
  return (letters.map Char.toLower, mark, inside, after)

/-! ### What is no part of the list -/

/-- A text without what is said about the parameters. -/
structure Cleaned where
  text : List Char
  /-- The place of the parameter that is marked as the receiver. -/
  receiver : Option Nat
  /-- The place of the last parameter that is given by position only. -/
  lastPositional : Option Int

/-- What has been said so far about the parameters, while a text is cleaned. -/
structure Progress where
  /-- How many commas there were. -/
  place : Nat
  /-- A comma was met and not written yet. -/
  comma : Bool
  /-- The next comma belongs to a stroke. -/
  skips : Bool
  receiver : Option Nat
  lastPositional : Option Int

/-- The character parts words and signs and is nothing else. -/
def isGap (c : Char) : Bool :=
  c == ' ' || c == '\t' || c == Char.ofNat 12

/-- The character begins no word, number, text or sign, so that a blank before it is kept. -/
def isStray (c : Char) : Bool :=
  c == '$' || c == '?' || c == '\\' || (c == '!') || (c.toNat < 32 && !isGap c)

/-- Cleans a text, of which at most `n` pieces are read; `progress` says what came before. -/
def cleanedFrom? : (n : Nat) → Progress → List Char → Option Cleaned
  | 0, _, _ => none
  | _ + 1, p, [] => some ⟨if p.comma then [',', ' '] else [], p.receiver, p.lastPositional⟩
  | n + 1, p, text@(c :: rest) =>
    let write (piece after : List Char) : Option Cleaned :=
      let comma := if p.comma && piece != [')'] then [',', ' '] else []
      (cleanedFrom? n { p with comma := false } after).map fun done =>
        { done with text := comma ++ piece ++ done.text }
    if isGap c then
      if (rest.dropWhile isGap).head?.any isStray then write [c] rest else cleanedFrom? n p rest
    else match quoted? text with
      | some (letters, mark, inside, after) => write (letters ++ mark ++ inside ++ mark) after
      | none =>
        if c.isAlpha then
          let word := text.takeWhile fun c => c.isAlphanum || c == '_'
          write word (text.drop word.length)
        else if c == ',' then
          if p.skips then cleanedFrom? n { p with skips := false } rest
          else if p.comma then none
          else cleanedFrom? n { p with comma := true, place := p.place + 1 } rest
        else if c == '$' then
          if p.receiver.isSome then none
          else cleanedFrom? n { p with receiver := some p.place } rest
        else if c == '/' then
          match rest with
          | '/' :: rest => write ['/', '/'] rest
          | '=' :: rest => write ['/', '='] rest
          | rest =>
            if p.skips || p.lastPositional.isSome then none
            else cleanedFrom? n { p with skips := true, lastPositional := some (p.place - 1 : Int) }
              rest
        else write [c] rest

/-- A text without what is said about the parameters. It has to consist of ASCII characters. -/
def cleaned? (text : String) : Option Cleaned :=
  let chars := text.toList.filter (· != '\n')
  if chars.any fun c => 128 ≤ c.toNat then none
  else cleanedFrom? (chars.length + 1) ⟨0, false, false, none, none⟩ chars

/-! ### Pieces -/

/-- The value of some digits to a base, and what follows them. -/
def takeDigits (base most : Nat) (text : List Char) : Nat × Nat × List Char :=
  let digits := (text.take most).takeWhile fun c => (Text.placeValue? c).any (· < base)
  (digits.length, digits.foldl (fun n c => n * base + (Text.placeValue? c).getD 0) 0,
    text.drop digits.length)

/-- What the text between quotes stands for, read in at most `n` steps. Bytes have fewer ways to
write a character. -/
def unescaped? (bytes : Bool) : (n : Nat) → List Char → Option (List Char)
  | 0, _ => none
  | _ + 1, [] => some []
  | n + 1, '\\' :: c :: rest =>
    let plain (c : Char) : Option (List Char) := (unescaped? bytes n rest).map (c :: ·)
    let coded (size base : Nat) (exact : Bool) (digits : List Char) : Option (List Char) :=
      let (read, value, after) := takeDigits base size digits
      if exact && read != size then none
      else (unescaped? bytes n after).map (Char.ofNat (if bytes then value % 256 else value) :: ·)
    match c with
    | '\n' => unescaped? bytes n rest
    | '\\' | '\'' | '"' => plain c
    | 'a' => plain (Char.ofNat 7)
    | 'b' => plain (Char.ofNat 8)
    | 'f' => plain (Char.ofNat 12)
    | 'n' => plain '\n'
    | 'r' => plain '\r'
    | 't' => plain '\t'
    | 'v' => plain (Char.ofNat 11)
    | 'x' => coded 2 16 true rest
    | 'u' => if bytes then plain 'u' |>.map ('\\' :: ·) else coded 4 16 true rest
    | 'U' => if bytes then plain 'U' |>.map ('\\' :: ·) else coded 8 16 true rest
    | 'N' => if bytes then plain 'N' |>.map ('\\' :: ·) else none
    | c =>
      if '0' ≤ c && c ≤ '7' then coded 3 8 false (c :: rest)
      else (plain c).map ('\\' :: ·)
  | n + 1, c :: rest => (unescaped? bytes n rest).map (c :: ·)

/-- The text that quotes with these letters before them write. -/
def constantOf? (letters inside : List Char) : Option Constant := do
  let bytes := letters.contains 'b'
  if letters.contains 'f' then failure
  let chars ← if letters.contains 'r' then some inside
    else unescaped? bytes (inside.length + 1) inside
  return if bytes then .bytes (String.ofList chars) else .text (String.ofList chars)

/-- The digits at the start of a text, of which some can be parted by an underscore. -/
def digitRun (text : List Char) : List Char :=
  text.takeWhile fun c => c.isDigit || c == '_'

/-- The number at the start of a text, and what follows it. -/
def takeNumber? (text : List Char) : Option (Constant × List Char) := do
  let marked (base : Nat) (rest : List Char) : Option (Constant × List Char) := do
    let digits := rest.takeWhile fun c => c.isAlphanum || c == '_'
    let digits' := match digits with
      | '_' :: more => more
      | all => all
    return (.int (← Text.naturalOf? base digits'), rest.drop digits.length)
  match text with
  | '0' :: 'x' :: rest | '0' :: 'X' :: rest => marked 16 rest
  | '0' :: 'o' :: rest | '0' :: 'O' :: rest => marked 8 rest
  | '0' :: 'b' :: rest | '0' :: 'B' :: rest => marked 2 rest
  | _ =>
    let whole := digitRun text
    let afterWhole := text.drop whole.length
    let point := if afterWhole.head? == some '.' then ['.'] else []
    let part := if point.isEmpty then [] else digitRun (afterWhole.drop 1)
    let afterPart := afterWhole.drop (point.length + part.length)
    let exponent := match afterPart with
      | e :: rest =>
        if e == 'e' || e == 'E' then
          let sign := rest.takeWhile fun c => c == '+' || c == '-'
          let digits := digitRun (rest.drop sign.length)
          if sign.length ≤ 1 && !digits.isEmpty then e :: sign ++ digits else []
        else []
      | [] => []
    let after := afterPart.drop exponent.length
    let written := whole ++ point ++ part ++ exponent
    let imaginary := after.head? == some 'j' || after.head? == some 'J'
    let rest := if imaginary then after.drop 1 else after
    if rest.head?.any fun c => c.isAlphanum || c == '_' then failure
    if point.isEmpty && exponent.isEmpty && !imaginary then
      let n ← Text.naturalOf? 10 whole
      if whole.head? == some '0' && n != 0 then failure
      return (.int n, rest)
    let d ← Double.ofText? (String.ofList written)
    return (if imaginary then .imaginary d else .float d, rest)

/-- The signs of more than one character, longer ones first. -/
def longSigns : List String :=
  ["...", "**=", "//=", "<<=", ">>=", "**", "//", "<<", ">>", "<=", ">=", "==", "!=", "->", ":=",
   "+=", "-=", "*=", "/=", "%=", "&=", "|=", "^=", "@="]

/-- The signs of one character. -/
def shortSigns : List Char :=
  ['(', ')', '[', ']', '\x7b', '\x7d', ',', ':', '.', ';', '@', '=', '+', '-', '*', '/', '|', '&',
   '<', '>', '^', '%', '~']

/-- The first piece of a text that begins with no blank, and what follows it. -/
def takeToken? (text : List Char) : Option (Token × List Char) :=
  match quoted? text, text with
  | some (letters, _, inside, after), _ =>
    (constantOf? letters inside).map fun c => (.constant c, after)
  | none, c :: rest =>
    if c.isAlpha || c == '_' then
      let word := text.takeWhile fun c => c.isAlphanum || c == '_'
      let token := match String.ofList word with
        | "None" => .constant .none
        | "True" => .constant (.bool true)
        | "False" => .constant (.bool false)
        | name => .word name
      some (token, text.drop word.length)
    else if c.isDigit || (c == '.' && rest.head?.any Char.isDigit) then
      (takeNumber? text).map fun (c, after) => (.constant c, after)
    else
      match longSigns.find? fun sign => sign.toList.isPrefixOf text with
      | some "..." => some (.constant .dots, text.drop 3)
      | some sign => some (.sign sign, text.drop sign.length)
      | none => if shortSigns.contains c then some (.sign (String.ofList [c]), rest) else none
  | none, [] => none

/-- The pieces of a text, of which there are at most `n`. -/
def tokensWithin? : (n : Nat) → List Char → Option (List Token)
  | 0, _ => none
  | n + 1, text =>
    match text.dropWhile fun c => isGap c || c == '\r' with
    | [] => some []
    | text => do
      let (token, rest) ← takeToken? text
      return token :: (← tokensWithin? n rest)

/-- The pieces of a text, if all of it can be read. -/
def tokens? (text : List Char) : Option (List Token) :=
  tokensWithin? (text.length + 1) text

end DocGuard.Parameters
