import DocGuard.Program.Parameters.Token
/-!
Defaults as they are written in a text.

A default is written as a constant, a name with members, a sum, or a container of these. Anything
else can be written too, but means nothing here.
-/

namespace DocGuard.Parameters

/-- What joins two constants to one. -/
inductive Join where
  | add
  | subtract
  | unite
deriving DecidableEq, Repr

/-- A default as it is written. -/
inductive Default where
  | constant (c : Constant)
  /-- A name, followed by the members taken from it. -/
  | name (path : List String)
  | signed (negative : Bool) (e : Default)
  | joined (join : Join) (left right : Default)
  | tuple (items : List Default)
  | list (items : List Default)
  | set (items : List Default)
  | dict (entries : List (Default × Default))
  /-- Something that means nothing as a default. -/
  | other

/-- The words that are no names. -/
def keywords : List String :=
  ["and", "as", "assert", "async", "await", "break", "class", "continue", "def", "del", "elif",
   "else", "except", "finally", "for", "from", "global", "if", "import", "in", "is", "lambda",
   "nonlocal", "not", "or", "pass", "raise", "return", "try", "while", "with", "yield"]

/-- The sign between two expressions at the start of some pieces, how close it binds them, and what
follows it. -/
def operator? : List Token → Option (String × Nat × List Token)
  | .word "not" :: .word "in" :: rest => some ("not in", 4, rest)
  | .word "is" :: .word "not" :: rest => some ("is not", 4, rest)
  | .word w :: rest =>
    match w with
    | "or" => some (w, 1, rest)
    | "and" => some (w, 2, rest)
    | "in" | "is" => some (w, 4, rest)
    | _ => none
  | .sign s :: rest =>
    match s with
    | "<" | ">" | "<=" | ">=" | "==" | "!=" => some (s, 4, rest)
    | "|" => some (s, 5, rest)
    | "^" => some (s, 6, rest)
    | "&" => some (s, 7, rest)
    | "<<" | ">>" => some (s, 8, rest)
    | "+" | "-" => some (s, 9, rest)
    | "*" | "/" | "//" | "%" | "@" => some (s, 10, rest)
    | "**" => some (s, 13, rest)
    | _ => none
  | _ => none

/-- Two expressions with a sign between them. -/
def Default.combine (sign : String) (left right : Default) : Default :=
  match sign with
  | "+" => .joined .add left right
  | "-" => .joined .subtract left right
  | "|" => .joined .unite left right
  | _ => .other

/-- The members taken from an expression. -/
def Default.member (e : Default) (name : String) : Default :=
  match e with
  | .name path => .name (path ++ [name])
  | _ => .other

/-- Two texts that follow each other are one. -/
def joinedTexts : List Token → Constant → Option (Constant × List Token)
  | .constant (.text t) :: rest, .text s => joinedTexts rest (.text (s ++ t))
  | .constant (.bytes t) :: rest, .bytes s => joinedTexts rest (.bytes (s ++ t))
  | .constant (.text _) :: _, .bytes _ | .constant (.bytes _) :: _, .text _ => none
  | rest, c => some (c, rest)

mutual

/-- The expression at the start of some pieces whose signs bind closer than `least`. -/
def expression? : (n : Nat) → (least : Nat) → List Token → Option (Default × List Token)
  | 0, _, _ => none
  | n + 1, least, tokens => do
    let (first, rest) ← operand? n tokens
    operators? n least first rest

/-- Goes on after a first expression with what is joined to it. -/
def operators? : (n : Nat) → (least : Nat) → Default → List Token →
    Option (Default × List Token)
  | 0, _, _, _ => none
  | n + 1, least, left, tokens =>
    match operator? tokens with
    | some (sign, level, rest) =>
      if level ≤ least then some (left, tokens)
      else do
        let (right, rest) ← expression? n (if sign == "**" then 10 else level) rest
        operators? n least (left.combine sign right) rest
    | none => some (left, tokens)

/-- An expression without a sign behind it. -/
def operand? : (n : Nat) → List Token → Option (Default × List Token)
  | 0, _ => none
  | n + 1, tokens =>
    match tokens with
    | .sign "-" :: rest => do
      let (e, rest) ← expression? n 11 rest
      return (.signed true e, rest)
    | .sign "+" :: rest => do
      let (e, rest) ← expression? n 11 rest
      return (.signed false e, rest)
    | .sign "~" :: rest => do
      let (_, rest) ← expression? n 11 rest
      return (.other, rest)
    | .word "not" :: rest => do
      let (_, rest) ← expression? n 3 rest
      return (.other, rest)
    | .constant c :: rest => do
      let (c, rest) ← joinedTexts rest c
      members? n (.constant c) rest
    | .word w :: rest => if keywords.contains w then none else members? n (.name [w]) rest
    | .sign "(" :: .sign ")" :: rest => members? n (.tuple []) rest
    | .sign "(" :: rest => do
      let (items, single, rest) ← items? n ")" rest
      let e := match items, single with
        | [e], true => e
        | items, _ => .tuple items
      -- a name in brackets is still a name
      members? n e rest
    | .sign "[" :: rest => do
      let (items, _, rest) ← items? n "]" rest
      members? n (.list items) rest
    | .sign "\x7b" :: .sign "\x7d" :: rest => members? n (.dict []) rest
    | .sign "\x7b" :: rest => do
      let (e, rest) ← expression? n 0 rest
      match rest with
      | .sign ":" :: _ => do
        let (entries, rest) ← entries? n tokens.tail
        members? n (.dict entries) rest
      | _ => do
        let (items, _, rest) ← items? n "\x7d" (tokens.tail)
        members? n (if items.isEmpty then e else .set items) rest
    | _ => none

/-- The members and calls behind an expression. -/
def members? : (n : Nat) → Default → List Token → Option (Default × List Token)
  | 0, _, _ => none
  | n + 1, e, tokens =>
    match tokens with
    | .sign "." :: .word w :: rest =>
      if keywords.contains w then none else members? n (e.member w) rest
    | .sign "(" :: .sign ")" :: rest => members? n .other rest
    | .sign "(" :: rest => do
      let (_, _, rest) ← items? n ")" rest
      members? n .other rest
    | .sign "[" :: rest => do
      let (items, _, rest) ← items? n "]" rest
      if items.isEmpty then none else members? n .other rest
    | tokens => some (e, tokens)

/-- Expressions between commas up to a closing sign, and whether there is one without a comma. -/
def items? : (n : Nat) → (close : String) → List Token → Option (List Default × Bool × List Token)
  | 0, _, _ => none
  | n + 1, close, tokens =>
    if tokens.head? = some (.sign close) then some ([], false, tokens.tail)
    else do
      let (e, rest) ← expression? n 0 tokens
      match rest with
      | .sign "," :: rest => do
        let (items, _, rest) ← items? n close rest
        return (e :: items, false, rest)
      | t :: rest => if t = .sign close then some ([e], true, rest) else none
      | [] => none

/-- Entries between commas up to the closing brace. -/
def entries? : (n : Nat) → List Token → Option (List (Default × Default) × List Token)
  | 0, _ => none
  | n + 1, tokens =>
    if tokens.head? = some (.sign "\x7d") then some ([], tokens.tail)
    else do
      let (key, rest) ← expression? n 0 tokens
      if rest.head? != some (.sign ":") then none
      let (held, rest) ← expression? n 0 rest.tail
      match rest with
      | .sign "," :: rest => do
        let (entries, rest) ← entries? n rest
        return ((key, held) :: entries, rest)
      | .sign "\x7d" :: rest => some ([(key, held)], rest)
      | _ => none

end

/-- How many steps are enough to read some pieces. -/
def stepsFor (tokens : List Token) : Nat :=
  4 * tokens.length + 8

/-- The expression at the start of some pieces. -/
def takeDefault? (tokens : List Token) : Option (Default × List Token) :=
  expression? (stepsFor tokens) 0 tokens

end DocGuard.Parameters
