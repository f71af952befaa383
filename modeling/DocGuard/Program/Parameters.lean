import DocGuard.Program.Parameters.Default
import DocGuard.Program.Signature
/-!
Parameters written as text.

What a callable of the language says of its parameters is text: names between parentheses, some
with a default. A stroke ends the parameters that are given by position only, a star begins those
that take keywords only, and a dollar sign marks the receiver. `Parameters.ofText?` reads such a
text; what the defaults mean depends on where they are read.
-/

namespace DocGuard

/-- Parameters as they are written. -/
structure Parameters where
  params : List (Param Parameters.Default)
  /-- One of them is marked as the receiver. -/
  receives : Bool

namespace Parameters

/-- The default behind a name, if there is one, and what follows. -/
def defaultBehind? : List Token → Option (Option Default × List Token)
  | .sign "=" :: rest => (takeDefault? rest).map fun (e, rest) => (some e, rest)
  | rest => some (none, rest)

/-- What follows a parameter: a comma, or the end of the list. -/
def behindParam? : List Token → Option (Bool × List Token)
  | .sign "," :: rest => some (true, rest)
  | .sign ")" :: rest => some (false, rest)
  | _ => none

/-- The word names a parameter. -/
def isParamName (name : String) : Bool :=
  !keywords.contains name

/-- The parameters in at most `n` pieces up to the closing parenthesis, and what follows it. Behind
a star the parameters have the kind `keywordOnly`. -/
def list? : (n : Nat) → (kind : ParamKind) → List Token →
    Option (List (Param Default) × List Token)
  | 0, _, _ => none
  | n + 1, kind, tokens =>
    let goOn (p : Param Default) (kind : ParamKind) (more : Bool) (rest : List Token) :
        Option (List (Param Default) × List Token) :=
      if more then (list? n kind rest).map fun (ps, rest) => (p :: ps, rest) else some ([p], rest)
    match tokens with
    | .sign ")" :: rest => some ([], rest)
    | .sign "*" :: .sign "," :: rest => do
      if kind == .keywordOnly then none
      let (ps, rest) ← list? n .keywordOnly rest
      -- a star alone asks for parameters behind it
      if ps.head?.any (·.kind == .keywordOnly) then some (ps, rest) else none
    | .sign "*" :: .word name :: rest => do
      if kind == .keywordOnly || !isParamName name then none
      let (more, rest) ← behindParam? rest
      goOn ⟨name, .variadic, none⟩ .keywordOnly more rest
    | .sign "**" :: .word name :: rest => do
      if !isParamName name then none
      let (more, rest) ← behindParam? rest
      if more then none else some ([⟨name, .keywords, none⟩], rest)
    | .word name :: rest => do
      if !isParamName name then none
      let (default, rest) ← defaultBehind? rest
      let (more, rest) ← behindParam? rest
      goOn ⟨name, kind, default⟩ kind more rest
    | _ => none

/-- The names differ, and no parameter without a default follows one with a default, unless it takes
keywords only. -/
def wellFormed (ps : List (Param Default)) : Bool :=
  let names := ps.map Param.name
  let positional := ps.filter (·.kind == .positional)
  names.length == names.eraseDups.length
    && (positional.dropWhile (·.default.isNone)).all (·.default.isSome)

/-- The parameters, those given by position only told apart. -/
def withPositions (last : Option Int) (ps : List (Param Default)) : List (Param Default) :=
  match last with
  | none => ps
  | some last => ps.zipIdx.map fun (p, i) =>
    if p.kind == .positional && (last < 0 || (i : Int) ≤ last) then
      { p with kind := .positionalOnly }
    else p

/-- What may follow the list: nothing, or what a call returns. -/
def endsWell (tokens : List Token) : Bool :=
  match tokens with
  | [] => true
  | .sign "->" :: rest => (takeDefault? rest).any fun (_, rest) => rest.isEmpty
  | _ => false

/-- The parameters that a text writes, if they can be read. -/
def ofText? (text : String) : Option Parameters := do
  let cleaned ← cleaned? text
  let tokens ← tokens? (cleaned.text.dropWhile fun c => c.isAlphanum || c == '_')
  match tokens with
  | .sign "(" :: rest =>
    let (ps, rest) ← list? (rest.length + 1) .positional rest
    if !endsWell rest || !wellFormed ps then none
    else
      let ps := withPositions cleaned.lastPositional ps
      if cleaned.receiver.isSome && ps.isEmpty then none
      else some ⟨ps, cleaned.receiver.isSome⟩
  | _ => none

/-- The parameters that a callable shows which is bound to something, or is not, if it marks one as
the receiver. A receiver that is not bound can only be given by position. -/
def shown {δ : Type} (receives bound : Bool) (ps : List (Param δ)) : List (Param δ) :=
  match receives, bound, ps with
  | true, true, _ :: rest => rest
  | true, false, first :: rest => { first with kind := .positionalOnly } :: rest
  | _, _, ps => ps

end Parameters

end DocGuard
