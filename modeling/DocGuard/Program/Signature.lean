import DocGuard.Program.Bindings
import DocGuard.Value.Basic
/-!
Formal parameters, and the binding of a call's arguments to them.

Positional arguments fill the positional parameters in order, and what is left over goes to the
variadic parameter. Keyword arguments fill the parameters of their names, except those that are
positional only, and what is left over goes to the parameter that collects keywords. A call binds
when nothing is left without a place, no parameter is filled twice, and every parameter that is
not filled has a default.
-/

namespace DocGuard

/-- How a parameter takes arguments. -/
inductive ParamKind where
  /-- By position only. -/
  | positionalOnly
  /-- By position or by keyword. -/
  | positional
  /-- All surplus positional arguments. -/
  | variadic
  /-- By keyword only. -/
  | keywordOnly
  /-- All surplus keyword arguments. -/
  | keywords
deriving DecidableEq, Repr

/-- A formal parameter; its default, if it has one, is a `δ`. -/
structure Param (δ : Type) where
  name : String
  kind : ParamKind
  default : Option δ

/-- The formal parameters of a callable, in order. -/
abbrev Signature := List (Param Value)

namespace Param

variable {δ : Type}

/-- The parameter can be filled by position. -/
def takesPosition (p : Param δ) : Bool :=
  p.kind == .positionalOnly || p.kind == .positional

/-- The parameter can be filled by keyword. -/
def takesKeyword (p : Param δ) : Bool :=
  p.kind == .positional || p.kind == .keywordOnly

/-- The parameter collects what is left over. -/
def collects (p : Param δ) : Bool :=
  p.kind == .variadic || p.kind == .keywords

end Param

/-- What a call gives to the parameters of a callable. -/
structure Binding where
  /-- The parameters filled by an argument of their own. -/
  given : Bindings Value
  /-- The surplus positional arguments. -/
  surplus : List Value
  /-- The surplus keyword arguments. -/
  surplusKeywords : Bindings Value

namespace Signature

/-- Parameters with their defaults: those of the parameters that can be filled by position one by
one, missing ones left out, and those of the parameters filled by keyword only by name. -/
def withDefaults : List (Param Unit) → List (Option Value) → Bindings Value → Signature
  | [], _, _ => []
  | p :: rest, positional, keyword =>
    if p.takesPosition then
      ⟨p.name, p.kind, positional.head?.join⟩ :: withDefaults rest positional.tail keyword
    else
      let default := if p.kind == .keywordOnly then keyword.get? p.name else none
      ⟨p.name, p.kind, default⟩ :: withDefaults rest positional keyword

/-- Parameters with their defaults. The positional ones belong to the last of the parameters that
can be filled by position. -/
def ofCode (params : List (Param Unit)) (positional : List Value) (keyword : Bindings Value) :
    Signature :=
  let places := (params.filter Param.takesPosition).length
  withDefaults params
    (List.replicate (places - positional.length) none ++ positional.map some) keyword

/-- The signature that takes any arguments. -/
def anything : Signature :=
  [⟨"args", .variadic, none⟩, ⟨"kwargs", .keywords, none⟩]

/-- The parameters that can be filled by position, in order. -/
def positions (sig : Signature) : List String :=
  (sig.filter Param.takesPosition).map Param.name

/-- The parameters filled by the positional arguments. -/
def byPosition (sig : Signature) (args : List Value) : Bindings Value :=
  sig.positions.zip args

/-- The keyword fills a parameter of its name. -/
def fills (sig : Signature) (keyword : String) : Bool :=
  sig.any fun p => p.takesKeyword && p.name == keyword

/-- A parameter of this kind is there. -/
def hasKind (sig : Signature) (kind : ParamKind) : Bool :=
  sig.any fun p => p.kind == kind

/-- Some parameter is without an argument and without a default. -/
def lacks (sig : Signature) (given : Bindings Value) : Bool :=
  sig.any fun p => !p.collects && p.default.isNone && !given.has p.name

/-- The binding of a call's arguments, if the call binds. -/
def bind? (sig : Signature) (args : List Value) (keywords : Bindings Value) : Option Binding :=
  let byPosition := sig.byPosition args
  let surplus := args.drop sig.positions.length
  let (byKeyword, others) := keywords.partition fun (name, _) => sig.fills name
  let given := byPosition ++ byKeyword
  if !surplus.isEmpty && !sig.hasKind .variadic then none
  else if !others.isEmpty && !sig.hasKind .keywords then none
  else if byKeyword.any fun (name, _) => byPosition.has name then none
  else if sig.lacks given then none
  else some ⟨given, surplus, others⟩

/-- A parameter that takes no keyword is named by one and not filled by position. -/
def namesPositionalOnly (sig : Signature) (args : List Value) (keywords : Bindings Value) :
    Bool :=
  sig.any fun p => p.kind == .positionalOnly && keywords.has p.name
    && !(sig.byPosition args).has p.name

/-- The binding of a call's arguments in which no keyword has the name of an unfilled parameter
that is positional only, although one that collects keywords could take it. -/
def bindStrictly? (sig : Signature) (args : List Value) (keywords : Bindings Value) :
    Option Binding :=
  if sig.namesPositionalOnly args keywords then none else sig.bind? args keywords

/-- The signature without the parameter that a receiver fills, if it has a place for one. A
variadic parameter takes the receiver and stays. -/
def dropReceiver? : Signature → Option Signature
  | [] => none
  | p :: rest =>
    match p.kind with
    | .positionalOnly | .positional => some rest
    | .variadic => some (p :: rest)
    | .keywordOnly | .keywords => none

/-- The names of the parameters that documentation can speak of: no receiver, and none that
collects what is left over. -/
def documentable (sig : Signature) : List String :=
  (sig.filter fun p => !p.collects && p.name != "self" && p.name != "cls").map Param.name

/-- The default of the parameter of this name. -/
def default? (sig : Signature) (name : String) : Option Value :=
  (sig.find? fun p => p.name == name && p.default.isSome).bind Param.default

end Signature

end DocGuard
