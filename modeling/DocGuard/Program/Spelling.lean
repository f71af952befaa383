import DocGuard.Program.Source
import DocGuard.Text.Normal
/-!
Which names the text of a program means.

Names are compared in their normal form (see `DocGuard.Text.Normal`). In the body of a class, a name
that begins with two underscores and does not end with two is private: it stands for a name that
begins with the name of the class. The innermost class around a name decides. What a function or
class shows as its name is not changed by this, and neither are the keywords of calls.

`Definition.spelled` and `Action.spelled` replace every name in a piece of text by the name it
means; they change nothing else.
-/

namespace DocGuard

/-- The name is private to the class around it. -/
def isPrivate (name : String) : Bool :=
  name.startsWith "__" && !name.endsWith "__"

/-- What a name means in the body of a class, if there is one around it. A class of which the name
has nothing but underscores has no private names. -/
def hiddenName (owner : Option String) (name : String) : String :=
  match owner.map fun cls => cls.toList.dropWhile (· == '_') with
  | some (c :: rest) =>
    if isPrivate name then "_" ++ String.ofList (c :: rest) ++ name else name
  | _ => name

/-- The name that a written name means. -/
def meantName (owner : Option String) (name : String) : String :=
  hiddenName owner (Text.normalForm name)

/-- A part of a path with the name it means. -/
def PathPart.spelled (owner : Option String) (part : PathPart) : PathPart :=
  { part with name := meantName owner part.name }

/-- A path with the names it means. -/
def Path.spelled (owner : Option String) (path : Path) : Path :=
  ⟨path.head.spelled owner, path.members.map (PathPart.spelled owner)⟩

mutual

/-- An expression with the names it means. -/
def Expr.spelled (owner : Option String) : Expr → Expr
  | .literal v => .literal v
  | .list items => .list (Expr.spelledAll owner items)
  | .path p => .path (p.spelled owner)

/-- Expressions with the names they mean. -/
def Expr.spelledAll (owner : Option String) : List Expr → List Expr
  | [] => []
  | e :: rest => e.spelled owner :: Expr.spelledAll owner rest

end

/-- A parameter with the name it means. -/
def Param.spelled (owner : Option String) (p : Param Expr) : Param Expr :=
  { p with name := meantName owner p.name, default := p.default.map (Expr.spelled owner) }

/-- The head of a function with the names it means. -/
def FunctionHead.spelled (owner : Option String) (head : FunctionHead) : FunctionHead :=
  { head with
    name := Text.normalForm head.name
    key := meantName owner head.key
    params := head.params.map (Param.spelled owner)
    doc := head.doc.spelled owner }

/-- The head of a class with the names it means. Its documentation belongs to its body. -/
def ClassHead.spelled (owner : Option String) (head : ClassHead) : ClassHead :=
  { head with
    name := Text.normalForm head.name
    key := meantName owner head.key
    bases := head.bases.map (Path.spelled owner)
    doc := head.doc.spelled (some (Text.normalForm head.name)) }

/-- The keywords of a call with the names they mean. -/
def spelledKeywords (owner : Option String) (keywords : Bindings Expr) : Bindings Expr :=
  keywords.map fun (name, e) => (Text.normalForm name, e.spelled owner)

mutual

/-- An action with the names it means. -/
def Action.spelled (owner : Option String) : Action → Action
  | .validate options nested => .validate options nested
  | .describe depth nested => .describe depth nested
  | .call target args keywords result =>
    .call (target.spelled owner) (Expr.spelledAll owner args) (spelledKeywords owner keywords)
      (result.map (meantName owner))
  | .set target value => .set (target.spelled owner) (value.spelled owner)
  | .delete target => .delete (target.spelled owner)
  | .define definition => .define (definition.spelled owner)
  | .get target => .get (target.spelled owner)
  | .return value => .return (value.spelled owner)

/-- Actions with the names they mean. -/
def Action.spelledAll (owner : Option String) : List Action → List Action
  | [] => []
  | a :: rest => a.spelled owner :: Action.spelledAll owner rest

/-- A definition with the names it means. The members of a class are private to it. -/
def Definition.spelled (owner : Option String) : Definition → Definition
  | .function head body => .function (head.spelled owner) (Action.spelledAll owner body)
  | .cls head members =>
    .cls (head.spelled owner) (Definition.spelledAll (some (Text.normalForm head.name)) members)
  | .property key getter setter =>
    .property (meantName owner key) (getter.spelled owner) (setter.spelled owner)
  | .value key value => .value (meantName owner key) (value.spelled owner)

/-- Definitions with the names they mean. -/
def Definition.spelledAll (owner : Option String) : List Definition → List Definition
  | [] => []
  | d :: rest => d.spelled owner :: Definition.spelledAll owner rest

/-- An accessor with the names it means. -/
def Accessor.spelled (owner : Option String) : Accessor → Accessor
  | .missing => .missing
  | .given head body => .given (head.spelled owner) (Action.spelledAll owner body)

end

end DocGuard
