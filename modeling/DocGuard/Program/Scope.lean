import DocGuard.Program.Source
import DocGuard.Sorting
/-!
Which variables a function has.

A function's variables are its parameters, the names that its body binds, and those variables of
the functions around it that it uses itself or on behalf of a function inside it. A class body is
no such function: the names bound there are members, not variables of the methods.

The order of the variables is that in which a running function lists them: parameters (those that
collect arguments last), then the other names bound in the body by first mention, then those of
them that inner functions use, then the variables taken from outside; the last two by name.
-/

namespace DocGuard

/-- The names that a piece of text mentions. -/
structure Mentions where
  /-- Names whose value is read where the text stands. -/
  read : List String
  /-- Names that functions and classes inside the text take from outside them. -/
  inner : List String

namespace Mentions

/-- The mentions of two pieces of text, one after the other. -/
def append (a b : Mentions) : Mentions :=
  ⟨a.read ++ b.read, a.inner ++ b.inner⟩

instance : Append Mentions := ⟨append⟩

/-- Nothing is mentioned. -/
def nothing : Mentions := ⟨[], []⟩

end Mentions

mutual

/-- The names read by an expression. -/
def Expr.names : Expr → List String
  | .literal _ => []
  | .list items => Expr.namesAll items
  | .path p => [p.head.name]

/-- The names read by some expressions. -/
def Expr.namesAll : List Expr → List String
  | [] => []
  | e :: rest => e.names ++ Expr.namesAll rest

end

/-- The names read by the documentation and the defaults of a function, in this order. -/
def FunctionHead.names (head : FunctionHead) : List String :=
  head.doc.names ++ Expr.namesAll (head.params.filterMap Param.default)

/-- The name that an action binds as a variable, or unbinds. -/
def Action.bound? : Action → Option String
  | .call _ _ _ result => result
  | .set target _ => target.name?
  | .delete target => target.name?
  | .define definition => some definition.key
  | _ => none

/-- The name through which an assignment reaches the object that it changes. -/
def Path.changed (target : Path) : List String :=
  match target.name? with
  | some _ => []
  | none => [target.head.name]

/-- The variables of a function that are its own: its parameters and the names its body binds. -/
def ownNames (params : List String) (body : List Action) : List String :=
  params ++ body.filterMap Action.bound?

/-- What a function takes from outside, given the mentions of its body. A function that speaks of
its parent class needs the class it is written in. -/
def Mentions.outside (own : List String) (m : Mentions) : List String :=
  let implicit := if m.read.contains "super" then ["__class__"] else []
  ((m.read ++ implicit ++ m.inner).filter fun name => !own.contains name).eraseDups

/-- The names that the body of a class binds. Its documentation is the first of them. -/
def classNames (members : List Definition) : List String :=
  "__doc__" :: members.map Definition.key

mutual

/-- The names mentioned by an action. -/
def Action.mentions : Action → Mentions
  | .validate _ _ => .nothing
  | .describe _ _ => .nothing
  | .call target args keywords _ =>
    ⟨target.head.name :: Expr.namesAll args ++ Expr.namesAll (keywords.map Prod.snd), []⟩
  | .set target value => ⟨value.names ++ target.changed, []⟩
  | .delete target => ⟨target.changed, []⟩
  | .define definition => definition.mentions
  | .get target => ⟨[target.head.name], []⟩
  | .return value => ⟨value.names, []⟩

/-- The names mentioned by a body. -/
def Action.mentionsAll : List Action → Mentions
  | [] => .nothing
  | a :: rest => a.mentions ++ Action.mentionsAll rest

/-- The names mentioned by a definition, seen from where it stands. -/
def Definition.mentions : Definition → Mentions
  | .function head body =>
    ⟨head.names,
      (Action.mentionsAll body).outside (ownNames (head.params.map Param.name) body)⟩
  | .cls head members =>
    let m := Definition.mentionsAll members
    let own := classNames members
    ⟨head.bases.map (·.head.name),
      (head.doc.names ++ m.read).filter (fun name => !own.contains name)
        ++ m.inner.filter (fun name => name != "__class__")⟩
  | .property _ getter setter => getter.mentions ++ setter.mentions
  | .value _ value => ⟨value.names, []⟩

/-- The names mentioned by some definitions. -/
def Definition.mentionsAll : List Definition → Mentions
  | [] => .nothing
  | d :: rest => d.mentions ++ Definition.mentionsAll rest

/-- The names mentioned by an accessor. -/
def Accessor.mentions : Accessor → Mentions
  | .missing => .nothing
  | .given head body =>
    ⟨head.names,
      (Action.mentionsAll body).outside (ownNames (head.params.map Param.name) body)⟩

end

/-- The variables that a function takes from outside. -/
def outerNames (params : List String) (body : List Action) : List String :=
  (Action.mentionsAll body).outside (ownNames params body)

/-- The parameters in the order in which a running function lists them. -/
def paramOrder {δ : Type} (params : List (Param δ)) : List (Param δ) :=
  params.filter (·.takesPosition) ++ params.filter (·.kind == .keywordOnly)
    ++ params.filter (·.kind == .variadic) ++ params.filter (·.kind == .keywords)

/-- The names bound in a body that are no parameters, in the order of a running function. -/
def bodyNames (params : List String) (body : List Action) : List String :=
  let own := (body.filterMap Action.bound?).filter fun name => !params.contains name
  let inner := (Action.mentionsAll body).inner
  let mentioned := body.flatMap fun a => a.mentions.read ++ a.bound?.toList
  let plain := mentioned.filter fun name => own.contains name && !inner.contains name
  let taken := own.filter fun name => inner.contains name
  plain.eraseDups ++ sortStrings taken.eraseDups

end DocGuard
