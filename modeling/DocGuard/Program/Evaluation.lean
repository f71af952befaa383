import DocGuard.Program.Belonging
import DocGuard.Program.Comparison
import DocGuard.Program.Environment
import DocGuard.Program.Release
/-!
The values of paths and expressions.

A path is followed from left to right: each member is taken from the value before it, and called at
once if the path says so. A value written out is made once for its place in the text; a list of
which items have to be evaluated is made anew each time.
-/

namespace DocGuard

/-- What a part of a path comes to, given the value found under its name. -/
def PathPart.finish (part : PathPart) (call : Call) (v : Value) : Run Value :=
  if part.called then call v [] [] else return v

/-- What a variable holds, if there is such a variable. -/
def contentOf (cell : Option CellId) : Run (Option Value) := do
  return cell.bind (← Run.store).cell?

/-- The class from which the view of the parent classes starts: the receiver itself if it is a class
that derives from the one the method is written in, else the class that the receiver has or shows.
-/
def startOf? (call : Call) (after : ClassRef) (receiver : Value) : Run (Option ClassRef) := do
  let s ← Run.store
  let asClass := match receiver with
    | .cls c => if s.derives c after then some c else none
    | _ => none
  let own := s.classOf receiver
  match asClass with
  | some c => return some c
  | none =>
    if s.derives own after then return some own
    return (← shownClass? call receiver).filter fun c => s.derives c after

/-- The view that a method has of the classes behind the one it is written in: bound to the
receiver, which has to belong to that class. An absent receiver has no members there. -/
def parentOf (call : Call) (env : Env) : Run Value := do
  match ← contentOf (env.vars.get? "__class__"), ← contentOf env.receiver with
  | some (.cls after), some receiver =>
    if receiver.isAbsent then return .parent (← Run.newMark) after receiver after
    match ← startOf? call after receiver with
    | some start => return .parent (← Run.newMark) after receiver start
    | none => throw .badCall
  | _, _ => throw .noParent

/-- The value of the first part of a path. -/
def PathPart.headValue (call : Call) (env : Env) (head : PathPart) : Run Value := do
  match ← lookupName env head.name, head.called with
  | .cls c, true =>
    if c = .builtin "super" then parentOf call env else head.finish call (.cls c)
  | v, _ => head.finish call v

/-- The value of a member of a path, taken from the value before it. -/
def PathPart.memberValue (call : Call) (v : Value) (part : PathPart) : Run Value := do
  part.finish call (← Run.retaining [v] (getMember call v part.name))

/-- The value of a path. -/
def Path.eval (call : Call) (env : Env) (path : Path) : Run Value := do
  path.members.foldlM (PathPart.memberValue call) (← path.head.headValue call env)

mutual

/-- The value of an expression. -/
def Expr.eval (call : Call) (env : Env) : Expr → Run Value
  | .literal v => return v
  | .list items => do
    Run.newList (← Expr.evalAll call env items)
  | .path p => p.eval call env

/-- The values of some expressions, in order. -/
def Expr.evalAll (call : Call) (env : Env) : List Expr → Run (List Value)
  | [] => return []
  | e :: rest => do
    let v ← e.eval call env
    return v :: (← Run.retaining [v] (Expr.evalAll call env rest))

end

/-- The values of expressions that stand under names. -/
def Expr.evalNamed (call : Call) (env : Env) (named : Bindings Expr) : Run (Bindings Value) :=
  named.mapM fun (name, e) => do return (name, ← e.eval call env)

/-- Splits a path into the path of the value it changes and the name changed. -/
def Path.split (path : Path) : Option (Path × String) :=
  path.members.getLast?.map fun last => (⟨path.head, path.members.dropLast⟩, last.name)

/-- Gives the place that a path names a value. -/
def Path.assign (call : Call) (env : Env) (target : Path) (v : Value) : Run Unit := do
  match target.split with
  | none => bindName env target.head.name v
  | some (owner, name) => setMember call (← owner.eval call env) name v

/-- Empties the place that a path names. -/
def Path.delete (call : Call) (env : Env) (target : Path) : Run Unit := do
  match target.split with
  | none => unbindName env target.head.name
  | some (owner, name) => deleteMember call (← owner.eval call env) name

/-- A call written out: who is called is evaluated first, then the arguments. -/
def callPath (call : Call) (env : Env) (target : Path) (args : List Expr)
    (keywords : Bindings Expr) : Run Value := do
  let f ← target.eval call env
  if f.same (.cls (.builtin "super")) && args.isEmpty && keywords.isEmpty then
    return ← parentOf call env
  let args ← Run.retaining [f] (Expr.evalAll call env args)
  let keywords ← Run.retaining (f :: args) (Expr.evalNamed call env keywords)
  let result ← call f args keywords
  Run.retaining [result] (giveUp call)
  return result

end DocGuard
