import DocGuard.Program.Member.Object
/-!
What the members of classes with parameters, and of unions of classes, do.

A class with parameters keeps the class and the parameters, and stands for the class in all else: it
is called like the class, shows the members of the class, and can be derived from. A union keeps the
classes that it stands for.
-/

namespace DocGuard

/-- A class with parameters: a tuple is several of them, any other value is one. -/
def newAlias (c : ClassRef) (origin parameters : Value) : Run Value := do
  let s ← Run.store
  let items ← match s.isOf "tuple" parameters with
    | true => Run.newTuple (s.itemsOf parameters)
    | false => Run.newTuple [parameters]
  let mark ← Run.newMark
  Run.changeContent mark (.tuple mark [origin, items])
  return .object mark c

/-- Calls a class with parameters. What it gives is told what it was called by, if it listens. -/
def callAlias (call : Call) (v origin : Value) (args : List Value) (keywords : Bindings Value) :
    Run Value := do
  let result ← call origin args keywords
  match ← Run.attempt (setMember call result "__orig_class__" v) with
  | .ok _ => return result
  | .error e => if e.isMissing || e.isUnfit then return result else throw e

/-- What a member of a class with parameters does with one. -/
def aliasMember (call : Call) (name : String) (v : Value) (args : Fitted) : Run Value := do
  let origin := ((← Run.store).itemsOf ((← Run.store).content v)).head?
  match name, origin, args with
  | "__mro_entries__", some origin, [some _] => Run.newTuple [origin]
  | "__dir__", some origin, [] => call (.builtin "dir") [origin] []
  | "__or__", _, [some other] => newUnion call v other
  | "__ror__", _, [some other] => newUnion call other v
  | _, _, _ => throw .badCall

/-- What a member of the class of unions does with a union. -/
def unionMember (call : Call) (name : String) (v : Value) (args : Fitted) : Run Value := do
  match name, args with
  | "__or__", [some other] => newUnion call v other
  | "__ror__", [some other] => newUnion call other v
  | _, _ => throw .badCall

end DocGuard
