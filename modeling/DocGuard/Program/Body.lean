import DocGuard.Program.Making
/-!
Running the text of a program.

Actions run one after the other until one returns. How a value is called is left open, so that all
recursion here is on the text.
-/

namespace DocGuard

/-- Describes the call that goes on `depth` frames out, seen from an action, which may stand in a
function without a name. -/
def describeRunning (call : Call) (nested : Bool) (depth : Int) : Run Unit := do
  let view ← match ← runningCall call (framesSeen (framesOf (← Run.layers)) nested) depth with
    | some c => do pure (some (← viewCall call c))
    | none => pure none
  Run.emit (.described view)

/-- Keeps the result of a call under a name, if there is one. -/
def keep (env : Env) (name : Option String) (v : Value) : Run Unit :=
  match name with
  | none => return ()
  | some name => bindName env name v

/-- What the body of a class has bound before its first member: what was prepared, and what the
class says of itself. -/
def startClass (env : Env) (head : ClassHead) (prepared : Bindings Value) :
    Run (Bindings Value) := do
  let shown ← match prepared.get? "__name__" with
    | some v => pure v
    | none => lookupName env "__name__"
  let qualifiedName := sharedText (env.qualifier ++ head.name)
  return Bindings.set "__qualname__" qualifiedName (Bindings.set "__module__" shown prepared)

/-- What the body of a class has bound, with the bases as they were written if others stand for
them. -/
def withBasesWritten (bound : Bindings Value) (written bases : List Value) :
    Run (Bindings Value) := do
  let same := written.length = bases.length ∧ (written.zip bases).all fun (v, w) => v.same w
  if same then return bound
  return Bindings.set "__orig_bases__" (← Run.newTuple written) bound

/-- Calls the class of a class to make the class, once its body has been run. The methods that speak
of their class know it by the variable `self`. -/
def finishClass (call : Call) (kind : ClassRef) (head : ClassHead) (bases : List Value)
    (bound : Bindings Value) (self : Option CellId) : Run Value := do
  let bound := match self with
    | some id => Bindings.set "__classcell__" (.cell id) bound
    | none => bound
  let made ← call (.cls kind)
    [sharedText head.name, ← Run.newTuple bases, ← newNamespace bound] []
  match made, ← contentOf self with
  | .cls _, none => if self.isSome then throw .noParent else return made
  | _, _ => return made

mutual

/-- Runs an action; it may end the function with a result. -/
def Action.run (call : Call) (env : Env) : Action → Run (Option Value)
  | .validate names nested => do
    Run.emit (.validated (← checkRunning call names nested))
    return none
  | .describe depth nested => do
    describeRunning call nested depth
    return none
  | .call target args keywords result => do
    keep env result (← callPath call env target args keywords)
    return none
  | .set target e => do
    target.assign call env (← e.eval call env)
    return none
  | .delete target => do
    target.delete call env
    return none
  | .define definition => do
    bindName env definition.key (← definition.make call env)
    return none
  | .get target => do
    discard (target.eval call env)
    return none
  | .return e => do
    return some (← e.eval call env)

/-- Makes what a definition defines. -/
def Definition.make (call : Call) (env : Env) : Definition → Run Value
  | .function head body => do
    head.kind.wrap call (← makeFunction call env head body)
  | .cls head members => do
    let written ← head.bases.mapM (Path.eval call env)
    let bases := (← written.mapM (basesFor call written)).flatten
    let kind ← kindOf bases
    let start ← startClass env head (← preparedFor call kind head.name bases)
    let self ← Run.newCell
    let inside := env.inClass head (classNames members) self
    let doc ← head.run inside start fun env => head.doc.eval call env
    let bound ← Definition.bindAll call inside head (start.set "__doc__" doc) members
    let bound ← withBasesWritten bound written bases
    finishClass call kind head bases bound (if speaksOfClass members then some self else none)
  | .property _ getter setter => do
    let getter ← getter.make call env
    let setter ← setter.make call env
    newProperty call getter setter .none .none
  | .value _ e => e.eval call env

/-- Binds the members of a class one after the other, after those bound so far. -/
def Definition.bindAll (call : Call) (env : Env) (head : ClassHead) (members : Bindings Value) :
    List Definition → Run (Bindings Value)
  | [] => return members
  | d :: rest => do
    let v ← head.run env members fun env => d.make call env
    Definition.bindAll call env head (members.set d.key v) rest

/-- Makes an accessor of a property. One that is missing is absent. -/
def Accessor.make (call : Call) (env : Env) : Accessor → Run Value
  | .missing => return .none
  | .given head body => return .function (← makeFunction call env head body)

end

/-- Runs the actions of a body up to the first that returns. What nothing refers to after an action
is given up before the next one. -/
def runBody (call : Call) (env : Env) : List Action → Run (Option Value)
  | [] => return none
  | a :: rest => do
    match ← a.run call env with
    | some result => return some result
    | none => do
      giveUp call
      runBody call env rest

end DocGuard
