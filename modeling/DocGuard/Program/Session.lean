import DocGuard.Program.Call
import DocGuard.Program.Spelling
/-!
A session: a program that is run step by step.

Each step defines, calls or asks something in the program's module. A step that fails leaves what
it has changed, and the session goes on with the next one. `Session.run` gives for each step its
outcome and the events that happened during it.
-/

namespace DocGuard

/-- What a step asks about. -/
inductive Target where
  | absent
  | path (p : Path)
  /-- The program's module. -/
  | module
  | value (e : Expr)
  /-- A callable of the language whose signature cannot be read. -/
  | builtin (name : String)

/-- A running call as a step gives it. -/
structure CallText where
  owner : Target
  method : Option String
  args : List Expr
  func : Target

/-- A step of a session. -/
inductive Step where
  | define (definition : Definition)
  /-- Call, from the program's module or from another one, and keep the result under a name if one
  is given. -/
  | call (target : Path) (args : List Expr) (keywords : Bindings Expr) (result : Option String)
      (outside : Bool)
  /-- What a function's body could do too. -/
  | act (action : Action)
  | setDoc (target : Path) (doc : Expr)
  /-- Which function has this name in a class or value. -/
  | resolve (owner : Target) (method : Option String)
  /-- What a callable shows of itself. -/
  | interface (target : Target)
  /-- What a callable is called. -/
  | name (target : Target)
  /-- Check a call that is given. -/
  | check (call : CallText) (options : OptionNames)
  /-- Whether two calls are equal, whatever their functions. -/
  | same (a b : CallText)

/-- What a step answers. -/
inductive Answer where
  | done
  | returned (v : ValueView)
  | resolved (func : Option FunctionView)
  | interface (i : Option Interface)
  | named (name : ValueView)
  | checked (found : Option Violation)
  | compared (same : Bool)

/-- How a step ended, and what happened during it. -/
structure Outcome where
  answer : Except Fault Answer
  events : List Event

/-- A program with the steps to run. -/
structure Session where
  /-- The name of the module, as it is at first. -/
  moduleName : String
  /-- The module is registered under its name. -/
  registered : Bool
  steps : List Step
  /-- A mark above those of all values written out. -/
  firstMark : Nat
  /-- What becomes of warnings. -/
  warnings : WarningUse := .shown

/-! ### Names -/

/-- What a step asks about, with the names it means. -/
def Target.spelled : Target → Target
  | .absent => .absent
  | .path p => .path (p.spelled none)
  | .module => .module
  | .value e => .value (e.spelled none)
  | .builtin name => .builtin name

/-- A running call with the names it means. -/
def CallText.spelled (c : CallText) : CallText :=
  { c with
    owner := c.owner.spelled
    args := Expr.spelledAll none c.args
    func := c.func.spelled }

/-- A step with the names it means. -/
def Step.spelled : Step → Step
  | .define definition => .define (definition.spelled none)
  | .call target args keywords result outside =>
    .call (target.spelled none) (Expr.spelledAll none args) (spelledKeywords none keywords)
      (result.map (meantName none)) outside
  | .act action => .act (action.spelled none)
  | .setDoc target doc => .setDoc (target.spelled none) (doc.spelled none)
  | .resolve owner method => .resolve owner.spelled method
  | .interface target => .interface target.spelled
  | .name target => .name target.spelled
  | .check given options => .check given.spelled options
  | .same a b => .same a.spelled b.spelled

/-! ### Steps -/

/-- Runs text in the program's module. -/
def inModule {α : Type} (x : Run α) : Run α :=
  Run.within (.frame .module) x

/-- The value that a step asks about. -/
def Target.eval : Target → Run Value
  | .absent => return .none
  | .path p => inModule (p.eval Run.ask .toplevel)
  | .module => return .module
  | .value e => inModule (e.eval Run.ask .toplevel)
  | .builtin name => return .builtin name

/-- The running call that a step gives. -/
def CallText.eval (c : CallText) : Run RunningCall := do
  let owner ← c.owner.eval
  let args ← inModule (Expr.evalAll Run.ask .toplevel c.args)
  let func ← c.func.eval
  return ⟨owner, c.method, args, if func.isAbsent then none else some func⟩

namespace RunningCall

/-- The calls have the same owner and method and equal arguments. -/
def equal (call : Call) (a b : RunningCall) : Run Bool := do
  if !(← isEqual call a.owner b.owner) then return false
  if a.method != b.method then return false
  allEqual call a.args b.args

end RunningCall

namespace Step

/-- Runs a step. -/
def run : Step → Run Answer
  | .define definition => inModule do
    bindName .toplevel definition.key (← definition.make Run.ask .toplevel)
    return .done
  | .call target args keywords result outside => do
    let v ← if outside then do
        let (f, args, keywords) ← inModule do
          let f ← target.eval Run.ask .toplevel
          let args ← Expr.evalAll Run.ask .toplevel args
          return (f, args, ← Expr.evalNamed Run.ask .toplevel keywords)
        Run.within (.frame .elsewhere) (Run.ask f args keywords)
      else inModule (callPath Run.ask .toplevel target args keywords)
    keep .toplevel result v
    return .returned (← viewValue Run.ask v)
  | .act action => inModule do
    discard (action.run Run.ask .toplevel)
    return .done
  | .setDoc target doc => inModule do
    let v ← target.eval Run.ask .toplevel
    setMember Run.ask v "__doc__" (← doc.eval Run.ask .toplevel)
    return .done
  | .resolve owner method => do
    match ← DocGuard.resolve Run.ask (← owner.eval) method with
    | none => return .resolved none
    | some f => return .resolved (some (← viewFunction Run.ask f))
  | .interface target => do
    return .interface (← interfaceOf Run.ask (← target.eval))
  | .name target => do
    return .named (← viewName Run.ask (← target.eval))
  | .check given options => do
    return .checked (← checkGiven Run.ask false options (← given.eval))
  | .same a b => do
    let a ← a.eval
    return .compared (← a.equal Run.ask (← b.eval))

/-- Runs a step and tells how it ended. What nothing refers to then is given up. -/
def outcome (step : Step) : StateM Store Outcome := fun s =>
  let world := World.at depthLimit []
  let (answer, m) := Run.on world step.spelled.run ⟨s, []⟩
  let m := (Run.on world (inModule (giveUp Run.ask)) m).2
  (⟨answer, m.events⟩, m.store)

end Step

namespace Session

/-- The globals of a module before anything was defined in it. -/
def firstGlobals (name : Value) : Bindings Value :=
  [("__name__", name), ("__doc__", .none), ("__package__", .none), ("__loader__", .none),
   ("__spec__", .none), ("__builtins__", .attributes (.library "builtins"))]

/-- The store before the first step. -/
def start (session : Session) : Store where
  warnings := session.warnings
  registered := if session.registered then some session.moduleName else none
  globals := firstGlobals (.str session.firstMark session.moduleName)
  functions := #[]
  classes := #[]
  cells := #[]
  written := []
  attributes := []
  contents := []
  reclassed := []
  adopted := []
  stored := []
  codes := []
  writing := []
  places := []
  instances := []
  firstMark := session.firstMark
  nextMark := session.firstMark + 1

/-- The outcomes of all steps, one after the other. -/
def run (session : Session) : List Outcome :=
  (session.steps.mapM Step.outcome session.start).1

end Session

end DocGuard
