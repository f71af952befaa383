import DocGuard.Program.Running
/-!
The checks that a program asks for while it runs.

A function may have its own arguments checked: the running call is discovered from the frames and
judged. A function may also be guarded: its documentation and signature are read once, and each
call is judged before it is let through. In both cases wrong options are refused before anything is
looked at. The types of the arguments are asked of the program (see `typeNameOf`), since a class
that it defines can show itself as another one.
-/

namespace DocGuard

/-- The frames seen from an action, which may stand in a function without a name. -/
def framesSeen (stack : List Frame) (nested : Bool) : List Frame :=
  if nested then .nameless :: stack else stack

/-- The frame runs text of the program. -/
def Frame.inProgram (frame : Option Frame) : Bool :=
  match frame with
  | none | some .elsewhere | some (.guarding _ _ _ _ _) | some (.checking _ _ _ _) => false
  | some _ => true

/-- What a tag finds in a running program. -/
def findIn (call : Call) (names : List String) (found : Tag × Value) : Run Finding := do
  return .ofTag names found.1 (← typeNameOf call found.2)

/-- Notes in the globals that a warning was given, as far as the program warns itself: they hold
what is noted, unless they say that nothing is to be. -/
def noteWarning (inProgram : Bool) : Run Unit := do
  if !inProgram then return ()
  let name := "__warningregistry__"
  let s ← Run.store
  match s.globals.get? name with
  | none => do
    let noted ← newNamespace [("version", ← Run.newInt 1)]
    Run.change fun s => { s with globals := s.globals.set name noted }
  | some held => if s.isAbsentOr "dict" held then return () else throw .badCall

/-- The name of a function as it is put into the log: not at all if it counts as false. -/
def loggedName? (call : Call) (place : Value) : Run (Option String) := do
  if ← isTrue call place then return some (← textIn call place) else return none

/-- The name of a function as it is put into the wording of a failure: not at all if it counts as
false. -/
def saidName? (call : Call) (place : Value) : Run (Option String) := do
  if !(← isTrue call place) then return none
  match place with
  | .str _ text => return some text
  | place =>
    let text ← call (.builtin "format") [place] []
    return some (((← Run.store).textOf? text).getD "")

/-- Gives a warning. It is noted before anything else, and then it becomes what becomes of warnings. -/
def giveWarning (inProgram : Bool) (said : Mismatch) : Run Unit := do
  noteWarning inProgram
  match (← Run.store).warnings with
  | .shown => Run.emit (.reported (.warning said))
  | .dropped => return ()
  | .failing => throw (.warned said)

/-- The failure about a violation in the function at `place`. -/
def mismatchAt (call : Call) (place : Value) (v : Violation) : Run Mismatch :=
  Run.within (.frame (.checking (.cls (.builtin "ParameterTypeMismatch"))
    (.slot .function "ParameterTypeMismatch" "__init__") "__init__" [("where", place)])) do
    return ⟨v, ← saidName? call place⟩

/-- Follows the verdict on some findings about the function at `place`. -/
def followFindings (call : Call) (inProgram : Bool) (reaction : OnMismatch) (place : Value)
    (findings : List Finding) : Run (Option Violation) := do
  if findings.isEmpty then
    let name ← loggedName? call place
    return ← Run.follow (.ofFindings reaction name findings)
  match Finding.firstViolation? findings with
  | none => Run.follow (.ofFindings reaction none findings)
  | some v => do
    Run.emit (.reported (.log (.mismatch (← loggedName? call place) v)))
    let said ← mismatchAt call place v
    match reaction with
    | .fail => throw (.mismatch said ((← Run.store).textOf? place))
    | .warn => do
      giveWarning inProgram said
      return some v

/-- What the tags of a docstring find, which may be missing. -/
def extractIn (call : Call) (styles : List Style) (doc : Option String) (names : List String)
    (args : List Value) : Run (List Finding) :=
  Run.inFunction "docparams.extract" "extract" []
    ((Finding.arguedIn styles doc names args).mapM (findIn call names))

/-- Judges arguments by the documentation of the function at `place`, and follows the verdict. -/
def judgeIn (call : Call) (inProgram : Bool) (options : CheckOptions) (place : Value)
    (doc : Option String) (names : List String) (args : List Value) : Run (Option Violation) :=
  Run.inFunction "docparams.validate" "_judge" [] do
    let findings ← extractIn call options.styles doc names args
    followFindings call inProgram options.reaction place findings

/-- The function of a call: the one that is known if it counts as true, else the one that its owner
has under its name. -/
def calledFunction (call : Call) (c : RunningCall) : Run (Option Value) := do
  match c.func with
  | some f => if ← isTrue call f then return some f else resolve call c.owner c.method
  | none => resolve call c.owner c.method

/-- Checks a call of `method`, if the function it calls has something to check. -/
def checkMethod (call : Call) (inProgram : Bool) (options : CheckOptions) (c : RunningCall)
    (method : String) : Run (Option Violation) := do
  match ← calledFunction call c with
  | none => Run.follow (.skipped (.undocumented method))
  | some f =>
    match ← checkable? call f with
    | none => Run.follow (.skipped (.undocumented method))
    | some (doc, params) =>
      let name ← callableName call f
      let place := if ← isTrue call name then name else sharedText method
      judgeIn call inProgram options place doc params c.args

/-- Checks a running call. Without a name or without arguments there is nothing to check. -/
def checkCall (call : Call) (inProgram : Bool) (options : CheckOptions) (c : Option RunningCall) :
    Run (Option Violation) :=
  match c.bind fun c => (placeName? c.method).map (c, ·) with
  | none => Run.follow (.skipped .noCaller)
  | some (c, method) =>
    if c.args.isEmpty then Run.follow (.skipped (.noArguments method))
    else checkMethod call inProgram options c method

/-! ### Checks that are asked for -/

/-- Checks the arguments of the call that goes on in the first of some frames. -/
def checkFrames (call : Call) (names : OptionNames) (frames : List Frame) :
    Run (Option Violation) :=
  Run.inFunction "docparams.validate" "validate_arguments" [] do
    let options ← Run.options names
    checkCall call (Frame.inProgram frames.head?) options (← runningCall call frames 0)

/-- Checks the arguments of the running call, seen from an action, which may stand in a function
without a name. -/
def checkRunning (call : Call) (names : OptionNames) (nested : Bool) : Run (Option Violation) := do
  checkFrames call names (framesSeen (framesOf (← Run.layers)) nested)

/-- Checks a call that is given, which the program may ask for or another module. -/
def checkGiven (call : Call) (inProgram : Bool) (names : OptionNames) (given : RunningCall) :
    Run (Option Violation) :=
  Run.inFunction "docparams.validate" "validate_arguments" [] do
    let options ← Run.options names
    checkCall call inProgram options (some given)

/-- Checks arguments that are given, by a docstring that may be missing. -/
def checkArguments (call : Call) (inProgram : Bool) (names : OptionNames) (place : Value)
    (doc : Option String) (params : List String) (args : List Value) : Run (Option Violation) :=
  Run.inFunction "docparams.validate" "check_arguments" [("args", .tuple 0 args)] do
    let options ← Run.options names
    judgeIn call inProgram options place doc params args

/-- What the tags of a docstring find in the styles of these names. -/
def extractNamed (call : Call) (styleNames : List String) (doc : Option String)
    (names : List String) (args : List Value) : Run (List Finding) :=
  match Style.ofNames styleNames with
  | .ok styles => extractIn call styles doc names args
  | .error e => throw (.options e)

/-- The guard of a function. -/
def guardOf (f : Function) (id : FunctionId) (g : Guard) : Function :=
  { f with
    defaults := .none
    keywordDefaults := .none
    behaviour := .guard g
    attributes := f.attributes.set "__wrapped__" (.function id) }

/-- Guards a function. One without documentation or parameters is left as it is. -/
def guardFunction (call : Call) (names : OptionNames) (id : FunctionId) : Run FunctionId :=
  Run.inFunction "docparams.validate" "validated" [("func", .function id)] do
    let options ← Run.options names
    let checkable ← checkable? call (.function id)
    let name ← callableName call (.function id)
    let s ← Run.store
    match checkable, s.functions[id]? with
    | some (doc, params), some f =>
      Run.newFunction (guardOf f id ⟨id, options, name, doc, params, s.functionSignature f⟩)
    | _, _ => do
      Run.emit (.reported (.log (.notGuarded (← textIn call name))))
      return id

namespace Guard

/-- The values that a call which binds gives to the parameters that the documentation can speak of.
Only arguments that were given count. -/
def argumentsIn (g : Guard) (binding : Binding) : List Value :=
  g.params.map fun name => (binding.given.get? name).getD .none

/-- The values that the guard judges of a call, if it binds at all. -/
def judgedValues? (g : Guard) (args : List Value) (keywords : Bindings Value) :
    Option (List Value) :=
  (g.signature.bindStrictly? args keywords).map g.argumentsIn

/-- Judges the arguments of a call, if it binds at all. -/
def examine (call : Call) (inProgram : Bool) (g : Guard) (values : Option (List Value)) :
    Run Unit :=
  match values with
  | none => return ()
  | some values =>
    discard (judgeIn call inProgram g.options g.place g.doc g.params values)

/-- More calls than validation itself makes one inside the other, apart from what program code that it
asks makes. -/
def room : Nat := 50

end Guard

end DocGuard
