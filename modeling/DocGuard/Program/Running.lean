import DocGuard.Program.Definition
import DocGuard.Program.Interface
/-!
The running call, seen from inside.

A frame knows its code and its variables, but not the function that runs. The function is searched
for where it may be held: among the globals, in the class of the receiver, in the classes among
the globals, among the variables of all frames from the running one outwards; and if nothing there
runs the frame's code, whatever the global of the frame's name holds is taken, as long as it can be
called.

From the function found follow the arguments: the variables of its parameters, as they are now. A
variable that still holds the very object that is the parameter's default counts as not supplied.
-/

namespace DocGuard

/-- A call that is going on: who is called, and with what. -/
structure RunningCall where
  /-- The class or module that the function belongs to, or the absent value. -/
  owner : Value
  /-- The name of the function, if it is known. -/
  method : Option String
  /-- The arguments in the order of the parameters, the absent value for one not supplied. -/
  args : List Value
  /-- The function, if it is known. -/
  func : Option Value

namespace Frame

/-- The name of the code that a frame runs, and its place, if it has a name and is no function of the
modules of checks. All guards run the same code. -/
def code? : Frame → Option (String × Nat)
  | module | elsewhere | nameless | checking _ _ _ _ => none
  | classBody name place _ => some (name, place)
  | call _ code _ => some (code.name, code.place)
  | guarding _ _ _ _ _ => some (guardCode.name, guardCode.place)

/-- The globals that the code of a frame can speak of. Those of guards belong to another module, where
nothing has the name of a guard. -/
def globals (s : Store) : Frame → Bindings Value
  | guarding _ _ _ _ _ | checking _ _ _ _ => []
  | _ => s.globals

end Frame

/-! ### The search -/

section Search

variable (call : Call) (frame : Frame)

/-- The global of this name, if it runs the code at `place`. -/
def globalRunning (name : String) (place : Nat) : Run (Option Value) := do
  match (frame.globals (← Run.store)).get? name with
  | some v => return if ← runs call place v then some v else none
  | none => return none

/-- What the class of the receiver offers. -/
def receiverOffers (locals : Bindings Value) (name : String) (place : Nat) :
    Run (Option Value) := do
  match locals.get? "self" with
  | some receiver => offered call (.cls ((← Run.store).classOf receiver)) name (some place)
  | none => return none

/-- What the class offers that a class method was called on. -/
def classOffers (locals : Bindings Value) (name : String) (place : Nat) :
    Run (Option Value) := do
  match locals.get? "cls" with
  | none => return none
  | some v => if ← countsAsClass call v then offered call v name (some place) else return none

/-- What those classes among some values offer that have a member of this name themselves. -/
def classesOffer (name : String) (place : Nat) : List Value → Run (Option Value)
  | [] => return none
  | v :: rest => do
    if !(← countsAsClass call v) then return ← classesOffer name place rest
    if (← ownMemberShown? call v name).isNone then return ← classesOffer name place rest
    match ← offeredRunning call v name place with
    | some f => return some f
    | none => classesOffer name place rest

/-- What the classes among the globals offer that have a member of this name themselves. -/
def globalsOffer (name : String) (place : Nat) : Run (Option Value) := do
  classesOffer call name place ((frame.globals (← Run.store)).map Prod.snd)

/-- What some variables hold: a value that runs the code, or a class that offers one that does. -/
def valuesHold (name : String) (place : Nat) : List Value → Run (Option Value)
  | [] => return none
  | v :: rest => do
    if ← runs call place v then return some v
    if !(← countsAsClass call v) then return ← valuesHold name place rest
    match ← offeredRunning call v name place with
    | some f => return some f
    | none => valuesHold name place rest

/-- What the variables of some frames hold, one frame after the other. -/
def framesHold (name : String) (place : Nat) : List Frame → Run (Option Value)
  | [] => return none
  | frame :: rest => do
    match ← valuesHold call name place ((← Run.listLocals frame).map Prod.snd) with
    | some f => return some f
    | none => framesHold name place rest

/-- The global of this name, if it can be called. -/
def globalCallable (name : String) : Run (Option Value) := do
  let s ← Run.store
  return ((frame.globals s).get? name).filter s.isCallable

/-- The first thing that one of some searches finds. -/
def firstFound : List (Run (Option Value)) → Run (Option Value)
  | [] => return none
  | search :: rest => do
    match ← search with
    | some f => return some f
    | none => firstFound rest

/-- The function that runs in a frame, of which these are the variables, with these frames around it.
It has this name and runs the code at `place`. -/
def runningFunction (around : List Frame) (locals : Bindings Value) (name : String)
    (place : Nat) : Run (Option Value) :=
  Run.inFunction "docparams.context" "_func_from_frame" [] (firstFound [
    globalRunning call frame name place,
    receiverOffers call locals name place,
    classOffers call locals name place,
    globalsOffer call frame name place,
    framesHold call name place (frame :: around),
    globalCallable frame name])

end Search

/-! ### The owner -/

/-- The module that is registered under the name that the module of a frame shows. -/
def registeredModule (call : Call) (frame : Frame) : Run Value := do
  if let .guarding _ _ _ _ _ := frame then return .library "docparams.validate"
  let name := ((← Run.store).globals.get? "__name__").getD (sharedText "")
  requireKey call name
  let s ← Run.store
  match s.textOf? name with
  | none => return .none
  | some text =>
    if s.registered == some text then return .module
    else return ((loadedModule? text).map .library).getD .none

/-- The class or module that a frame's function belongs to. -/
def ownerOf (call : Call) (frame : Frame) (locals : Bindings Value) : Run Value :=
  Run.inFunction "docparams.context" "_owner_of" [] do
    match locals.get? "self", locals.get? "cls" with
    | some receiver, _ => return .cls ((← Run.store).classOf receiver)
    | none, some v =>
      if ← isInstance call v (.builtin "type") then return v else registeredModule call frame
    | none, none => registeredModule call frame

/-! ### The arguments -/

/-- The value of a parameter's variable, or the absent value if the variable holds nothing, or
nothing but the default. -/
def supplied (sig : Signature) (locals : Bindings Value) (name : String) : Value :=
  let held := (locals.get? name).getD .none
  match sig.default? name with
  | some default => if held.same default then .none else held
  | none => held

/-- The values without the absent ones at the end. -/
def dropTrailing (values : List Value) : List Value :=
  (values.reverse.dropWhile Value.isAbsent).reverse

/-- The arguments that a frame's variables hold for some parameters. -/
def argumentsOf (sig : Signature) (params : List String) (locals : Bindings Value) : List Value :=
  dropTrailing (params.map (supplied sig locals))

/-- The signature of a function, or none if it cannot be read. -/
def signatureShown (call : Call) (func : Value) : Run Signature :=
  Run.inFunction "docparams.context" "_defaults_of" [("func", func)] do
    return (← Run.orUnfit (signatureOf call func)).getD []

/-- The call that goes on in a frame that runs code of this name at `place`. -/
def callIn (call : Call) (frame : Frame) (around : List Frame) (name : String) (place : Nat) :
    Run RunningCall := do
  let locals ← Run.listLocals frame
  match ← runningFunction call frame around locals name place with
  | none => return ⟨.none, name, [], none⟩
  | some func =>
    let owner ← ownerOf call frame locals
    let params := ((← interfaceOf call func).map Interface.params).getD []
    return ⟨owner, name, argumentsOf (← signatureShown call func) params locals, func⟩

/-- The call that goes on in the first of some frames; `none` if it has no name. -/
def runningCallAt (call : Call) (frames : List Frame) : Run (Option RunningCall) :=
  Run.inFunction "docparams.context" "caller_context" [] do
    match frames with
    | [] => return none
    -- a function of the modules of checks is the global of its name there
    | .checking owner func name params :: _ =>
      return some ⟨owner, name, dropTrailing (params.map Prod.snd), func⟩
    | frame :: around =>
      match frame.code? with
      | none => return none
      | some (name, place) => return some (← callIn call frame around name place)

/-- The call that goes on `depth` frames out. -/
def runningCall (call : Call) (frames : List Frame) (depth : Int) : Run (Option RunningCall) :=
  runningCallAt call (frames.drop depth.toNat)

/-- A running call as it is shown. -/
def viewCall (call : Call) (c : RunningCall) : Run CallView := do
  let owner ← viewOwner call c.owner
  let args ← c.args.mapM (viewValue call)
  let func ← match c.func with
    | some f => do pure (some (← viewFunction call f))
    | none => pure none
  return ⟨owner, c.method.getD "", args, func⟩

end DocGuard
