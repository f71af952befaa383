import DocGuard.Program.Library
/-!
Calling.

A call of a function binds the arguments, enters the body with a frame of its own, and runs it; a
call of a guarded function first judges the arguments. Any other value is called as its class says.
What is called inside is called one level deeper, and sees one more frame. `callAt n` allows `n`
levels, so every run ends.
-/

namespace DocGuard

/-- What a call gives to a parameter: its argument, what is left over if it collects that, else its
default. Collections of what is left over carry the mark given. -/
def Binding.argument (binding : Binding) (mark : Nat) (p : Param Value) : Option Value :=
  match p.kind with
  | .variadic => some (.tuple mark binding.surplus)
  | .keywords => some (.dict mark (keywordEntries binding.surplusKeywords))
  | _ => (binding.given.get? p.name).or p.default

/-- The variables of a call of its own with what they hold at first, as a running function lists
them: first the parameters, then the names that the body binds. -/
def ownVariables (sig : Signature) (body : List Action) (binding : Binding) (mark : Nat) :
    List (String × Option Value) :=
  (paramOrder sig).map (fun p => (p.name, binding.argument mark p))
    ++ (bodyNames (sig.map Param.name) body).map (·, none)

/-- Where the body of a function stands. -/
def Env.ofCall (sig : Signature) (code : Code) (vars : Bindings CellId) : Env where
  members := []
  vars := vars
  receiver := sig.positions.head?.bind vars.get?
  qualifier := code.qualifiedName ++ ".<locals>."
  classNames := []

/-- Runs a body that was entered, in a frame of its own, and gives up what only this call used. -/
def runEntered (call : Call) (sig : Signature) (code : Code) (mark : Nat)
    (vars : Bindings CellId) : Run Value := do
  let result ← Run.within (.frame (.call mark code vars))
    (runBody call (.ofCall sig code vars) code.body)
  let result := result.getD .none
  Run.retaining [result] (giveUp call)
  return result

/-- Enters a body and runs it. What the call collects and its frame have marks of their own. -/
def runCode (call : Call) (sig : Signature) (code : Code) (outer : Bindings CellId)
    (binding : Binding) : Run Value := do
  let collected ← Run.newMark
  let mark ← Run.newMark
  let own ← Run.newVariables (ownVariables sig code.body binding collected)
  Run.emit (.entered code.label)
  runEntered call sig code mark (own ++ outer)

/-- Judges a call of a guarded function, and calls it. Arguments that do not bind are left to the
function to refuse. -/
def callGuarded (call : Call) (g : Guard) (args : List Value) (keywords : Bindings Value) :
    Run Value := do
  if !(← Run.hasRoom Guard.room) then throw .tooDeep
  let inProgram := Frame.inProgram (← Run.nearest)
  let values := g.judgedValues? args keywords
  let result ← Run.within (.frame (.guarding g.inner g.place args keywords values)) do
    g.examine call inProgram values
    call (.function g.inner) args keywords
  Run.retaining [result] (giveUp call)
  return result

/-- Calls a function. -/
def callFunction (call : Call) (f : Function) (args : List Value) (keywords : Bindings Value) :
    Run Value := do
  match f.behaviour with
  | .run code outer =>
    let sig := (← Run.store).codeSignature code f.defaults f.keywordDefaults
    match sig.bind? args keywords with
    | none => throw .badCall
    | some binding => runCode call sig code outer binding
  | .guard g => callGuarded call g args keywords

/-- Calls a member of a builtin class, with the receiver as its first argument. -/
def callSlot (call : Call) (kind : SlotKind) (owner name : String) (args : List Value)
    (keywords : Bindings Value) : Run Value := do
  match kind, args with
  | .maker, _ => callStatic call owner name args keywords
  | .operation, v :: rest | .method, v :: rest =>
    if !(← Run.store).isOf owner v then throw .badCall
    match name, v with
    | "__call__", .cls c => construct call c rest keywords
    | "__call__", v => do call ((← Run.store).content v) rest keywords
    | _, _ => callMember call owner name v rest keywords
  | .classMethod, .cls c :: rest =>
    if (← Run.store).derives c (.builtin owner) then callClassMember call owner name c rest keywords
    else throw .badCall
  | _, _ => throw .badCall

/-- The variables where a piece of text stands, as a dictionary. -/
def localsHere : Run Value := do
  match ← Run.nearest with
  | some (.call mark code vars) => do
    discard (Run.listLocals (.call mark code vars))
    return .dict mark []
  | some (.classBody name place members) =>
    newNamespace ((← Run.store).locals (.classBody name place members))
  | some (.guarding inner place args keywords values) =>
    newNamespace ((← Run.store).locals (.guarding inner place args keywords values))
  | some (.checking owner func name params) =>
    newNamespace ((← Run.store).locals (.checking owner func name params))
  | _ => return .attributes .module

/-- Calls a callable of the language where a piece of text stands. -/
def callNamed (call : Call) (name : String) (args : List Value) (keywords : Bindings Value) :
    Run Value := do
  match name, args, keywords with
  | "locals", [], [] | "vars", [], [] => localsHere
  | "dir", [], [] => do
    let held ← localsHere
    let names := (((← Run.store).namespace? held).getD []).map Prod.fst
    newNames (sortStrings names)
  | _, _, _ => callLibrary call name args keywords

/-- Calls a value in the way of a builtin class. -/
def callPlainly (call : Call) (v : Value) (args : List Value) (keywords : Bindings Value) :
    Run Value := do
  let s ← Run.store
  match s.content v with
  | .function id =>
    match s.functions[id]? with
    | some f => callFunction call f args keywords
    | none => throw .badCall
  | .method _ receiver func => call func (receiver :: args) keywords
  | .staticMethod _ func => call func args keywords
  | .slot kind owner name => callSlot call kind owner name args keywords
  | .boundSlot _ kind receiver owner name =>
    callSlot call kind owner name (receiver :: args) keywords
  | .builtin name => callNamed call name args keywords
  | .cls c => construct call c args keywords
  | .tuple _ (origin :: _) =>
    if s.isOf "GenericAlias" v then callAlias call v origin args keywords else throw .badCall
  | _ => throw .badCall

/-- Calls a value, with a way to call what is called inside. -/
def callWith (call : Call) (v : Value) (args : List Value) (keywords : Bindings Value) :
    Run Value := do
  let given := v :: args ++ keywords.map Prod.snd
  match v, (← Run.store).special? v "__call__" with
  -- a function keeps its arguments itself
  | .function _, _ | .method _ _ _, _ => callPlainly call v args keywords
  | _, none => throw .badCall
  | _, some (.slot _ _ _) => Run.retaining given (callPlainly call v args keywords)
  | _, some operation => Run.retaining given (callSpecialWith call operation v args keywords)

/-- What a call of a value comes to inside some layers, with at most `n` calls one inside the other.
-/
def callAt : (n : Nat) → List Layer → Value → List Value → Bindings Value → Machine →
    Except Fault Value × Machine
  | 0, _, _, _, _, m => (.error .tooDeep, m)
  | n + 1, layers, v, args, keywords, m =>
    Run.on ⟨layers, n, callAt n⟩ (callWith Run.ask v args keywords) m

/-- The world inside some layers, where at most `n` calls go on one inside the other. -/
def World.at (n : Nat) (layers : List Layer) : World :=
  ⟨layers, n, callAt n⟩

/-- How many calls may go on one inside the other. -/
def depthLimit : Nat := 1000

end DocGuard
