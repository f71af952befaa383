import DocGuard.Program.Field
/-!
What a member of a class becomes when it is reached through a value.

A function becomes a method of the value, a property runs its getter, a member that belongs to the
class itself is bound to the class; anything else stays what it is. A class defined by a program can
say what its instances become. A member that also says what happens when it is given a value comes
before the attributes of the value itself: `Store.guardsAttribute` tells these apart.
-/

namespace DocGuard

/-- The member says itself what happens when it is given a value or taken away. -/
def Store.guardsAttribute (s : Store) (member : Value) : Bool :=
  (s.special? member "__set__").isSome || (s.special? member "__delete__").isSome

/-- What a member of a builtin class becomes. Only instances of that class can reach it. -/
def reachSlot (call : Call) (kind : SlotKind) (owner name : String) (receiver : Option Value)
    (cls : ClassRef) : Run Value := do
  let s ← Run.store
  match kind, receiver with
  | .operation, some v | .method, some v =>
    if s.isOf owner v then return .boundSlot (← Run.newMark) kind v owner name
    else throw .badCall
  | .classMethod, _ =>
    if s.derives cls (.builtin owner) then
      return .boundSlot (← Run.newMark) kind (.cls cls) owner name
    else throw .badCall
  | .field, some v | .stored, some v =>
    if s.isOf owner v then readField call owner name v else throw .badCall
  | _, _ => return .slot kind owner name

/-- What a value becomes as a member of the class `cls` that is reached through `receiver`, or
through the class itself, if its own class says nothing else about it. -/
def reachPlainly (call : Call) (member : Value) (receiver : Option Value) (cls : ClassRef) :
    Run Value := do
  let s ← Run.store
  match s.content member, receiver with
  | .function _, some v => return .method (← Run.newMark) v member
  | .staticMethod _ func, _ => return func
  | .classMethod _ func, _ =>
    match s.special? func "__get__" with
    | some get => call get [func, .cls cls, .cls cls] []
    | none => return .method (← Run.newMark) (.cls cls) func
  | .property _ getter _ _, some v =>
    if getter.isAbsent then throw (.noMember "") else call getter [v] []
  | .storage cls name, some v => readStorage cls name v
  | .slot .function _ _, some v => return .method (← Run.newMark) v member
  | .slot kind owner name, _ => reachSlot call kind owner name receiver cls
  | _, _ => return member

/-- What a member of the class `cls` becomes when it is reached through `receiver`, or through the
class itself. -/
def reach (call : Call) (member : Value) (receiver : Option Value) (cls : ClassRef) :
    Run Value := do
  match (← Run.store).special? member "__get__" with
  | none => return member
  | some (.slot _ _ _) => reachPlainly call member receiver cls
  | some get => call get [member, receiver.getD .none, .cls cls] []

/-- Calls an operation of the language that the class of a value defines, with keywords. -/
def callSpecialWith (call : Call) (operation : Value) (receiver : Value) (args : List Value)
    (keywords : Bindings Value) : Run Value := do
  let s ← Run.store
  match operation with
  -- a function needs no method of its own to be called
  | .function id => call (.function id) (receiver :: args) keywords
  | _ => call (← reach call operation (some receiver) (s.classOf receiver)) args keywords

/-- Calls an operation of the language that the class of a value defines. -/
def callSpecial (call : Call) (operation : Value) (receiver : Value) (args : List Value) :
    Run Value :=
  callSpecialWith call operation receiver args []

/-- Gives a member that guards an attribute the value meant for it. -/
def giveThrough (call : Call) (member : Value) (receiver v : Value) : Run Unit := do
  let s ← Run.store
  match s.special? member "__set__", s.content member with
  | some (.slot _ _ _), .property _ _ setter _ =>
    if setter.isAbsent then throw (.noMember "") else discard (call setter [receiver, v] [])
  | some (.slot _ _ _), .slot _ owner name =>
    if s.isOf owner receiver then writeField call owner name receiver v else throw .badCall
  | some (.slot _ _ _), .storage cls name => writeStorage cls name receiver (some v)
  | some (.slot _ _ _), _ => throw .badCall
  | some set, _ => discard (callSpecial call set member [receiver, v])
  | none, _ => throw (.noMember "__set__")

/-- Takes away the value of an attribute that a member guards. -/
def takeThrough (call : Call) (member : Value) (receiver : Value) : Run Unit := do
  let s ← Run.store
  match s.special? member "__delete__", s.content member with
  | some (.slot _ _ _), .property _ _ _ deleter =>
    if deleter.isAbsent then throw (.noMember "") else discard (call deleter [receiver] [])
  | some (.slot _ _ _), .slot _ owner name =>
    if s.isOf owner receiver then clearField owner name receiver else throw .badCall
  | some (.slot _ _ _), .storage cls name => writeStorage cls name receiver none
  | some (.slot _ _ _), _ => throw .badCall
  | some delete, _ => discard (callSpecial call delete member [receiver])
  | none, _ => throw (.noMember "__delete__")

end DocGuard
