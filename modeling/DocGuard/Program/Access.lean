import DocGuard.Program.Reach
/-!
Members of values: reading, giving and taking them.

A member of a value is looked for in its class and the ancestors of it, and among the attributes of
the value; what is found in the class is reached through the value (see `DocGuard.Program.Reach`).
For a class its own ancestors are searched before those of its class, a view of the parent classes
searches only these, a method passes on to its function what it does not have itself, and a module
has its globals. The class of a value can replace all of this by operations of its own.
-/

namespace DocGuard

/-- Changes the attributes that were given to a value itself. -/
def changeGivenAttributes (v : Value) (f : Bindings Value → Bindings Value) : Run Unit :=
  match v with
  | .function id => Run.changeFunction id fun g => { g with attributes := f g.attributes }
  | .module => Run.change fun s => { s with globals := f s.globals }
  | .cls c => Run.changeClass c fun info => { info with members := f info.members }
  | .object mark _ | .staticMethod mark _ | .classMethod mark _ | .proxy mark _ _ =>
    Run.changeAttributes mark f
  | _ => return ()

/-- Changes the attributes that a value has itself. -/
def changeOwnAttributes (v : Value) (f : Bindings Value → Bindings Value) : Run Unit := do
  let s ← Run.store
  match s.adopted? v with
  | none => changeGivenAttributes v f
  | some (.attributes owner) => changeGivenAttributes owner f
  | some d =>
    match s.content d, d.contentMark? with
    | .dict _ entries, some mark =>
      let others := entries.filter fun entry => (s.textOf? entry.1).isNone
      Run.changeContent mark (.dict mark (Store.entriesNamed (f (s.named entries)) ++ others))
    | _, _ => return ()

/-! ### Reading -/

/-- A member of a value: what guards an attribute in its class, else an attribute of its own, else
any other member of its class. -/
def objectMember (call : Call) (v : Value) (name : String) : Run Value := do
  let s ← Run.store
  let cls := s.classOf v
  let found := s.inherited? cls name
  match found.filter s.guardsAttribute, (s.ownAttributes v).get? name, found with
  | some member, _, _ => reach call member (some v) cls
  | none, some own, _ => return own
  | none, none, some member => reach call member (some v) cls
  | none, none, none => throw (.noMember name)

/-- A member of a class: what guards an attribute in its own class, else what it or an ancestor has,
else any other member of its own class. -/
def classMember (call : Call) (c : ClassRef) (name : String) : Run Value := do
  let s ← Run.store
  let kind := (s.classInfo c).kind
  let above := s.inherited? kind name
  match above.filter s.guardsAttribute, s.inherited? c name, above with
  | some member, _, _ => reach call member (some (.cls c)) kind
  | none, some member, _ => reach call member none c
  | none, none, some member => reach call member (some (.cls c)) kind
  | none, none, none => throw (.noMember name)

/-- A member that a class behind `after` in the ancestry of `start` has, reached through the
receiver. The view has a class of its own, and without a receiver nothing else. -/
def parentMember (call : Call) (view : Value) (after : ClassRef) (receiver : Value)
    (start : ClassRef) (name : String) : Run Value := do
  let s ← Run.store
  let found := if name = "__class__" || receiver.isAbsent then none
    else s.memberOf? (s.ancestryBehind start after) name
  match found with
  | some member =>
    let through := match receiver with
      | .cls c => if c = start then none else some receiver
      | _ => some receiver
    reach call member through start
  | none => objectMember call view name

/-- A member of a method: what methods have, else what the function has. -/
def methodMember (call : Call) (v func : Value) (name : String) : Run Value := do
  let s ← Run.store
  match s.special? v name with
  | some member => reach call member (some v) (s.classOf v)
  | none => call (.builtin "getattr") [func, sharedText name] []

/-- A member of the program's module. A global can answer for those that are missing. -/
def moduleMember (call : Call) (v : Value) (name : String) : Run Value := do
  match ← Run.attempt (objectMember call v name) with
  | .ok member => return member
  | .error e =>
    match e.isMissing, (← Run.store).globals.get? "__getattr__" with
    | true, some answer => call answer [sharedText name] []
    | _, _ => throw e

/-- The members that a class with parameters has itself. -/
def aliasOwn : List String :=
  ["__class__", "__origin__", "__args__", "__unpacked__", "__parameters__",
   "__typing_unpacked_tuple_args__", "__mro_entries__", "__reduce_ex__", "__reduce__", "__copy__",
   "__deepcopy__"]

/-- A member of a value, read in the way of the builtin class `way`. -/
def plainMember (call : Call) (way : String) (v : Value) (name : String) : Run Value := do
  match way, (← Run.store).content v with
  | "type", .cls c => classMember call c name
  | "super", .parent _ after receiver start => parentMember call v after receiver start name
  | "method", .method _ _ func => methodMember call v func name
  | "module", .module => moduleMember call v name
  | "GenericAlias", .tuple _ (origin :: _) =>
    if aliasOwn.contains name then objectMember call v name
    else call (.builtin "getattr") [origin, sharedText name] []
  | "UnionType", _ =>
    if name = "__module__" then return sharedText (BuiltinClass.home way)
    else objectMember call v name
  | _, _ => objectMember call v name

/-- The member of a value under a name. -/
def getMember (call : Call) (v : Value) (name : String) : Run Value := do
  let s ← Run.store
  let first := match s.special? v "__getattribute__" with
    | some (.slot _ way _) => plainMember call way v name
    | some operation => do callSpecial call operation v [← Run.newText name]
    | none => objectMember call v name
  match s.special? v "__getattr__" with
  | none => first
  | some operation =>
    match ← Run.attempt first with
    | .ok member => return member
    | .error e => if e.isMissing then callSpecial call operation v [← Run.newText name] else throw e

/-- The member of a value under a name, if there is one. -/
def getMember? (call : Call) (v : Value) (name : String) : Run (Option Value) :=
  Run.orMissing (getMember call v name)

/-- Fails because of a value, after writing it out for the message. -/
def refuse {α : Type} (call : Call) (v : Value) (e : String → Fault) : Run α := do
  let text ← call (.builtin "repr") [v] []
  throw (e (((← Run.store).textOf? text).getD ""))

/-- What a value holds under a key, asked by its class. A class that cannot be asked this way tells
it itself, by a member of its own. -/
def itemUnder (call : Call) (v key : Value) : Run Value := do
  match (← Run.store).special? v "__getitem__", v with
  | some operation, _ => callSpecial call operation v [key]
  | none, .cls _ => do
    match ← getMember? call v "__class_getitem__" with
    | some .none | none => throw .badCall
    | some member => call member [key] []
  | none, _ => throw .badCall

/-! ### Giving -/

/-- Gives a value a member: through what guards the attribute, else as an attribute of its own. -/
def giveToObject (call : Call) (target : Value) (name : String) (v : Value) : Run Unit := do
  let s ← Run.store
  match (s.special? target name).filter s.guardsAttribute with
  | some member => giveThrough call member target v
  | none =>
    if !s.takesAttributes target then throw (.noMember name)
    else changeOwnAttributes target fun held => held.set name v

/-- Gives a class a member. Builtin classes take none. -/
def giveToClass (call : Call) (c : ClassRef) (name : String) (v : Value) : Run Unit := do
  let s ← Run.store
  match (s.special? (.cls c) name).filter s.guardsAttribute with
  | some member => giveThrough call member (.cls c) v
  | none => Run.changeClass c fun info => { info with members := info.members.set name v }

/-- Gives a value a member under a name. -/
def setMember (call : Call) (target : Value) (name : String) (v : Value) : Run Unit := do
  let s ← Run.store
  match s.special? target "__setattr__", target with
  | some (.slot _ _ _), .cls c => giveToClass call c name v
  | some (.slot _ _ _), _ | none, _ => giveToObject call target name v
  | some operation, _ => discard (callSpecial call operation target [← Run.newText name, v])

/-! ### Taking -/

/-- Takes a member from a value, which has to have it itself unless something guards it. -/
def takeFromObject (call : Call) (target : Value) (name : String) : Run Unit := do
  let s ← Run.store
  match (s.special? target name).filter s.guardsAttribute with
  | some member => takeThrough call member target
  | none =>
    if (s.ownAttributes target).has name then
      changeOwnAttributes target fun held => held.erase name
    else throw (.noMember name)

/-- Takes a member from a class, which has to have it itself unless something guards it. -/
def takeFromClass (call : Call) (c : ClassRef) (name : String) : Run Unit := do
  let s ← Run.store
  if c.origin == .builtin then throw .badCall
  match (s.special? (.cls c) name).filter s.guardsAttribute with
  | some member => takeThrough call member (.cls c)
  | none =>
    if (s.ownMember? c name).isNone then throw (.noMember name)
    Run.changeClass c fun info => { info with members := info.members.erase name }

/-- Takes the member under a name from a value. -/
def deleteMember (call : Call) (target : Value) (name : String) : Run Unit := do
  let s ← Run.store
  match s.special? target "__delattr__", target with
  | some (.slot _ _ _), .cls c => takeFromClass call c name
  | some (.slot _ _ _), _ | none, _ => takeFromObject call target name
  | some operation, _ => discard (callSpecial call operation target [← Run.newText name])

end DocGuard
