import DocGuard.Program.Instance
import DocGuard.Program.Member.Alias
/-!
Calling members of builtin classes.

A member of a builtin class carries out an operation of the language, or is a method. It is given
its receiver first, which has to be an instance of the class. Operations that every class may have
are told here; what is left is told by kind, in the modules under `DocGuard.Program.Member`. A
member that is not told of refuses every call.
-/

namespace DocGuard

/-! ### Iterators -/

/-- How many values an iterator still has, as far as it knows. -/
def leftIn (call : Call) (it : Value) : Run Value := do
  let s ← Run.store
  match s.content it with
  | .tuple _ [_, _, .int _ n] =>
    if s.isOf "range_iterator" it then Run.newInt n
    else match s.content it with
      | .tuple _ [_, .int _ i, _] => Run.newInt (max 0 (n - i))
      | _ => Run.newInt 0
  | .tuple _ (seq :: .int _ i :: _) =>
    match ← lengthOf? call seq with
    | some n =>
      let backwards := s.isOf "reversed" it || s.isOf "list_reverseiterator" it
      Run.newInt (if backwards then (if i + 1 ≤ n then i + 1 else 0) else max 0 (n - i))
    | none => return .noAnswer
  | _ => Run.newInt 0

/-- What a member of a class of iterators does with an iterator. -/
def iteratorMember (call : Call) (name : String) (it : Value) (args : Fitted) : Run Value := do
  match name, args with
  | "__length_hint__", [] => leftIn call it
  | "__setstate__", [some n] => do
    let n ← indexOf call n
    match (← Run.store).content it with
    | .tuple _ (seq :: .int _ _ :: rest) =>
      setContent it (.tuple 0 (seq :: .int 0 (max 0 n) :: rest))
    | _ => pure ()
    return .none
  | "__reduce__", [] => do Run.newTuple [.builtin "iter", ← Run.newTuple []]
  | "close", [] => return .none
  | "send", [some .none] => throw .exhausted
  | _, _ => throw .badCall

/-- What a member of the class of memory views does with a view. -/
def memoryMember (call : Call) (name : String) (v : Value) (args : Fitted) : Run Value := do
  let codes ← bytesIn v
  match name, args with
  | "tobytes", args => do
    discard ((args.at? 0).mapM fun v => if v.isAbsent then pure "" else requireText v)
    newBytes codes
  | "tolist", [] => do Run.newList (← codes.mapM fun c => Run.newInt c.toNat)
  | "toreadonly", [] | "__enter__", [] => return v
  | "release", [] | "__exit__", _ => return .none
  | "hex", _ => fixedBytesMember call "bytes" "hex" v codes args
  | "__getitem__", [some at_] => do
    match ← subscripted call codes at_ with
    | .inl c => Run.newInt c.toNat
    | .inr codes => do newKeeping "memoryview" [← newBytes codes]
  | _, _ => throw .badCall

/-! ### Operations -/

/-- What a member becomes when it is asked to be reached through a receiver and a class, one of
which may be missing. Only a member that belongs to a class looks at what is given as one. -/
def reachGiven (call : Call) (member receiver given : Value) : Run Value := do
  let s ← Run.store
  if receiver.isAbsent && given.isAbsent then throw .badCall
  let receiver? := if receiver.isAbsent then none else some receiver
  match given, s.content member with
  | .cls c, _ => reachPlainly call member receiver? c
  | .none, _ => reachPlainly call member receiver? (s.classOf receiver)
  | _, .slot .classMethod _ _ => throw .badCall
  | _, .classMethod _ func =>
    match s.special? func "__get__" with
    | some get => call get [func, given, given] []
    | none => return .method (← Run.newMark) given func
  | _, _ => reachPlainly call member receiver? (s.classOf receiver)

/-- Carries out an operation of the language that every class may have, in the way of the builtin
class `owner`, if the operation is one of these. -/
def operate? (call : Call) (owner name : String) (v : Value) (args : List Value) :
    Run (Option Value) := do
  let s ← Run.store
  match name, args, Relation.ofMember? name with
  | _, [w], some r => return some ((← plainAnswer? call r owner v w).getD .noAnswer)
  | "__getattribute__", [member], _ =>
    return some (← plainMember call owner v (← requireText member))
  | "__setattr__", [member, held], _ => do
    let name ← requireText member
    match v with
    | .cls c => giveToClass call c name held
    | v => giveToObject call v name held
    return some .none
  | "__delattr__", [member], _ => do
    let name ← requireText member
    match v with
    | .cls c => takeFromClass call c name
    | v => takeFromObject call v name
    return some .none
  | "__get__", [receiver], _ => return some (← reachGiven call v receiver .none)
  | "__get__", [receiver, given], _ => return some (← reachGiven call v receiver given)
  | "__set__", [receiver, held], _ => do
    giveThrough call v receiver held
    return some .none
  | "__delete__", [receiver], _ => do
    takeThrough call v receiver
    return some .none
  | "__bool__", [], _ =>
    match owner, (s.content v).bounds? with
    | "range", some (a, b, c) => return some (.bool (rangeLength a b c != 0))
    | _, _ => return some (.bool !(s.content v).isZero)
  | "__len__", [], _ => do
    match owner with
    | "mappingproxy" => return some (← call (.builtin "len") [s.viewed v] [])
    | _ => return some (← Run.newInt (s.lengthOf owner v))
  | "__repr__", [], _ => do return some (← Run.newText (← plainlyWritten call owner v))
  | "__str__", [], _ => do return some (← plainText call owner v)
  | "__format__", [layout], _ => do
    return some (← plainlyLaidOut call owner v (← requireText layout))
  | "__hash__", [], _ => do return some (← Run.newInt (← plainPlace call owner v))
  | "__iter__", [], _ => do return some (← plainIterator call owner v)
  | "__next__", [], _ => do return some (← advance call owner v)
  | _, _, _ => return none

/-- What a member of the builtin class `owner` does with a value. -/
def memberAnswer (call : Call) (owner name : String) (v : Value) (args : Fitted)
    (keywords : Bindings Value) : Run Value := do
  let s ← Run.store
  match owner, s.content v with
  | "int", _ | "bool", _ | "float", _ | "complex", _ => numberMember call owner name v args
  | "str", .str _ text => textMember call name v text.toList args keywords
  | "bytes", _ | "bytearray", _ => bytesMember call owner name v args
  | "list", _ => listMember call name v args
  | "tuple", .tuple _ items => tupleMember call name v items args
  | "range", content =>
    match content.bounds? with
    | some (a, b, c) => rangeMember call name a b c args
    | none => throw .badCall
  | "slice", _ => sliceMember call name v args
  | "dict", _ => dictMember call name v args
  | "dict_keys", _ | "dict_values", _ | "dict_items", _ =>
    viewMember call owner name v args fun op front w =>
      if front then viewOperator call op v w else viewOperator call op w v
  | "mappingproxy", _ => proxyMember call name v args
  | "set", _ => changingSetMember call name v args
  | "frozenset", _ => fixedSetMember call name v args
  | "memoryview", _ => memoryMember call name v args
  | "GenericAlias", _ => aliasMember call name v args
  | "UnionType", _ => unionMember call name v args
  | "type", .cls c => classOwnMember call name c args
  | "property", .property _ getter setter deleter =>
    propertyMember call name v getter setter deleter args
  | "module", _ => do
    if name == "__dir__" then newNames ((s.ownAttributes v).map Prod.fst) else throw .badCall
  | "object", _ => commonMember name v args
  | owner, _ =>
    if s.derives (.builtin owner) (.builtin "BaseException") then faultMember call name v args
    else iteratorMember call name v args

/-- The arguments of a member of a builtin class, of which some take what they are given as it is.
-/
def memberArguments (owner name : String) (args : List Value) (keywords : Bindings Value) :
    Run Fitted :=
  match owner, name with
  | "str", "format" => return .ofList args
  | _, _ => fitted owner name args keywords

/-- Calls a member of a builtin class for one of its instances. -/
def callMember (call : Call) (owner name : String) (v : Value) (args : List Value)
    (keywords : Bindings Value) : Run Value := do
  match owner, name, v with
  | _, "__init__", _ => do
    initialise call owner v args keywords
    return .none
  | "dict", "update", _ => do
    updateDict call v args keywords
    return .none
  | "code", "replace", .code place =>
    if args.isEmpty then replacedCode call place keywords else throw .badCall
  | _, _, _ => do
    let given ← memberArguments owner name args keywords
    match ← operate? call owner name v (given.map fun w => w.getD .none) with
    | some answer => return answer
    | none => memberAnswer call owner name v given keywords

/-! ### Members of classes -/

/-- Calls a member of a builtin class that is a function of its own. -/
def callStatic (call : Call) (owner name : String) (args : List Value)
    (keywords : Bindings Value) : Run Value := do
  if name == "__new__" then return ← callMaker call owner args keywords
  if !keywords.isEmpty then throw .badCall
  match owner, name with
  | "str", "maketrans" => newTable call args
  | "bytes", "maketrans" | "bytearray", "maketrans" => newCodeTable args
  | _, _ => throw .badCall

/-- Calls a member that a builtin class has for itself, for the class `c`. -/
def callClassMember (call : Call) (owner name : String) (c : ClassRef) (args : List Value)
    (keywords : Bindings Value) : Run Value := do
  match name with
  | "__init_subclass__" =>
    if args.isEmpty && keywords.isEmpty then return .none else throw .badCall
  | "__subclasshook__" => if keywords.isEmpty then return .noAnswer else throw .badCall
  | "__prepare__" => newNamespace []
  | "__class_getitem__" =>
    match args, keywords with
    | [v], [] => newAlias (.builtin "GenericAlias") (.cls c) v
    | _, _ => throw .badCall
  | _ => do
    let given ← fitted owner name args keywords
    match owner with
    | "dict" => dictFromKeys call c given
    | "bytes" | "bytearray" => bytesClassMember call owner name c given
    | "int" | "float" => numberClassMember call owner name c given
    | _ => throw .badCall

end DocGuard
