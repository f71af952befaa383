import DocGuard.Program.Making
import DocGuard.Program.Argument
/-!
What the members of all objects, of classes, and of what is callable do.

Every object can say which members it has, and what it keeps. A class can tell its ancestry and the
classes that derive from it; a property makes another one with other accessors, and code makes other
code with another name.
-/

namespace DocGuard

/-! ### Names of members -/

/-- The names of the members that a value shows, in order. -/
def Store.shownNames (s : Store) (v : Value) : List String :=
  let own := (s.ownAttributes v).map Prod.fst
  let ofClasses (classes : List ClassRef) : List String :=
    classes.flatMap fun c => (s.ownMembers c).map Prod.fst
  let all := match v with
    | .cls c => ofClasses (s.ancestry c)
    | .module | .library _ => own
    | v => own ++ ofClasses (s.ancestry (s.classOf v))
  sortStrings all.eraseDups

/-- Names as a list of texts. -/
def newNames (names : List String) : Run Value :=
  Run.newList (names.map sharedText)

/-! ### All objects -/

/-- What an object keeps, for a copy of it. -/
def stateOf (v : Value) : Run Value := do
  let attributes := (← Run.store).ownAttributes v
  if attributes.isEmpty then return .none else newNamespace attributes

/-- What a member that all objects have does with a value. -/
def commonMember (name : String) (v : Value) (args : Fitted) : Run Value := do
  match name, args with
  | "__dir__", [] => do newNames ((← Run.store).shownNames v)
  | "__sizeof__", [] => Run.newInt 48
  | "__getstate__", [] => stateOf v
  | "__reduce__", [] | "__reduce_ex__", [some _] => do
    let cls := Value.cls ((← Run.store).classOf v)
    Run.newTuple [.builtin "__import__", ← Run.newTuple [cls], ← stateOf v]
  | _, _ => throw .badCall

/-! ### Classes -/

/-- What a union of types stands for: the types, one after the other. -/
def Store.unionParts? (s : Store) (v : Value) : Option (List Value) :=
  match v, unionOf? s v with
  | _, some items => some items
  | .cls _, none => some [v]
  | .none, none => some [.cls (.builtin "NoneType")]
  | v, none => if s.isOf "GenericAlias" v then some [v] else none

/-- What two types come to as a union. -/
def newUnion (call : Call) (v w : Value) : Run Value := do
  let s ← Run.store
  match s.unionParts? v, s.unionParts? w with
  | some first, some second =>
    let parts ← (first ++ second).foldlM (fun parts v => do
      if ← hasEqual call v parts then return parts else return parts ++ [v]) []
    match parts with
    | [v] => return v
    | parts => newKeeping "UnionType" parts
  | _, _ => return .noAnswer

/-- The classes that a program derives from a class. -/
def Store.derivedFrom (s : Store) (c : ClassRef) : List ClassRef :=
  s.classes.toList.zipIdx.filterMap fun (info, i) =>
    if info.bases.contains c then
      some ⟨(s.textOf? info.name).getD "", info.bases.findSome? ClassRef.scalar, .defined i⟩
    else none

/-- What a member of the class of classes does with a class. -/
def classOwnMember (call : Call) (name : String) (c : ClassRef) (args : Fitted) : Run Value := do
  let s ← Run.store
  match name, args with
  | "mro", [] =>
    match Ancestry.ofParents? c ((s.classInfo c).bases.map fun d => (d, s.ancestry d)) with
    | some classes => Run.newList (classes.map .cls)
    | none => throw .badParents
  | "__subclasses__", [] => Run.newList ((s.derivedFrom c).map .cls)
  | "__instancecheck__", [some v] => return .bool (← belongsPlainly call v (.cls c))
  | "__subclasscheck__", [some v] => return .bool (← derivesPlainly call v (.cls c))
  | "__dir__", [] => newNames (s.shownNames (.cls c))
  | "__sizeof__", [] => Run.newInt 1064
  | "__or__", [some other] => newUnion call (.cls c) other
  | "__ror__", [some other] => newUnion call other (.cls c)
  | _, _ => throw .badCall

/-! ### Properties -/

/-- A property like this one with other accessors. Documentation that came from the getter is taken
from the getter again. -/
def changedProperty (call : Call) (v getter setter deleter : Value) : Run Value := do
  let s ← Run.store
  let kept (name : String) : Option Value :=
    v.contentMark?.bind fun mark => s.stored? mark (.builtin "property") name
  let again := (kept "getter_doc").isSome && !getter.isAbsent
  let doc := if again then .none else (kept "__doc__").getD .none
  call (.cls (s.classOf v)) [getter, setter, deleter, doc] []

/-- What a member of the class of properties does with a property of these accessors. -/
def propertyMember (call : Call) (name : String) (v getter setter deleter : Value) (args : Fitted) :
    Run Value := do
  let instead (given old : Value) : Value := if given.isAbsent then old else given
  match name, args with
  | "getter", [some f] => changedProperty call v (instead f getter) setter deleter
  | "setter", [some f] => changedProperty call v getter (instead f setter) deleter
  | "deleter", [some f] => changedProperty call v getter setter (instead f deleter)
  | "__set_name__", [some _, some _] => return .none
  | _, _ => throw .badCall

/-! ### Code and functions -/

/-- What of code can be replaced. -/
def replaceable : List String :=
  ["co_argcount", "co_posonlyargcount", "co_kwonlyargcount", "co_nlocals", "co_stacksize",
   "co_flags", "co_firstlineno", "co_code", "co_consts", "co_names", "co_varnames",
   "co_freevars", "co_cellvars", "co_filename", "co_name", "co_qualname", "co_linetable",
   "co_exceptiontable"]

/-- The parameters of code which has these variables: so many by position, the first of them by
position only, then so many by keyword, and then those that collect the rest. -/
def paramsAmong (names : List String) (onlyPlaced placed named : Nat) (flags : Int) :
    List (Param Unit) :=
  let having (kind : ParamKind) (names : List String) : List (Param Unit) :=
    names.map fun name => ⟨name, kind, none⟩
  let has (flag : Nat) : Nat := if flags.toNat &&& flag = flag then 1 else 0
  let rest := names.drop (placed + named)
  having .positionalOnly (names.take onlyPlaced)
    ++ having .positional ((names.take placed).drop onlyPlaced)
    ++ having .variadic (rest.take (has 4))
    ++ having .keywordOnly ((names.drop placed).take named)
    ++ having .keywords ((rest.drop (has 4)).take (has 8))

/-- Code like that at a place, with other names, parameters or variables. -/
def replacedCode (call : Call) (place : Nat) (keywords : Bindings Value) : Run Value := do
  let s ← Run.store
  if keywords.any fun (name, _) => !replaceable.contains name then throw .badCall
  let named (name : String) (otherwise : String) : Run String :=
    match keywords.get? name with
    | none => return otherwise
    | some v => requireText v
  let counted (name : String) : Run Int := do
    match keywords.get? name, (← codeField place name) with
    | some v, _ | none, v => do
      let n ← indexOf call v
      if n < 0 then throw (.badValue (name ++ " must be a positive integer")) else return n
  match s.codeAt? place with
  | none => return .code place
  | some code =>
    let onlyPlaced ← counted "co_posonlyargcount"
    let placed ← counted "co_argcount"
    let byName ← counted "co_kwonlyargcount"
    let flags ← counted "co_flags"
    let name ← named "co_name" code.name
    let qualifiedName ← named "co_qualname" code.qualifiedName
    let names ← match keywords.get? "co_varnames" with
      | none => pure code.ownVariables
      | some v => do
        if !s.isOf "tuple" v then throw .badCall
        (s.itemsOf v).mapM requireText
    if names.length != (← counted "co_nlocals").toNat || placed < onlyPlaced then
      throw (.badValue "code: co_nlocals != len(co_varnames)")
    let params := paramsAmong names onlyPlaced.toNat placed.toNat byName.toNat flags
    let collecting := [4, 8].countP fun flag => flags.toNat &&& flag = flag
    if names.length < placed.toNat + byName.toNat + collecting then
      throw (.badValue "code: co_varnames is too small")
    let place ← Run.newMark
    Run.change fun s =>
      { s with codes := (place, { code with place, name, qualifiedName, params }) :: s.codes }
    return .code place

/-- A function that runs the code at a place, made anew. -/
def newFunctionOf (args : List Value) (keywords : Bindings Value) : Run Value := do
  let sig : Signature :=
    [⟨"code", .positional, none⟩, ⟨"globals", .positional, none⟩] ++
      ["name", "argdefs", "closure"].map fun name => ⟨name, .positional, some .none⟩
  match sig.bind? args keywords with
  | none => throw .badCall
  | some binding =>
    let part (name : String) : Value := (binding.given.get? name).getD .none
    let s ← Run.store
    match part "code" with
    | .code place =>
      if !s.isOf "dict" (part "globals") || !s.isAbsentOr "str" (part "name")
          || !s.isAbsentOr "tuple" (part "argdefs") || !s.isAbsentOr "tuple" (part "closure") then
        throw .badCall
      let old := s.functionAt? place
      match s.codeAt? place with
      | none => throw .badCall
      | some code =>
        let taken := match old.map Function.behaviour with
          | some (.run _ outer) => outer
          | _ => []
        let cells := (s.itemsOf (part "closure")).filterMap fun v => match v with
          | .cell id => some id
          | _ => none
        if cells.length != taken.length then
          throw (if (part "closure").isAbsent then .badCall
            else .badValue (code.name ++ " requires closure of length " ++ toString taken.length
              ++ ", not " ++ toString cells.length))
        let name := part "name"
        let own := (s.namespace? (part "globals")).bind (·.get? "__name__")
        return .function (← Run.newFunction {
          name := if name.isAbsent then sharedText code.name else name
          qualifiedName := sharedText code.qualifiedName
          doc := .none
          module := own.getD .none
          defaults := part "argdefs"
          keywordDefaults := .none
          annotations := .none
          behaviour := .run code ((taken.map Prod.fst).zip cells)
          attributes := [] })
    | _ => throw .badCall

end DocGuard
