import DocGuard.Number.Arithmetic
import DocGuard.Program.Builtin.Extent
import DocGuard.Program.Builtin.Module
import DocGuard.Program.Machine
/-!
What the language keeps about values of its own classes.

A field is a member of a builtin class that is read and changed by the language itself: the name of
a function, the class of an object, the receiver of a method. `readField` gives the value of a
field, `writeField` changes it and `clearField` empties it. A value that has no such field, or whose
field is empty, has no such member; fields that are only read cannot be changed. What instances of
classes of a program keep by members of these classes is read and changed alike.
-/

namespace DocGuard

/-- The class named by a field, as it was derived. -/
def classTuple (classes : List ClassRef) : Run Value :=
  Run.newTuple (classes.map .cls)

/-- Entries of names as a dictionary. -/
def newNamespace (entries : Bindings Value) : Run Value := do
  return .dict (← Run.newMark) (Store.entriesNamed entries)

/-- Bytes with these codes. -/
def newBytes (codes : List Char) : Run Value := do
  let mark ← Run.newMark
  Run.changeContent mark (.str mark (String.ofList codes))
  return .object mark (.builtin "bytes")

/-- The dictionary in which a value keeps its attributes. -/
def attributesDict (v : Value) : Run Value := do
  return ((← Run.store).adopted? v).getD (.attributes v)

/-- Lets a value keep its attributes in a dictionary from now on. -/
def adoptAttributes (v d : Value) : Run Unit := do
  if !(← Run.store).isOf "dict" d then throw .badCall
  Run.change fun s => { s with adopted := (v, d) :: s.adopted.filter fun entry => !entry.1.same v }

namespace Function

/-- The code that the function runs, as a value. A guard runs the code at no place of the text. -/
def codeValue (f : Function) : Value :=
  .code ((f.code?.map Code.place).getD 0)

/-- A field of a function. -/
def field? (f : Function) (name : String) : Option Value :=
  match name with
  | "__name__" => some f.name
  | "__qualname__" => some f.qualifiedName
  | "__doc__" => some f.doc
  | "__module__" => some f.module
  | "__defaults__" => some f.defaults
  | "__kwdefaults__" => some f.keywordDefaults
  | "__code__" => some f.codeValue
  | "__closure__" =>
    some (match f.behaviour with
      | .run _ outer =>
        if outer.isEmpty then .none else .tuple 0 (outer.map fun (_, id) => .cell id)
      | .guard g => .tuple 0 [.function g.inner])
  | _ => none

/-- The function after a field was given a value, if it can have that value. The code is changed by
`withCode?`. -/
def withField? (s : Store) (f : Function) (name : String) (v : Value) : Option Function :=
  match name with
  | "__name__" => if s.isText v then some { f with name := v } else none
  | "__qualname__" => if s.isText v then some { f with qualifiedName := v } else none
  | "__doc__" => some { f with doc := v }
  | "__module__" => some { f with module := v }
  | "__defaults__" => if s.isAbsentOr "tuple" v then some { f with defaults := v } else none
  | "__kwdefaults__" => if s.isAbsentOr "dict" v then some { f with keywordDefaults := v } else none
  | "__annotations__" =>
    if s.isAbsentOr "dict" v then some { f with annotations := v } else none
  | _ => none

/-- The function after a field was emptied, if it can be empty. -/
def withoutField? (f : Function) (name : String) : Option Function :=
  match name with
  | "__doc__" => some { f with doc := .none }
  | "__module__" => some { f with module := .none }
  | "__defaults__" => some { f with defaults := .none }
  | "__kwdefaults__" => some { f with keywordDefaults := .none }
  | "__annotations__" => some { f with annotations := .none }
  | _ => none

/-- How many variables a function takes from outside. A guard takes the function that it guards, what
was read of it and its options. -/
def outerCount (f : Function) : Nat :=
  match f.behaviour with
  | .run _ outer => outer.length
  | .guard _ => 6

/-- The function after it was given the code of another one. The variables it takes from outside
stay those it had, so there have to be as many. -/
def withCode? (f g : Function) : Option Function :=
  match f.behaviour, g.behaviour with
  | .run _ outer, .run code other =>
    if outer.length = other.length then
      some { f with behaviour := .run code ((other.map Prod.fst).zip (outer.map Prod.snd)) }
    else none
  -- all guards run the same code
  | .guard _, .guard _ => some f
  | _, _ => none

end Function

namespace Store

/-- The code at a place, if there is any. -/
def codeAt? (s : Store) (place : Nat) : Option Code :=
  (s.codes.lookup place).or
    (s.functions.toList.findSome? fun f => f.code?.filter fun code => code.place == place)

/-- A function that runs the code at a place of the text. -/
def functionAt? (s : Store) (place : Nat) : Option Function :=
  s.functions.toList.find? fun f => (f.code?.map Code.place).getD 0 == place

/-- The class through which a member of a builtin class was reached. -/
def reachedClass (s : Store) : Value → ClassRef
  | .cls c => c
  | v => s.classOf v

end Store

/-! ### What a class says of its parameters -/

/-- The text after the part that writes the parameters: it ends with a line of two dashes and a
blank line, and holds no blank line itself. -/
def parametersIn? : List Char → Option (List Char)
  | [] => none
  | text@(c :: rest) =>
    if ")\n--\n\n".toList.isPrefixOf text then some [')']
    else if "\n\n".toList.isPrefixOf text then none
    else (parametersIn? rest).map (c :: ·)

/-- The parameters that a text which describes a class begins with, behind the class's name. Of a
name with points only the last part counts. -/
def parametersSaid? (name description : String) : Option String :=
  let last := (name.toList.reverse.takeWhile (· != '.')).reverse
  let text := description.toList.takeWhile (·.toNat != 0)
  if last.isPrefixOf text && (text.drop last.length).head? == some '(' then
    (parametersIn? (text.drop last.length)).map String.ofList
  else none

/-- What a class says of its parameters. -/
def Store.parametersSaid (s : Store) (c : ClassRef) : Value :=
  let info := s.classInfo c
  if c.origin == .builtin then
    ((Documentation.ofClass? c.name).map fun d => described d.1).getD .none
  else
    match info.described.bind (parametersSaid? ((s.textOf? info.name).getD "")) with
    | some text => .str 0 text
    | none => .none

/-- The room that the instances of a class take. The classes that it extends are fewer than those
that it derives from. -/
def Store.extentOf (s : Store) (c : ClassRef) : Extent :=
  go (s.ancestry c).length c
where
  /-- The room that the instances of a class take which extends at most `n` others. -/
  go (n : Nat) (c : ClassRef) : Extent :=
    match n, c.origin, (s.classInfo c).base with
    | n + 1, .written .., some base | n + 1, .defined .., some base =>
      (go n base).keeping (s.classInfo c).kept
    | _, _, _ => .ofBuiltin c.name

/-! ### Reading -/

/-- A field of a class. -/
def classField (c : ClassRef) (name : String) : Run Value := do
  let s ← Run.store
  let info := s.classInfo c
  match name with
  | "__name__" => return info.name
  | "__qualname__" => return info.qualifiedName
  | "__mro__" => classTuple info.ancestry
  | "__bases__" => classTuple info.bases
  | "__base__" => return (info.base.map .cls).getD .none
  | "__basicsize__" => Run.newInt (s.extentOf c).bytes
  | "__itemsize__" => Run.newInt (s.extentOf c).perItem
  | "__dictoffset__" => Run.newInt (s.extentOf c).attributesAt
  | "__weakrefoffset__" => Run.newInt (s.extentOf c).referencesAt
  | "__flags__" => Run.newInt (s.extentOf c).traits
  | "__dict__" =>
    let mark ← Run.newMark
    Run.changeContent mark (.tuple mark [.attributes (.cls c)])
    return .object mark (.builtin "mappingproxy")
  | "__module__" =>
    if c.origin == .builtin then return sharedText (BuiltinClass.home c.name)
    match info.members.get? name with
    | some v => return v
    | none => throw (.noMember name)
  | "__doc__" =>
    if c.origin == .builtin then return builtinDoc c.name
    return (info.members.get? name).getD .none
  | "__text_signature__" => return s.parametersSaid c
  | "__annotations__" =>
    if c.origin == .builtin then throw (.noMember name)
    match info.members.get? name with
    | some v => return v
    | none => do
      let held ← newNamespace []
      Run.changeClass c fun info => { info with members := info.members.set name held }
      return held
  | _ => throw (.noMember name)

/-- What precedes the name of a member in its qualified name: the class that has the member, but no
module that does. -/
def memberQualifier (owner : String) : String :=
  if (loadedModule? owner).isSome then "" else owner ++ "."

/-- A field of a member of a builtin class, as it is kept in the class or bound to a receiver. -/
def slotField (owner member name : String) (qualified : Value) : Run Value := do
  let told := Documentation.ofMember? owner member
  match name with
  | "__name__" => return sharedText member
  | "__qualname__" => return qualified
  | "__objclass__" => return .cls (.builtin owner)
  | "__doc__" => return (told.map fun d => described d.2).getD .none
  | "__text_signature__" => return (told.map fun d => described d.1).getD .none
  | "__module__" => return .none
  | _ => throw (.noMember name)

/-- The variables of code that functions inside it use too. -/
def Code.sharedNames (code : Code) : List String :=
  let own := ownNames (code.params.map Param.name) code.body
  (sortStrings (Action.mentionsAll code.body).inner.eraseDups).filter own.contains

/-- The variables that code has of its own, in the order of a running function: the parameters and
what the body binds for itself alone. -/
def Code.ownVariables (code : Code) : List String :=
  let params := (paramOrder code.params).map Param.name
  params ++ (bodyNames (code.params.map Param.name) code.body).filter fun name =>
    !code.sharedNames.contains name

/-- The code of guards, at no place of the text. -/
def guardCode : Code :=
  ⟨0, "wrapper", "wrapper", "validated.<locals>.wrapper", Signature.anything.map fun p =>
    ⟨p.name, p.kind, none⟩, []⟩

/-- A field of code. -/
def codeField (place : Nat) (name : String) : Run Value := do
  let s ← Run.store
  let found := s.codeAt? place
  let code := found.getD guardCode
  let own := if found.isSome then code.ownVariables else ["args", "kwargs", "values"]
  let count (p : Param Unit → Bool) : Run Value := Run.newInt (code.params.filter p).length
  let names (list : List String) : Run Value := Run.newTuple (list.map sharedText)
  let taken := match found, (s.functionAt? place).map Function.behaviour with
    | none, _ => ["func", "info", "on_error", "sig", "styles", "where"]
    | some _, some (.run _ outer) => outer.map Prod.fst
    | some _, _ => []
  match name with
  | "co_name" => return sharedText code.name
  | "co_qualname" => return sharedText code.qualifiedName
  | "co_argcount" => count Param.takesPosition
  | "co_posonlyargcount" => count (·.kind == .positionalOnly)
  | "co_kwonlyargcount" => count (·.kind == .keywordOnly)
  | "co_varnames" => names own
  | "co_nlocals" => Run.newInt own.length
  | "co_cellvars" => names (if found.isSome then code.sharedNames else ["bound"])
  | "co_freevars" => names taken
  | "co_flags" =>
    let has (kind : ParamKind) (flag : Nat) : Nat :=
      if code.params.any (·.kind == kind) then flag else 0
    let inner := (code.qualifiedName.splitOn ".").contains "<locals>"
    Run.newInt (3 + has .variadic 4 + has .keywords 8 + if inner then 16 else 0 : Nat)
  | "co_exceptiontable" | "co_lnotab" | "co_linetable" | "co_code" | "_co_code_adaptive" =>
    newBytes []
  | "co_consts" | "co_names" => return .tuple 0 []
  | "co_firstlineno" | "co_stacksize" => Run.newInt 1
  | "co_filename" => return sharedText "<program>"
  | _ => throw (.noMember name)

/-- What a number has as its parts. A complex number holds its two parts. -/
def numberField (content : Value) (name : String) : Run Value := do
  let float (text : String) : Run Value := do return .float (← Run.newMark) text
  match content, name with
  | .bool b, "real" | .bool b, "numerator" => Run.newInt b.toNat
  | .int _ _, "real" | .int _ _, "numerator" | .float _ _, "real" => return content
  | .bool _, "denominator" | .int _ _, "denominator" => Run.newInt 1
  | .bool _, "imag" | .int _ _, "imag" => Run.newInt 0
  | .float _ _, "imag" => float "0.0"
  | .tuple _ [.float _ re, .float _ _], "real" => float re
  | .tuple _ [.float _ _, .float _ im], "imag" => float im
  | _, _ => throw (.noMember name)

/-- The first, the second or the third of what a value holds, by the name for it. -/
def boundField (content : Value) (name : String) : Run Value := do
  match name, content with
  | "start", .tuple _ (v :: _)
  | "stop", .tuple _ (_ :: v :: _)
  | "step", .tuple _ (_ :: _ :: v :: _) =>
    return v
  | _, _ => throw (.noMember name)

/-- A field of a view of bytes. -/
def memoryField (s : Store) (inner : Value) (name : String) : Run Value := do
  let size : Run Value := Run.newInt (s.codesOf inner).length
  match name with
  | "obj" => return inner
  | "nbytes" => size
  | "readonly" => return .bool !(s.isOf "bytearray" inner)
  | "itemsize" | "ndim" => Run.newInt 1
  | "format" => return sharedText "B"
  | "shape" => do Run.newTuple [← size]
  | "strides" => do Run.newTuple [← Run.newInt 1]
  | "suboffsets" => return .tuple 0 []
  | _ => return .bool true

/-- A field of an exception. -/
def faultField (s : Store) (owner name : String) (v : Value) : Run Value := do
  match owner, name, s.content v with
  | "BaseException", "args", .tuple mark items => return .tuple mark items
  | "BaseException", "args", _ => return .tuple 0 []
  | "BaseException", "__dict__", _ => attributesDict v
  | _, _, _ =>
    match v.contentMark?.bind fun mark => s.stored? mark (.builtin owner) name with
    | some held => return held
    | none =>
      match name with
      | "__suppress_context__" => return .bool false
      | "characters_written" => throw (.noMember name)
      | _ => return .none

/-- What a guard takes from outside. -/
def guardVariables (g : Guard) : Run (List (String × Option Value)) := do
  let opaqueValue (cls : String) : Run Value := do
    return .object (← Run.newMark) (.derived (← Run.newMark) "object" cls)
  let styles ← Run.newTuple (g.options.styles.map fun style => sharedText style.name)
  return [("func", some (.function g.inner)), ("info", some (← opaqueValue "MethodInfo")),
    ("on_error", some (sharedText g.options.reaction.name)),
    ("sig", some (← opaqueValue "Signature")), ("styles", some styles), ("where", some g.place)]

/-- A field of a function. Its annotations are kept once they were asked for. -/
def functionField (id : FunctionId) (name : String) : Run Value := do
  let s ← Run.store
  match s.functions[id]? with
  | none => throw (.noMember name)
  | some f =>
    match name, f.field? name with
    | "__closure__", some (.tuple _ cells) =>
      match f.behaviour with
      | .guard g => do
        let vars ← Run.newVariables (← guardVariables g)
        Run.newTuple (vars.map fun (_, cell) => .cell cell)
      | .run _ _ => Run.newTuple cells
    | _, some field => return field
    | "__dict__", none => attributesDict (.function id)
    | "__globals__", none => return .attributes .module
    | "__builtins__", none => return .attributes (.library "builtins")
    | "__annotations__", none =>
      if !f.annotations.isAbsent then return f.annotations
      let held ← newNamespace []
      Run.changeFunction id fun f => { f with annotations := held }
      return held
    | _, none => throw (.noMember name)

/-- What an instance keeps by the member that its class has for this. -/
def readStorage (cls : ClassRef) (name : String) (v : Value) : Run Value := do
  let s ← Run.store
  if !s.derives (s.classOf v) cls then throw .badCall
  match name with
  | "__dict__" => attributesDict v
  | "__weakref__" => return .none
  | _ =>
    match v.contentMark?.bind fun mark => s.stored? mark cls name with
    | some held => return held
    | none => throw (.noMember name)

/-- What the language keeps about a value under the name of a member of the class `owner`. -/
def readField (call : Call) (owner name : String) (v : Value) : Run Value := do
  let s ← Run.store
  match owner, s.content v with
  | "object", _ =>
    -- the only field that every object has is its class
    return .cls (s.shownClass v)
  | _, .cls c => classField c name
  | _, .function id => functionField id name
  | _, .method _ receiver func =>
    match name with
    | "__func__" => return func
    | "__self__" => return receiver
    | "__doc__" => call (.builtin "getattr") [func, sharedText name, .none] []
    | _ => throw (.noMember name)
  | _, .staticMethod _ func | _, .classMethod _ func =>
    match name with
    | "__func__" | "__wrapped__" => return func
    | "__dict__" => attributesDict v
    | "__isabstractmethod__" =>
      call (.builtin "getattr") [func, sharedText name, .bool false] []
    | _ => throw (.noMember name)
  | _, .property _ getter setter deleter =>
    match name with
    | "fget" => return getter
    | "fset" => return setter
    | "fdel" => return deleter
    | "__doc__" =>
      return (v.contentMark?.bind fun mark => s.stored? mark (.builtin "property") name).getD .none
    | "__isabstractmethod__" => return .bool false
    | _ => throw (.noMember name)
  | _, .parent _ after receiver start =>
    match name with
    | "__thisclass__" => return .cls after
    | "__self__" => return receiver
    | "__self_class__" => return if receiver.isAbsent then .none else .cls start
    | _ => throw (.noMember name)
  | _, .code place => codeField place name
  | _, .cell id =>
    match s.cell? id with
    | some held => return held
    | none => throw (.badValue "Cell is empty")
  | _, .builtin f =>
    match name with
    | "__name__" | "__qualname__" => return sharedText f
    | "__module__" => return sharedText "builtins"
    | "__self__" => return .library "builtins"
    | "__doc__" => return ((Documentation.ofFunction? f).map fun d => described d.2).getD .none
    | "__text_signature__" =>
      return ((Documentation.ofFunction? f).map fun d => described d.1).getD .none
    | _ => throw (.noMember name)
  | _, .storage cls member =>
    match name with
    | "__name__" => return sharedText member
    | "__objclass__" => return .cls cls
    | "__qualname__" =>
      return sharedText ((s.textOf? (s.qualifiedName cls)).getD "" ++ "." ++ member)
    | "__doc__" =>
      return match member with
        | "__dict__" => sharedText "dictionary for instance variables (if defined)"
        | "__weakref__" => sharedText "list of weak references to the object (if defined)"
        | _ => .none
    | _ => throw (.noMember name)
  | _, .slot kind cls member =>
    match kind, name with
    | .maker, "__self__" => return .cls (.builtin cls)
    | .function, "__dict__" => return .dict (← Run.newMark) []
    | .function, "__module__" =>
      return sharedText ((loadedModule? cls).getD (BuiltinClass.home cls))
    | .function, "__defaults__" | .function, "__kwdefaults__" | .function, "__closure__" =>
      return .none
    | _, _ => slotField cls member name (sharedText (memberQualifier cls ++ member))
  | _, .boundSlot _ kind receiver cls member =>
    if name = "__self__" then return receiver
    let reached := if kind == .operation then .builtin cls else s.reachedClass receiver
    let qualifier := (s.textOf? (s.qualifiedName reached)).getD ""
    slotField cls member name (sharedText (qualifier ++ "." ++ member))
  | "module", .module | "module", .library _ =>
    if name = "__dict__" then return .attributes v
    throw (.noMember name)
  | "range", content | "slice", content => boundField content name
  | "GenericAlias", .tuple _ (origin :: parameters :: unpacked) =>
    match name with
    | "__origin__" => return origin
    | "__args__" => return parameters
    | "__unpacked__" => return .bool !unpacked.isEmpty
    | "__parameters__" => return .tuple 0 []
    | _ =>
      let ofTuple := origin.same (.cls (.builtin "tuple"))
      return if ofTuple && !unpacked.isEmpty then parameters else .none
  | "memoryview", .tuple _ [inner] => memoryField s inner name
  | "UnionType", .tuple _ parts =>
    if name = "__args__" then Run.newTuple parts else return .tuple 0 []
  | _, content =>
    if s.isOf "BaseException" v then faultField s owner name v
    else match name, content with
      | "mapping", .tuple _ (d :: _) => do
        let mark ← Run.newMark
        Run.changeContent mark (.tuple mark [d])
        return .object mark (.builtin "mappingproxy")
      | _, content => numberField content name

/-! ### Giving and taking -/

namespace Store

/-- The class whose instances are laid out as those of this class, or those of another one that keep
the same: it adds nothing to the one that it extends, at most `n` times. -/
def layoutRoot (s : Store) : (n : Nat) → ClassRef → ClassRef
  | 0, c => c
  | n + 1, c =>
    let info := s.classInfo c
    match info.base with
    | some base =>
      if c.origin == .builtin || !info.kept.isEmpty then c else s.layoutRoot n base
    | none => c

/-- Two classes whose instances are laid out alike, so that one can become an instance of the other.
-/
def alike (s : Store) (c d : ClassRef) : Bool :=
  let a := s.layoutRoot (s.ancestry c).length c
  let b := s.layoutRoot (s.ancestry d).length d
  c.origin != .builtin && d.origin != .builtin
    && (a == b || (a.origin != .builtin && b.origin != .builtin
      && (s.classInfo a).base == (s.classInfo b).base
      && (s.classInfo a).kept == (s.classInfo b).kept))

end Store

/-- Changes what is kept about a class. -/
def writeClassField (c : ClassRef) (name : String) (v : Value) : Run Unit := do
  let s ← Run.store
  match name with
  | "__name__" =>
    if !s.isText v then throw .badCall
    Run.changeClass c fun info => { info with name := v }
  | "__qualname__" =>
    if !s.isText v then throw .badCall
    Run.changeClass c fun info => { info with qualifiedName := v }
  | "__doc__" | "__module__" | "__annotations__" | "__abstractmethods__" =>
    Run.changeClass c fun info => { info with members := info.members.set name v }
  | _ => throw .badCall

/-- Changes what is kept about a function. -/
def writeFunctionField (id : FunctionId) (f : Function) (name : String) (v : Value) : Run Unit := do
  let s ← Run.store
  match name, v with
  | "__dict__", d => adoptAttributes (.function id) d
  | "__code__", .code place =>
    let runsIt := (s.functionAt? place).orElse fun _ =>
      (s.codes.lookup place).map fun code => { f with behaviour := .run code [] }
    match runsIt, runsIt.bind f.withCode? with
    | _, some changed => Run.changeFunction id fun _ => changed
    | g, none =>
      throw (.badValue ((s.textOf? f.name).getD "" ++ "() requires a code object with "
        ++ toString f.outerCount ++ " free vars, not "
        ++ toString ((g.map Function.outerCount).getD 0)))
  | _, _ =>
    match f.withField? s name v with
    | some changed => Run.changeFunction id fun _ => changed
    | none => throw .badCall

/-- Changes what an instance keeps by the member that its class has for this, or empties it. -/
def writeStorage (cls : ClassRef) (name : String) (target : Value) (v : Option Value) :
    Run Unit := do
  let s ← Run.store
  if !s.derives (s.classOf target) cls then throw .badCall
  match name, v, target.contentMark? with
  | "__dict__", some d, _ => adoptAttributes target d
  | "__dict__", none, some mark => do
    Run.change fun s => { s with adopted := s.adopted.filter fun entry => !entry.1.same target }
    Run.changeAttributes mark fun _ => []
  | "__weakref__", _, _ => throw (.noMember name)
  | _, v, some mark =>
    if v.isNone && (s.stored? mark cls name).isNone then throw (.noMember name)
    Run.changeStored mark cls name v
  | _, _, none => throw (.noMember name)

/-- Changes what the language keeps about a value under a name. -/
def writeField (call : Call) (owner name : String) (target v : Value) : Run Unit := do
  let s ← Run.store
  match owner, target with
  | "object", .object mark c =>
    match v with
    | .cls d =>
      if s.alike (s.classOf (.object mark c)) d then Run.changeKind mark d else throw .badCall
    | _ => throw .badCall
  | "object", _ => throw .badCall
  | _, .cls c => writeClassField c name v
  | _, .function id =>
    match s.functions[id]? with
    | some f => writeFunctionField id f name v
    | none => throw .badCall
  | "module", .module => throw (.noMember name)
  | "cell", .cell id => Run.setCell id (some v)
  | _, target =>
    match name, target.contentMark? with
    | _, none => throw (.noMember name)
    | name, some mark =>
      if s.isOf "BaseException" target then
        match name with
        | "args" => do
          let items ← call (.cls (.builtin "tuple")) [v] []
          Run.changeContent mark items
        | "__dict__" => adoptAttributes target v
        | "__cause__" | "__context__" =>
          if !s.isAbsentOr "BaseException" v then throw .badCall
          Run.changeStored mark (.builtin owner) name (some v)
        | "__traceback__" => if !v.isAbsent then throw .badCall
        | name => Run.changeStored mark (.builtin owner) name (some v)
      else match name, s.content target with
        | "__doc__", .property _ _ _ _ => Run.changeStored mark (.builtin "property") name (some v)
        | "__dict__", .staticMethod _ _ | "__dict__", .classMethod _ _ => adoptAttributes target v
        | _, _ => throw (.noMember name)

/-- Empties what the language keeps about a value under a name. -/
def clearField (owner name : String) (target : Value) : Run Unit := do
  let s ← Run.store
  match owner, target with
  | "object", _ => throw .badCall
  | _, .cls _ => throw .badCall
  | _, .function id =>
    match (s.functions[id]?).bind fun f => f.withoutField? name with
    | some changed => Run.changeFunction id fun _ => changed
    | none => throw .badCall
  | "cell", .cell id => Run.setCell id none
  | _, target =>
    match s.isOf "BaseException" target, target.contentMark?, name with
    | true, some mark, name =>
      if ["args", "__dict__", "__traceback__", "__cause__", "__context__"].contains name then
        throw .badCall
      Run.changeStored mark (.builtin owner) name none
    | _, some mark, "__doc__" => Run.changeStored mark (.builtin "property") name none
    | _, _, "__dict__" => throw .badCall
    | _, _, _ => throw (.noMember name)

end DocGuard
