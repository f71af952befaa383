import DocGuard.Number.Arithmetic
import DocGuard.Program.Builtin.Module
import DocGuard.Program.Builtin.Name
import DocGuard.Program.Belonging
import DocGuard.Program.Iteration
import DocGuard.Program.Parameters
/-!
The signature that a callable shows.

A function shows its parameters, a method those of its function without the receiver, a class those
of what makes or initialises its instances, and an object those of the member it is called by. A
callable that wraps another one shows the signature of that one. What says of itself by a text which
parameters it has shows these (see `DocGuard.Program.Parameters`): the callables of the language do,
and others can. Reading a signature fails as a call does that does not bind, or because a value does
not fit; the value at fault is then written out.
-/

namespace DocGuard

namespace Store

/-- The entries of a dictionary under names, if the value is one. -/
def entriesOf (s : Store) (v : Value) : Bindings Value :=
  match s.content v with
  | .dict _ entries => entries.filterMap fun (key, held) => (s.textOf? key).map (·, held)
  | _ => []

/-- The signature of code with defaults that are kept as values. If there are more defaults than
parameters, the first ones are left out. -/
def codeSignature (s : Store) (code : Code) (defaults keywordDefaults : Value) : Signature :=
  let held := s.itemsOf defaults
  let places := (code.params.filter Param.takesPosition).length
  .ofCode code.params (held.drop (held.length - places)) (s.entriesOf keywordDefaults)

/-- The signature of code with such defaults as it is shown. If there are more defaults than
parameters, the first ones belong to the last parameters. -/
def shownSignature (s : Store) (code : Code) (defaults keywordDefaults : Value) : Signature :=
  let held := s.itemsOf defaults
  let places := (code.params.filter Param.takesPosition).length
  let surplus := held.length - places
  let shown := if held.length ≤ places then held else (held.take surplus).take places
  .ofCode code.params shown (s.entriesOf keywordDefaults)

/-- The signature of a function as it is called. A guard takes any arguments. -/
def functionSignature (s : Store) (f : Function) : Signature :=
  match f.code? with
  | some code => s.codeSignature code f.defaults f.keywordDefaults
  | none => .anything

end Store

/-- The builtin classes of callables that the language defines. -/
def languageCallables : List String :=
  ["wrapper_descriptor", "method-wrapper", "classmethod_descriptor", "builtin_function_or_method"]

/-- How many callables can wrap each other. -/
def wrapLimit : Nat := 1000

/-! ### What parameters are said to be -/

namespace Parameters

/-- The value of a constant. -/
def Constant.value (c : Constant) : Run Value := do
  match c with
  | .none => return .none
  | .bool b => return .bool b
  | .int n => Run.newInt n
  | .float d => return .float (← Run.newMark) d.text
  | .imaginary d =>
    let mark ← Run.newMark
    Run.changeContent mark (.tuple mark [.float mark "0.0", .float mark d.text])
    return .object mark (.builtin "complex")
  | .text s => Run.newText s
  | .bytes codes =>
    let mark ← Run.newMark
    Run.changeContent mark (.str mark codes)
    return .object mark (.builtin "bytes")
  | .dots => return .object 0 (.builtin "ellipsis")

/-- The builtin classes of which the values can be named in place of a constant. -/
def constantClasses : List String :=
  ["str", "int", "float", "bytes", "bool", "NoneType"]

/-- The members taken from a value one after the other. -/
def follow (call : Call) (v : Value) : List String → Run Value
  | [] => return v
  | name :: rest => do follow call (← getMember call v name) rest

/-- The value of a name with members, among some globals and what every program has. A name that
means nothing there can be that of a module. -/
def valueOf (call : Call) (globals : Bindings Value) (path : List String) : Run Value := do
  let first := path.headD ""
  let v ← match (globals.get? first).or (builtin? first), path with
    | some v, _ => follow call v path.tail
    | none, [_, constant] =>
      match (loadedModule? first).bind fun name => moduleConstant? name constant with
      | some v => pure v
      | none => throw (.badValue "")
    | none, _ => throw (.badValue "")
  if ← isInstanceOfAny call v constantClasses then return v else throw (.badValue "")

/-- The number that a sign can stand before, with its sign changed if `negative` holds. -/
def signedValue (negative : Bool) (v : Value) : Run Value := do
  if !negative then return v
  match (← Run.store).content v with
  | .int _ n => Run.newInt (-n)
  | .float _ text => return .float (← Run.newMark) (Double.negate (doubleOf text)).text
  | .tuple _ [.float _ re, .float _ im] =>
    let mark ← Run.newMark
    let part (text : String) : Value := .float mark (Double.negate (doubleOf text)).text
    Run.changeContent mark (.tuple mark [part re, part im])
    return .object mark (.builtin "complex")
  | _ => throw (.badValue "malformed node or string")

mutual

/-- The value of a default that has to be a constant. -/
def Default.constantValue (call : Call) (globals : Bindings Value) : Default → Run Value
  | .constant c => c.value
  | .name path => valueOf call globals path
  | .joined join left right => do
    let left ← left.constantValue call globals
    let right ← right.constantValue call globals
    let sign := match join with
      | .add => "+"
      | .subtract => "-"
      | .unite => "|"
    call (.builtin sign) [left, right] []
  | _ => throw (.badValue "malformed node or string")

end

mutual

/-- The value of a default. -/
def Default.value (call : Call) (globals : Bindings Value) : Default → Run Value
  | .tuple items => do
    let items ← Default.values call globals items
    if items.isEmpty then return .tuple 0 [] else Run.newTuple items
  | .list items => do Run.newList (← Default.values call globals items)
  | .set items => do
    call (.cls (.builtin "set")) [← Run.newList (← Default.values call globals items)] []
  | .dict entries => do
    let d ← call (.cls (.builtin "dict")) [] []
    for (key, held) in ← Default.entryValues call globals entries do
      discard (call (.slot .operation "dict" "__setitem__") [d, key, held] [])
    return d
  | .signed negative e => do
    let v ← e.constantValue call globals
    let numeric := [Value.typeClass v].any fun c =>
      [ClassRef.builtin "int", .builtin "float", .builtin "complex"].contains c
    if numeric then signedValue negative v else throw (.badValue "malformed node or string")
  | e => e.constantValue call globals

/-- The values of some defaults. -/
def Default.values (call : Call) (globals : Bindings Value) : List Default → Run (List Value)
  | [] => return []
  | e :: rest => do
    let v ← e.value call globals
    return v :: (← Default.values call globals rest)

/-- The values of some entries. -/
def Default.entryValues (call : Call) (globals : Bindings Value) :
    List (Default × Default) → Run (List (Value × Value))
  | [] => return []
  | (key, held) :: rest => do
    let key ← key.value call globals
    let held ← held.value call globals
    return (key, held) :: (← Default.entryValues call globals rest)

end

/-- Parameters with the values of their defaults. -/
def evaluated (call : Call) (globals : Bindings Value) :
    List (Param Default) → Run Signature
  | [] => return []
  | p :: rest => do
    let default ← match p.default with
      | none => pure none
      | some e => do pure (some (← e.value call globals))
    return ⟨p.name, p.kind, default⟩ :: (← evaluated call globals rest)

end Parameters

/-- The globals among which a value says that its names are to be read. -/
def globalsNamedBy (call : Call) (v : Value) : Run (Bindings Value) := do
  let name := (← getMember? call v "__module__").getD .none
  if !(← isTrue call name) then return []
  discard (call (.builtin "hash") [name] [])
  let s ← Run.store
  return match s.textOf? name with
    | some text => if s.registered == some text then s.globals else []
    | none => []

/-- The signature that is written in a text for a callable. -/
def writtenSignature (call : Call) (v : Value) (text : String) : Run Signature := do
  if text.toList.any (fun c => decide (128 ≤ c.toNat)) then throw .notEncoded
  let invalid (written : String) : Fault := .badValue (written ++ " builtin has invalid signature")
  match Parameters.ofText? text with
  | none => refuse call v invalid
  | some p =>
    let globals ← globalsNamedBy call v
    match ← Run.attempt (Parameters.evaluated call globals p.params) with
    | .error e => if e.isBadValue then refuse call v invalid else throw e
    | .ok sig =>
      if !p.receives then return sig
      let self := (← getMember? call v "__self__").getD .none
      discard (isInstance call self (.builtin "module"))
      return Parameters.shown true (!self.isAbsent) sig

/-- The method of a value under a name, called with some arguments. -/
def askMethod (call : Call) (v : Value) (name : String) (args : List Value) : Run Value := do
  call (← getMember call v name) args []

/-- The text of a signature that its lines say themselves: those that count as true, as the bytes
that they give. -/
def saidText (call : Call) (said : Value) : Run String := do
  discard (isTrue call said)
  let lines ← itemsIn call (← askMethod call said "split" [sharedText "\n"]) false
  let kept ← lines.filterM (isTrue call)
  let texts ← kept.mapM fun line => do
    let given ← askMethod call line "encode" [sharedText "ascii"]
    let s ← Run.store
    match s.bytesHeld? given with
    | some codes => return codes
    | none => if s.isText given then throw .badCall else throw (.noMember "startswith")
  return "\n".intercalate texts

/-- The signature that a value says it has by a member, if this member counts as true. -/
def saidSignature? (call : Call) (v said : Value) : Run (Option Signature) := do
  if !(← isTrue call said) then return none
  let text ← match said with
    | .str _ text => pure text
    | said => saidText call said
  return some (← writtenSignature call v text)

/-! ### Functions -/

/-- The value shows the fields of a function, each of the right class. -/
def looksLikeFunction (call : Call) (v : Value) : Run Bool := do
  if !(← Run.store).isCallable v then return false
  if ← isInstance call v (.builtin "type") then return false
  let name := (← getMember? call v "__name__").getD .none
  let code := (← getMember? call v "__code__").getD .none
  let defaults ← getMember? call v "__defaults__"
  let keywordDefaults ← getMember? call v "__kwdefaults__"
  let annotations := (← getMember? call v "__annotations__").getD .none
  let absentOr (cls : String) (held : Option Value) : Run Bool := do
    match held with
    | none => return false
    | some held => if held.isAbsent then return true else isInstance call held (.builtin cls)
  if !(← isInstance call code (.builtin "code")) then return false
  if !(← isInstance call name (.builtin "str")) then return false
  if !(← absentOr "tuple" defaults) then return false
  if !(← absentOr "dict" keywordDefaults) then return false
  if ← isInstance call annotations (.builtin "dict") then return true
  return annotations.isAbsent

/-- The signature of a function, or of a value that shows the fields of one. -/
def signatureOfFunction (call : Call) (v : Value) : Run Signature := do
  if !(← isInstance call v (.builtin "function")) then
    if !(← looksLikeFunction call v) then refuse call v fun _ => .badCall
  if let some said ← getMember? call v "__text_signature__" then
    if let some sig ← saidSignature? call v said then return sig
  if let some f := (← Run.store).function? v then
    let s ← Run.store
    return match f.code? with
      | some code => s.shownSignature code f.defaults f.keywordDefaults
      | none => .anything
  if let .slot .function owner name := v then
    let text := ((Documentation.ofMember? owner name).map Prod.fst).getD ""
    return ← writtenSignature call v text
  let code ← getMember call v "__code__"
  discard (isInstance call v (.builtin "type"))
  discard (isInstance call v (.builtin "module"))
  let annotations := (← getMember? call v "__annotations__").getD .none
  discard (getMember? call v "__globals__")
  if !annotations.isAbsent && !(← isInstance call annotations (.builtin "dict")) then
    refuse call v fun text =>
      .badValue (text ++ ".__annotations__ is neither a dict nor None")
  let defaults ← getMember call v "__defaults__"
  let keywordDefaults ← getMember call v "__kwdefaults__"
  match code with
  | .code place =>
    let s ← Run.store
    match s.codeAt? place with
    | some code => return s.shownSignature code defaults keywordDefaults
    | none => return .anything
  | _ => throw (.noMember "co_argcount")

/-! ### Callables of the language -/

/-- The value is a member that its class binds when it is reached, and cannot be given a value. -/
def isBoundMember (call : Call) (v : Value) : Run Bool := do
  if ← isInstanceOfAny call v ["type", "method", "function"] then return false
  let cls := Value.cls ((← Run.store).classOf v)
  if (← getMember? call cls "__get__").isNone then return false
  return (← getMember? call cls "__set__").isNone

/-- The value counts as a callable of the language. -/
def isLanguageCallable (call : Call) (v : Value) : Run Bool := do
  if ← isInstance call v (.builtin "builtin_function_or_method") then return true
  if ← isBoundMember call v then return true
  if ← isInstanceOfAny call v languageCallables then return true
  if ← isEqual call (.cls (.builtin "type")) v then return true
  isEqual call (.cls (.builtin "object")) v

/-- The signature of a callable of the language. -/
def signatureOfLanguageCallable (call : Call) (v : Value) : Run Signature := do
  if !(← isLanguageCallable call v) then refuse call v fun _ => .badCall
  let said := (← getMember? call v "__text_signature__").getD .none
  match ← saidSignature? call v said with
  | some sig => return sig
  | none => refuse call v fun text => .badValue ("no signature found for builtin " ++ text)

/-! ### Classes -/

/-- The member of a class under a name, unless it is missing or of the language. -/
def definedMember? (call : Call) (cls : Value) (name : String) : Run (Option Value) := do
  match ← getMember? call cls name with
  | none | some .none => return none
  | some member =>
    return if ← isInstanceOfAny call member languageCallables then none else some member

/-- A class has a member of a name itself, as the dictionary of its members tells. -/
def hasItself (call : Call) (cls : Value) (name : String) : Run Bool := do
  let members ← getMember call cls "__dict__"
  isTrue call (← call (.builtin "in") [sharedText name, members] [])

/-- The callable that makes or initialises the instances of a class, if the program defines it. -/
def factory? (call : Call) (cls : Value) : Run (Option Value) := do
  let made ← definedMember? call cls "__new__"
  let initialised ← definedMember? call cls "__init__"
  if ← hasItself call cls "__new__" then return made
  if ← hasItself call cls "__init__" then return initialised
  return made.or initialised

/-- The signature that the first of some classes says which says one. -/
def saidByClasses? (call : Call) : List Value → Run (Option Signature)
  | [] => return none
  | cls :: rest => do
    if let some said ← getMember? call cls "__text_signature__" then
      if let some sig ← saidSignature? call cls said then return some sig
    saidByClasses? call rest

/-- The classes that a class shows as its ancestry. -/
def shownAncestry (call : Call) (cls : Value) : Run (List Value) := do
  let shown ← getMember call cls "__mro__"
  return (← Run.store).itemsOf shown

/-- The signature of a class that a program leaves to the language: what the nearest class that says
something says, or none at all for a class that is made as any object is. -/
def inheritedSignature (call : Call) (cls : Value) : Run Signature := do
  let unsigned (written : String) : Fault :=
    .badValue ("no signature found for builtin type " ++ written)
  match ← saidByClasses? call (← shownAncestry call cls).dropLast with
  | some sig => return sig
  | none =>
    if (← shownAncestry call cls).any (·.same (.cls (.builtin "type"))) then
      refuse call cls unsigned
    let plain (name : String) : Run Bool := do
      match ← getMember call cls name with
      | .slot _ owner _ => return owner == "object"
      | _ => return false
    let isPlain ← if ← plain "__init__" then plain "__new__" else pure false
    if isPlain then return [] else refuse call cls unsigned

/-! ### All callables -/

/-- The signature without the parameter that a receiver fills. -/
def withoutReceiver (sig : Signature) : Run Signature :=
  match sig.dropReceiver? with
  | some rest => return rest
  | none => throw (.badValue "invalid method signature")

/-- A callable wraps itself. -/
def wrapperLoop (written : String) : Fault :=
  .badValue ("wrapper loop when unwrapping " ++ written)

/-- The innermost of the callables that wrap each other; one that shows a signature of its own is
taken as it is. A callable must not wrap itself, be it through others. -/
def unwrapped (call : Call) (outermost : Value) :
    (n : Nat) → (seen : List Value) → Value → Run Value
  | 0, _, _ => refuse call outermost wrapperLoop
  | n + 1, seen, v => do
    if (← getMember? call v "__wrapped__").isNone then return v
    if (← getMember? call v "__signature__").isSome then return v
    let inner ← getMember call v "__wrapped__"
    if seen.any (·.same inner) then refuse call outermost wrapperLoop
    unwrapped call outermost n (inner :: seen) inner

/-- Refuses a value that no signature is found for. -/
def refuseSignature (call : Call) (v : Value) : Run Signature := do
  let ofLanguage ← isInstance call v (.builtin "builtin_function_or_method")
  refuse call v fun text => .badValue (if ofLanguage
    then "no signature found for builtin function " ++ text
    else "callable " ++ text ++ " is not supported by signature")

/-- The signature that a value shows, looking through at most `n` callables that stand for each
other. -/
def signatureWithin (call : Call) : (n : Nat) → Value → Run Signature
  | 0, _ => throw .tooDeep
  | n + 1, v => do
    if !(← Run.store).isCallable v then refuse call v fun _ => .badCall
    if ← isInstance call v (.builtin "method") then
      let func ← getMember call v "__func__"
      return ← withoutReceiver (← signatureWithin call n func)
    let v ← unwrapped call v wrapLimit [v] v
    if ← isInstance call v (.builtin "method") then return ← signatureWithin call n v
    if let some shown ← getMember? call v "__signature__" then
      if !shown.isAbsent then
        discard (isInstance call shown (.builtin "Signature"))
        refuse call shown fun _ => .badCall
    if let some part ← getMember? call v "_partialmethod" then
      discard (isInstance call part (.builtin "partialmethod"))
    if ← isInstance call v (.builtin "function") then return ← signatureOfFunction call v
    if ← looksLikeFunction call v then return ← signatureOfFunction call v
    if ← isLanguageCallable call v then return ← signatureOfLanguageCallable call v
    discard (isInstance call v (.builtin "partial"))
    let kind := Value.cls ((← Run.store).classOf v)
    if ← isInstance call v (.builtin "type") then
      match ← definedMember? call kind "__call__" with
      | some operation => withoutReceiver (← signatureWithin call n operation)
      | none =>
        match ← factory? call v with
        | some factory => withoutReceiver (← signatureWithin call n factory)
        | none => inheritedSignature call v
    else
      if ← isInstanceOfAny call v languageCallables then refuseSignature call v
      else match ← definedMember? call kind "__call__" with
        | none => refuseSignature call v
        | some operation =>
          match ← Run.attempt (signatureWithin call n operation) with
          | .ok sig => withoutReceiver sig
          | .error e =>
            if e.isBadValue then
              refuse call v fun text => .badValue ("no signature found for " ++ text)
            else throw e

/-- The signature that a value shows. -/
def signatureOf (call : Call) (v : Value) : Run Signature :=
  signatureWithin call wrapLimit v

end DocGuard
