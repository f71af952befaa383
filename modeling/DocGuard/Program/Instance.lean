import DocGuard.Program.Body
import DocGuard.Program.Member.Alias
import DocGuard.Program.Member.Bytes
import DocGuard.Program.Member.Fault
import DocGuard.Program.Member.Mapping
import DocGuard.Program.Member.Number
import DocGuard.Program.Member.Object
import DocGuard.Program.Member.Set
/-!
Instances of classes.

Calling a class makes an instance and initialises it. Both can be defined by a program; what the
builtin classes do is told here. A class that derives from a builtin one makes instances that hold
a plain value of that class.
-/

namespace DocGuard

/-! ### Making -/

/-- The builtin classes of which an instance is a plain value, if no class derives from them. -/
def plainClasses : List String :=
  ["bool", "int", "float", "str", "list", "tuple", "dict", "property", "staticmethod",
   "classmethod"]

/-- A new instance of a class that holds something. -/
def newHolding (c : ClassRef) (content : Value) : Run Value := do
  if c.origin == .builtin && plainClasses.contains c.name then return content
  let mark ← Run.newMark
  Run.changeContent mark content
  return .object mark c

/-- A new instance of a class that keeps some values. -/
def newKeepingOf (c : ClassRef) (kept : List Value) : Run Value := do
  newHolding c (.tuple (← Run.newMark) kept)

/-- A new instance of a class that holds what instances of its layout hold at first. -/
def newEmpty (c : ClassRef) : Run Value := do
  let s ← Run.store
  let mark ← Run.newMark
  match Store.emptyContent? (s.classInfo c).layout mark with
  | some content => newHolding c content
  | none => return .object mark c

/-- The language keeps the making of instances to itself: the class has no maker but that of all
objects. -/
def Store.keepsMaking (s : Store) (c : ClassRef) : Bool :=
  match s.inherited? c "__new__" with
  | some (.slot _ owner _) => owner == "object" && c.origin == .builtin && c.name != "object"
  | _ => false

/-- The initialiser, or the maker, of a class is that of the class `owner`. -/
def Store.leavesTo (s : Store) (owner : String) (c : ClassRef) (name : String) : Bool :=
  match s.inherited? c name with
  | some (.slot kind cls _) => cls == owner && !(kind == .maker && s.keepsMaking c)
  | _ => false

/-- Refuses arguments that neither the maker nor the initialiser of a class could use. The one of
the two that is asked, `own`, leaves them to the other, unless that one ignores them too. -/
def refuseSurplus (c : ClassRef) (own other : String) (surplus : Bool) : Run Unit := do
  let s ← Run.store
  if surplus && (!s.leavesTo "object" c own || s.leavesTo "object" c other) then throw .badCall

/-- Refuses more arguments than there can be, and any keywords. -/
def atMost (n : Nat) (args : List Value) (keywords : Bindings Value) : Run Unit :=
  if args.length ≤ n && keywords.isEmpty then return () else throw .badCall

/-- Refuses keywords unless the class has an initialiser of its own that could use them. -/
def refuseKeywords (owner : String) (c : ClassRef) (keywords : Bindings Value) : Run Unit := do
  let s ← Run.store
  let own := s.inherited? c "__init__"
  let same := (s.inherited? (.builtin owner) "__init__").any fun v => own.any v.same
  if same && !keywords.isEmpty then throw .badCall

/-- Refuses more arguments than there can be; keywords are refused as well unless the class has an
initialiser of its own that could use them. -/
def atMostUnless (owner : String) (c : ClassRef) (n : Nat) (args : List Value)
    (keywords : Bindings Value) : Run Unit := do
  refuseKeywords owner c keywords
  atMost n args []

/-- Arguments in the order of some parameters, all of which can be left out. -/
def ordered (names : List String) (args : List Value) (keywords : Bindings Value) :
    Run Fitted := do
  let sig : Signature := names.map fun name => ⟨name, .positional, some .none⟩
  match sig.bind? args keywords with
  | some binding => return Fitted.trimmed (names.map binding.given.get?)
  | none => throw .badCall

/-! ### Numbers and texts -/

/-- The integer that an instance of a class made of these arguments holds. -/
def madeInteger (call : Call) (args : List Value) (keywords : Bindings Value) : Run Int :=
  match args, keywords with
  | [], [] => return 0
  | [v], [] => integerOf call v
  | [v, base], [] | [v], [("base", base)] => integerToBase call v base
  | _, _ => throw .badCall

/-- A text made of these arguments: that of a value, or what bytes are read as. -/
def madeText (call : Call) (args : List Value) (keywords : Bindings Value) : Run Value := do
  let given ← ordered ["object", "encoding", "errors"] args keywords
  match given.at? 0, given.at? 1, given.at? 2 with
  | none, encoding, misfit =>
    discard ([encoding, misfit].mapM fun v => v.mapM requireText)
    return sharedText ""
  | some v, none, none => textOf call v
  | some v, encoding, misfit =>
    let m ← misfitOf misfit
    discard (encoding.mapM requireText)
    let codes ← bytesIn v
    if codes.isEmpty then return sharedText ""
    newTextOf (← decoded (← encodingOf encoding) m codes)

/-- The two parts of a complex number made of these arguments. -/
def madeComplex (call : Call) (args : List Value) (keywords : Bindings Value) :
    Run (Double × Double) := do
  let given ← ordered ["real", "imag"] args keywords
  let s ← Run.store
  match (given.at? 0).bind s.textOf?, given.at? 1 with
  | some text, none =>
    match complexParts? text with
    | some parts => return parts
    | none => throw (.badValue "complex() arg is a malformed string")
  | some _, some _ => throw .badCall
  | none, imag =>
    if imag.any s.isText then throw .badCall
    let real ← (given.at? 0).mapM (complexOr call)
    if !(real.all s.isNumber && imag.all s.isNumber) then throw .badCall
    let (re, im) ← (real.map (doublesIn call)).getD (pure (.zero false, .zero false))
    match imag with
    | none => return (re, im)
    | some v =>
      let (across, up) ← doublesIn call v
      return (if up.isZero then re else re.subtract up, if im.isZero then across else im.add across)

/-- The codes that bytes made of these arguments hold. Bytes of a class that cannot change are made
by an operation of the value, if its class has one. -/
def madeBytes (call : Call) (asks : Bool) (args : List Value) (keywords : Bindings Value) :
    Run (List Char) := do
  let given ← ordered ["source", "encoding", "errors"] args keywords
  let s ← Run.store
  match given.at? 0, given.at? 1, given.at? 2 with
  | none, none, none => return []
  | none, _, _ | some _, none, some _ => throw .badCall
  | some v, some encoding, misfit =>
    match s.textOf? v with
    | some text => do
      let (e, m) ← encodingAnd (some encoding) misfit
      encoded e m text.toList
    | none => throw .badCall
  | some v, none, none =>
    match if asks then s.special? v "__bytes__" else none with
    | none | some (.slot _ _ _) => bytesOf call v asks
    | some operation =>
      let made ← callSpecial call operation v []
      if (← Run.store).isOf "bytes" made then bytesIn made else throw .badCall

/-! ### What goes through others -/

/-- An iterator that goes through a value backwards, or whatever the value gives for this. -/
def makeReversed (call : Call) (c : ClassRef) (v : Value) : Run Value := do
  let s ← Run.store
  match s.special? v "__reversed__" with
  | some .none => throw .badCall
  | some operation => callSpecial call operation v []
  | none =>
    if (s.special? v "__getitem__").isNone || s.isOf "dict" v || s.isOf "mappingproxy" v then
      throw .badCall
    match ← lengthOf? call v with
    | none => throw .badCall
    | some n => newKeepingOf c [v, .int 0 (n - 1)]

/-- A range between the bounds that some values stand for. -/
def makeRange (call : Call) (args : List Value) (keywords : Bindings Value) : Run Value := do
  if !keywords.isEmpty then throw .badCall
  match args with
  | [stop] => do newRange 0 (← indexOf call stop) 1
  | [start, stop] => do
    let start ← indexOf call start
    newRange start (← indexOf call stop) 1
  | [start, stop, step] => do
    let start ← indexOf call start
    let stop ← indexOf call stop
    let step ← indexOf call step
    if step = 0 then throw (.badValue "range() arg 3 must not be zero")
    newRange start stop step
  | _ => throw .badCall

/-- Makes an instance of a class that goes through other values, in the way of a builtin class. -/
def makeWalk (call : Call) (owner : String) (c : ClassRef) (args : List Value)
    (keywords : Bindings Value) : Run Value := do
  match owner, args with
  | "enumerate", _ => do
    let given ← ordered ["iterable", "start"] args keywords
    match given.at? 0 with
    | none => throw .badCall
    | some v =>
      let n ← match given.at? 1 with
        | some start => indexOf call start
        | none => pure 0
      newKeepingOf c [← iteratorOf call v, .int 0 n]
  | "zip", _ => do
    let strict ← match keywords with
      | [] => pure false
      | [("strict", v)] => isTrue call v
      | _ => throw .badCall
    let its ← args.mapM (iteratorOf call)
    newKeepingOf c [.tuple 0 its, .bool strict]
  | "map", f :: v :: rest => do
    refuseKeywords owner c keywords
    let its ← (v :: rest).mapM (iteratorOf call)
    newKeepingOf c [f, .tuple 0 its]
  | "filter", [f, v] => do
    refuseKeywords owner c keywords
    newKeepingOf c [f, ← iteratorOf call v]
  | "reversed", [v] => do
    refuseKeywords owner c keywords
    makeReversed call c v
  | _, _ => throw .badCall

/-! ### All classes -/

/-- Makes an instance of a class in the way of a builtin class that it derives from, without noting
that it is there. -/
def makeUnnoted (call : Call) (owner : String) (c : ClassRef) (args : List Value)
    (keywords : Bindings Value) : Run Value := do
  let s ← Run.store
  match owner with
  | "object" =>
    refuseSurplus c "__new__" "__init__" !(args.isEmpty && keywords.isEmpty)
    return .object (← Run.newMark) c
  | "bool" =>
    atMost 1 args keywords
    return .bool (← (args.head?.map (isTrue call)).getD (pure false))
  | "int" =>
    match args, keywords, c == .builtin "int" with
    | [.int mark n], [], true => return .int mark n
    | _, _, _ =>
      let n ← madeInteger call args keywords
      newHolding c (.int (← Run.newMark) n)
  | "float" =>
    atMostUnless "float" c 1 args keywords
    match args.head?, c == .builtin "float" with
    | some (.float mark text), true => return .float mark text
    | some v, _ => do
      let d ← doubleMadeOf call v
      newHolding c (← newDouble d)
    | none, _ => newHolding c (← newDouble (.zero false))
  | "complex" =>
    let (re, im) ← madeComplex call args keywords
    newHolding c (.tuple 0 [.float 0 re.text, .float 0 im.text])
  | "str" =>
    match ← madeText call args keywords, c == .builtin "str" with
    | text, true => return text
    | text, false => do
      newHolding c (.str (← Run.newMark) (((← Run.store).textOf? text).getD ""))
  | "tuple" =>
    atMostUnless "tuple" c 1 args keywords
    match args.head?, c == .builtin "tuple" with
    | some (.tuple mark items), true => return .tuple mark items
    | some v, _ => do
      let items ← itemsIn call v true
      newHolding c (.tuple (← Run.newMark) items)
    | none, _ => newHolding c (.tuple (← Run.newMark) [])
  | "frozenset" =>
    atMostUnless "frozenset" c 1 args keywords
    match args, c == .builtin "frozenset" with
    | [.object mark (⟨"frozenset", none, .builtin⟩)], true => return .object mark c
    | _, _ => do
      let keys ← (args.head?.map (keysIn call)).getD (pure [])
      newHolding c (.tuple 0 keys)
  | "bytes" =>
    match args, c == .builtin "bytes" && keywords.isEmpty with
    | [.object mark (⟨"bytes", none, .builtin⟩)], true => return .object mark c
    | _, _ => do
      let whole := c == .builtin "bytes"
      let codes ← madeBytes call true args keywords
      -- there is only one that holds nothing
      if codes.isEmpty && whole then return .object 0 c
      newHolding c (.str 0 (String.ofList codes))
  | "NoneType" | "ellipsis" | "NotImplementedType" =>
    atMost 0 args keywords
    return if owner = "NoneType" then .none else .object 0 c
  | "type" =>
    match args, keywords, c == .builtin "type" with
    | [v], [], true => return .cls (s.classOf v)
    | [name, bases, bound], _, _ => makeClass call c name bases bound keywords
    | _, _, _ => throw .badCall
  | "super" =>
    match args, keywords with
    | [], [] => throw .noParent
    | [.cls after], [] => return .parent (← Run.newMark) after .none after
    | [.cls after, receiver], [] =>
      if receiver.isAbsent then return .parent (← Run.newMark) after .none after
      match ← startOf? call after receiver with
      | some start => return .parent (← Run.newMark) after receiver start
      | none => throw .badCall
    | _, _ => throw .badCall
  | "range" => makeRange call args keywords
  | "slice" =>
    match args, keywords with
    | [stop], [] => newKeepingOf c [.none, stop, .none]
    | [start, stop], [] => newKeepingOf c [start, stop, .none]
    | [start, stop, step], [] => newKeepingOf c [start, stop, step]
    | _, _ => throw .badCall
  | "memoryview" =>
    match (← ordered ["object"] args keywords).at? 0 with
    | some v => do
      discard (bytesIn v)
      newKeepingOf c [v]
    | none => throw .badCall
  | "enumerate" | "zip" | "map" | "filter" | "reversed" => makeWalk call owner c args keywords
  | "function" => newFunctionOf args keywords
  | "method" =>
    match args, keywords with
    | [func, receiver], [] =>
      if receiver.isAbsent || !s.isCallable func then throw .badCall
      return .method (← Run.newMark) receiver func
    | _, _ => throw .badCall
  | "mappingproxy" =>
    match (← ordered ["mapping"] args keywords).at? 0 with
    | some v =>
      let plain := s.isOf "list" v || s.isOf "tuple" v
      if plain || (s.special? v "__getitem__").isNone then throw .badCall
      newKeepingOf c [v]
    | none => throw .badCall
  | "GenericAlias" =>
    match args, keywords with
    | [origin, parameters], [] => newAlias c origin parameters
    | _, _ => throw .badCall
  | "cell" =>
    atMost 1 args keywords
    let id ← Run.newCell
    Run.setCell id args.head?
    return .cell id
  | _ =>
    if s.derives (.builtin owner) (.builtin "BaseException") then
      makeFault call owner c args keywords
    else if (BuiltinClass.ofName owner).derivable then newEmpty c
    else throw .badCall

/-- Makes an instance of a class in the way of a builtin class that it derives from. -/
def makeInstance (call : Call) (owner : String) (c : ClassRef) (args : List Value)
    (keywords : Bindings Value) : Run Value := do
  let made ← makeUnnoted call owner c args keywords
  Run.noteInstance made
  return made

/-! ### Initialising -/

/-- The attributes that a static or class method gets from its function. -/
def keepAttributes (v : Value) (attributes : Bindings Value) : Run Unit :=
  match v.contentMark? with
  | some mark => Run.changeAttributes mark fun held =>
    attributes.foldl (fun b (n, a) => b.set n a) held
  | none => return ()

/-- Initialises a value in the way of a builtin class. -/
def initialise (call : Call) (owner : String) (v : Value) (args : List Value)
    (keywords : Bindings Value) : Run Unit := do
  let s ← Run.store
  let c := s.classOf v
  match owner with
  | "object" => refuseSurplus c "__init__" "__new__" !(args.isEmpty && keywords.isEmpty)
  | "list" =>
    let ownMaker := !s.leavesTo "list" c "__new__"
    atMost 1 args (if ownMaker then [] else keywords)
    setContent v (.list 0 [])
    match args.head? with
    | some others => do
      extendList call v others
    | none => return ()
  | "dict" => updateDict call v args keywords
  | "set" =>
    atMost 1 args keywords
    setContent v (.tuple 0 [])
    match args.head? with
    | some others => takeUp call v others
    | none => return ()
  | "property" => do
    let given ← ordered ["fget", "fset", "fdel", "doc"] args keywords
    fillProperty call v (given.getD 0) (given.getD 1) (given.getD 2) (given.getD 3)
  | "staticmethod" | "classmethod" =>
    match args, keywords with
    | [func], [] =>
      setContent v (if owner = "staticmethod" then .staticMethod 0 func else .classMethod 0 func)
      keepAttributes v (← membersOf call func copiedMembers)
    | _, _ => throw .badCall
  | "bytearray" => do
    let codes ← madeBytes call false args keywords
    setContent v (.str 0 (String.ofList codes))
  | "type" =>
    if (keywords.isEmpty && args.length = 1) || args.length = 3 then return () else throw .badCall
  | "super" =>
    match args, keywords with
    | [], [] | [.cls _], [] | [.cls _, _], [] => return ()
    | _, _ => throw .badCall
  | "module" => do
    let given ← ordered ["name", "doc"] args keywords
    match given.at? 0, v.contentMark? with
    | some name, some mark =>
      if !s.isText name then throw .badCall
      Run.changeAttributes mark fun _ =>
        [("__name__", name), ("__doc__", given.getD 1), ("__package__", .none),
         ("__loader__", .none), ("__spec__", .none)]
    | _, _ => throw .badCall
  | _ =>
    if s.derives (.builtin owner) (.builtin "BaseException") then
      initialiseFault call owner v args keywords

/-! ### Calling a class -/

/-- Makes an instance of a class: by the maker that the program defines for it, else by that of the
builtin class it derives from. -/
def makeNew (call : Call) (c : ClassRef) (args : List Value) (keywords : Bindings Value) :
    Run Value := do
  let s ← Run.store
  if s.keepsMaking c then throw .badCall
  match s.inherited? c "__new__" with
  | some (.slot _ owner "__new__") => makeInstance call owner c args keywords
  | none => throw .badCall
  | some _ => call (← getMember call (.cls c) "__new__") (.cls c :: args) keywords

/-- Initialises a new instance, by what its class has for this. -/
def initialiseNew (call : Call) (v : Value) (args : List Value) (keywords : Bindings Value) :
    Run Unit := do
  match (← Run.store).special? v "__init__" with
  | some (.slot _ owner "__init__") => initialise call owner v args keywords
  | none => return ()
  | some operation =>
    let result ← callSpecialWith call operation v args keywords
    if result.isAbsent then return () else throw .badCall

/-- An instance of a class. What is made is initialised only if it belongs to the class. -/
def construct (call : Call) (c : ClassRef) (args : List Value) (keywords : Bindings Value) :
    Run Value := do
  let made ← makeNew call c args keywords
  let asked := c == .builtin "type" && args.length = 1 && keywords.isEmpty
  let s ← Run.store
  if !asked && s.derives (s.classOf made) c then
    Run.retaining [made] (initialiseNew call made args keywords)
  return made

/-- A member that makes instances can make those of a class only if it is the one that the layout of
the instances asks for. -/
def Store.canMake (s : Store) (owner : String) (c : ClassRef) : Bool :=
  let makers := (s.ancestry c).filter fun d =>
    d.origin == .builtin && (BuiltinClass.ofName d.name).formOf? "__new__" == some (.slot .maker)
  s.derives c (.builtin owner) && makers.head?.any fun d =>
    d.name == owner || (BuiltinClass.ofName d.name).layout == (BuiltinClass.ofName owner).layout
      && owner != "object" && d.name != "object"

/-- Calls a member of a builtin class that makes instances. -/
def callMaker (call : Call) (owner : String) (args : List Value) (keywords : Bindings Value) :
    Run Value := do
  match args with
  | .cls c :: rest =>
    if !(← Run.store).canMake owner c then throw .badCall
    makeInstance call owner c rest keywords
  | _ => throw .badCall

end DocGuard
