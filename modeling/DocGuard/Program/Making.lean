import DocGuard.Program.Check
import DocGuard.Program.Evaluation
import DocGuard.Program.Spelling
import DocGuard.Text.Letter
/-!
Making functions and classes.

A definition makes a new function each time it is run. The function keeps the values of its
defaults, and of the functions around it those variables that it uses. A class is made out of what
its body has bound: its ancestry is worked out, some of its members become static or class methods,
it becomes known to its methods, and those of its members and ancestors are told that ask for it.
-/

namespace DocGuard

/-! ### Functions -/

/-- The values of the defaults of some parameters, each with the name of its parameter. -/
def evalDefaults (call : Call) (env : Env) : List (Param Expr) → Run (Bindings Value)
  | [] => return []
  | p :: rest => do
    match p.default with
    | none => evalDefaults call env rest
    | some e =>
      let v ← e.eval call env
      return (p.name, v) :: (← evalDefaults call env rest)

/-- The values of the defaults of the parameters that can be filled by position, as they are kept.
-/
def newDefaults (params : List (Param Expr)) (values : Bindings Value) : Run Value := do
  let kept := (params.filter Param.takesPosition).filterMap fun p => values.get? p.name
  if kept.isEmpty then return .none else Run.newTuple kept

/-- The values of the defaults of the parameters that take keywords only, as they are kept. -/
def newKeywordDefaults (params : List (Param Expr)) (values : Bindings Value) : Run Value := do
  let kept := (params.filter (·.kind == .keywordOnly)).filterMap fun p =>
    (values.get? p.name).map (p.name, ·)
  if kept.isEmpty then return .none else newNamespace kept

/-- Those variables around a definition that the function it makes uses, by name. -/
def captured (env : Env) (params : List String) (body : List Action) : Bindings CellId :=
  (sortStrings (outerNames params body)).filterMap fun name =>
    (env.vars.get? name).map (name, ·)

/-- The parameters of a definition, without their defaults. -/
def bareParams (params : List (Param Expr)) : List (Param Unit) :=
  params.map fun p => ⟨p.name, p.kind, none⟩

/-- The name that the program's module shows, if it shows one. -/
def shownModule? (s : Store) : Option Value :=
  s.globals.get? "__name__"

/-- Makes the function of a definition, guarded if the definition says so. -/
def makeFunction (call : Call) (env : Env) (head : FunctionHead) (body : List Action) :
    Run FunctionId := do
  let doc ← head.doc.eval call env
  let values ← evalDefaults call env head.params
  let qualifiedName := env.qualifier ++ head.name
  let code : Code :=
    ⟨head.place, head.label, head.name, qualifiedName, bareParams head.params, body⟩
  let id ← Run.newFunction {
    name := sharedText head.name
    qualifiedName := sharedText qualifiedName
    doc
    module := (shownModule? (← Run.store)).getD .none
    defaults := ← newDefaults head.params values
    keywordDefaults := ← newKeywordDefaults head.params values
    annotations := .none
    behaviour := .run code (captured env (head.params.map Param.name) body)
    attributes := [] }
  match head.guard with
  | none => return id
  | some names => guardFunction call names id

/-- What a static or class method copies from its function. -/
def copiedMembers : List String :=
  ["__module__", "__name__", "__qualname__", "__doc__", "__annotations__"]

/-- Those of some members that a value has. -/
def membersOf (call : Call) (v : Value) : List String → Run (Bindings Value)
  | [] => return []
  | name :: rest => do
    let held ← getMember? call v name
    let others ← membersOf call v rest
    return (held.map (name, ·)).toList ++ others

/-- A callable as a static method. -/
def newStaticMethod (call : Call) (func : Value) : Run Value := do
  let mark ← Run.newMark
  let copied ← membersOf call func copiedMembers
  Run.changeAttributes mark fun _ => copied
  return .staticMethod mark func

/-- A callable as a class method. -/
def newClassMethod (call : Call) (func : Value) : Run Value := do
  let mark ← Run.newMark
  let copied ← membersOf call func copiedMembers
  Run.changeAttributes mark fun _ => copied
  return .classMethod mark func

/-- A function as a member of a class. -/
def MethodKind.wrap (kind : MethodKind) (call : Call) (id : FunctionId) : Run Value := do
  match kind with
  | .plain => return .function id
  | .static => newStaticMethod call (.function id)
  | .classLevel => newClassMethod call (.function id)

/-- Fills a property with accessors. Without documentation of its own it has that of its getter: a
property of a derived class as an attribute. -/
def fillProperty (call : Call) (v getter setter deleter doc : Value) : Run Unit := do
  match v.contentMark? with
  | none => throw .badCall
  | some mark =>
    let cls := ClassRef.builtin "property"
    Run.changeContent mark (.property mark getter setter deleter)
    Run.changeStored mark cls "__doc__" (some doc)
    let taken ← if doc.isAbsent && !getter.isAbsent then getMember? call getter "__doc__"
      else pure none
    Run.changeStored mark cls "getter_doc" (taken.map fun _ => .bool true)
    match taken with
    | none => return ()
    | some doc =>
      if (← Run.store).classOf v == cls then Run.changeStored mark cls "__doc__" (some doc)
      else setMember call v "__doc__" doc

/-- A property. -/
def newProperty (call : Call) (getter setter deleter doc : Value) : Run Value := do
  let v := Value.property (← Run.newMark) getter setter deleter
  fillProperty call v getter setter deleter doc
  return v

/-! ### Classes -/

/-- The class of a class with these bases: the class of one of them, or `first`, from which all of
the others are derived. -/
def Store.kindAmong? (s : Store) (first : ClassRef) (bases : List Value) : Option ClassRef :=
  (bases.map s.classOf).foldlM (fun kind other =>
    if s.derives kind other then some kind
    else if s.derives other kind then some other
    else none) first

/-- The classes that some values are, if all of them are classes. -/
def classesOf? (values : List Value) : Option (List ClassRef) :=
  values.mapM fun v => match v with
    | .cls c => some c
    | _ => none

/-- Of the bases of a class the one whose instances are laid out in a way that extends those of the
others, with the class that determines this layout. -/
def Store.baseAmong? (s : Store) : List ClassRef → Option (ClassRef × ClassRef)
  | [] => none
  | first :: rest =>
    rest.foldlM (fun (base, solid) c =>
      let other := (s.classInfo c).solid
      if s.derives solid other then some (base, solid)
      else if s.derives other solid then some (c, other)
      else none) (first, (s.classInfo first).solid)

/-- Instances of the class know who refers to them weakly. -/
def Store.referenced (s : Store) (c : ClassRef) : Bool :=
  (s.ancestry c).any fun d => match d.origin with
    | .builtin => (BuiltinClass.ofName d.name).referenced
    | _ => (s.classInfo d).kept.contains "__weakref__"

/-- How much room an instance of the class takes depends on what it holds. -/
def Store.sized (s : Store) (c : ClassRef) : Bool :=
  (s.ancestry c).any fun d => d.origin == .builtin && (BuiltinClass.ofName d.name).sized

/-- A class can derive from it. -/
def ClassRef.isDerivable (c : ClassRef) : Bool :=
  c.origin != .builtin || (BuiltinClass.ofName c.name).derivable

/-- A function that a class always reaches without a receiver, or through the class, as a member. -/
def specialMember (call : Call) (name : String) (v : Value) : Run Value :=
  match name, v with
  | "__new__", .function _ => newStaticMethod call v
  | "__init_subclass__", .function _ | "__class_getitem__", .function _ => newClassMethod call v
  | _, _ => return v

/-- The names that a class says its instances keep something under, if it says so. -/
def namesToKeep? (call : Call) (bound : Bindings Value) : Run (Option (List String)) := do
  match bound.get? "__slots__" with
  | none => return none
  | some said =>
    let s ← Run.store
    let values ← if s.isText said then pure [said]
      else do
        let items ← call (.cls (.builtin "tuple")) [said] []
        pure ((← Run.store).itemsOf items)
    let s ← Run.store
    match values.mapM s.textOf? with
    | some names => if names.all (Text.isName ·.toList) then return some names else throw .badCall
    | none => throw .badCall

/-- What the instances of a new class keep beyond those of `base`, the class whose layout they
extend. A class that says nothing about it lets them keep whatever they are given. -/
def keptBy (call : Call) (name : String) (base : ClassRef) (others : List ClassRef)
    (bound : Bindings Value) : Run (List String) := do
  let said ← namesToKeep? call bound
  let s ← Run.store
  let mayGive := !s.attributed base
  let mayRefer := !s.referenced base && !s.sized base
  match said with
  | none =>
    return (if mayGive then ["__dict__"] else []) ++ if mayRefer then ["__weakref__"] else []
  | some names =>
    if !names.isEmpty && s.sized base then throw .badCall
    let times (name : String) : Nat := names.count name
    let most (allowed : Bool) : Nat := if allowed then 1 else 0
    if most mayGive < times "__dict__" || most mayRefer < times "__weakref__" then throw .badCall
    let own := (names.filter fun name => !Value.keptByLanguage.contains name).map
      (hiddenName (some name))
    if let some name := own.find? bound.has then
      throw (.badValue (Text.quoted name ++ " in __slots__ conflicts with class variable"))
    let gives := times "__dict__" = 1 || (mayGive && others.any s.attributed)
    let refers := times "__weakref__" = 1 || (mayRefer && others.any s.referenced)
    return sortStrings own ++ (if gives then ["__dict__"] else [])
      ++ if refers then ["__weakref__"] else []

/-- The members of a class, out of what its body has bound and what its instances keep. A class that
says when its instances are equal, and not how they are keys, has no keys. -/
def classMembers (call : Call) (self : ClassRef) (kept : List String) (bound : Bindings Value) :
    Run (Bindings Value) := do
  let s ← Run.store
  let own : Bindings Value := bound.filter fun (name, _) =>
    name != "__qualname__" && name != "__classcell__"
  let own := match own.has "__module__", shownModule? s with
    | false, some shown => own.set "__module__" shown
    | _, _ => own
  let own : Bindings Value ← own.mapM fun (name, v) => do
    return (name, ← specialMember call name v)
  let members : Bindings Value := kept.foldl (fun members name =>
    if members.has name then members else members.set name (.storage self name)) own
  let members := if members.has "__doc__" then members else members.set "__doc__" .none
  return if members.has "__eq__" && !members.has "__hash__" then members.set "__hash__" .none
    else members

/-- Tells the members of a new class that ask for it under which names they stand. -/
def tellMembers (call : Call) (c : ClassRef) : Bindings Value → Run Unit
  | [] => return ()
  | (name, v) :: rest => do
    match (← Run.store).special? v "__set_name__" with
    | some (.slot _ _ _) | none => pure ()
    | some operation => discard (callSpecial call operation v [.cls c, sharedText name])
    tellMembers call c rest

/-- Tells the ancestors of a new class that it derives from them. -/
def tellAncestors (call : Call) (c : ClassRef) (keywords : Bindings Value) : Run Unit := do
  let s ← Run.store
  match s.memberOf? ((s.ancestry c).drop 1) "__init_subclass__" with
  | none => return ()
  | some (.slot _ _ _) => if keywords.isEmpty then return () else throw .badCall
  | some member => discard (call (← reach call member none c) [] keywords)

/-- The ancestry that the class of a class works out for it, if it does so itself. -/
def ownAncestry? (call : Call) (kind c : ClassRef) : Run (Option (List ClassRef)) := do
  match (← Run.store).inherited? kind "mro" with
  | none | some (.slot _ _ _) => return none
  | some operation =>
    let given ← callSpecial call operation (.cls c) []
    let items ← call (.cls (.builtin "tuple")) [given] []
    match classesOf? ((← Run.store).itemsOf items) with
    | some classes => return some classes
    | none => throw .badParents

/-- Makes a class of the class `kind`, out of its name, its bases and what its body has bound. -/
def newClass (call : Call) (kind : ClassRef) (name : Value) (bases : List ClassRef)
    (bound keywords : Bindings Value) : Run ClassRef := do
  let s ← Run.store
  let bases := if bases.isEmpty then [.builtin "object"] else bases
  let text := (s.textOf? name).getD ""
  let self : ClassRef := ⟨text, bases.findSome? ClassRef.scalar, .defined s.classes.size⟩
  let qualifiedName := (bound.get? "__qualname__").getD name
  match s.baseAmong? bases with
  | none => throw .badParents
  | some (base, solid) =>
    if !bases.all ClassRef.isDerivable || !s.isText qualifiedName then throw .badParents
    let kept ← keptBy call text base (bases.filter (· != base)) bound
    -- reading the names may have made other classes
    let s ← Run.store
    let self := { self with origin := .defined s.classes.size }
    match Ancestry.ofParents? self (bases.map fun c => (c, s.ancestry c)) with
    | none => throw .badParents
    | some ancestry =>
      let ownNames := kept.filter fun name => !Value.keptByLanguage.contains name
      let extended := !ownNames.isEmpty || (s.sized base && kept.contains "__dict__")
      Run.change fun s => { s with classes := s.classes.push {
        name, qualifiedName, kind, bases
        base := some base
        ancestry
        layout := (s.classInfo base).layout
        solid := if extended then self else solid
        kept
        described := (bound.get? "__doc__").bind s.textOf?
        members := [] } }
      let members ← classMembers call self kept bound
      Run.changeClass self fun info => { info with members }
      if let some ancestry ← ownAncestry? call kind self then
        Run.changeClass self fun info => { info with ancestry }
      -- only now can the methods see their class
      match bound.get? "__classcell__" with
      | some (.cell id) => Run.setCell id (some (.cls self))
      | some _ => throw .badCall
      | none => pure ()
      tellMembers call self members
      tellAncestors call self keywords
      return self

/-- What the maker of all classes does with its arguments: the class of the new class, its name, its
bases and what its body has bound. -/
def makeClass (call : Call) (kind : ClassRef) (name bases bound : Value)
    (keywords : Bindings Value) : Run Value := do
  let s ← Run.store
  let values := s.itemsOf bases
  if !(s.isText name && s.isOf "tuple" bases && s.isOf "dict" bound) then throw .badCall
  match s.kindAmong? kind values, classesOf? values with
  | some kind, some classes =>
    return .cls (← newClass call kind name classes (s.entriesOf bound) keywords)
  | _, _ => throw .badParents

/-! ### The body of a class -/

/-- The bases that stand for a value written among the bases of a class: itself, unless it says
otherwise. -/
def basesFor (call : Call) (all : List Value) (v : Value) : Run (List Value) := do
  match v with
  | .cls _ => return [v]
  | v =>
    match ← getMember? call v "__mro_entries__" with
    | none => return [v]
    | some entries =>
      let answer ← call entries [← Run.newTuple all] []
      let s ← Run.store
      if s.isOf "tuple" answer then return s.itemsOf answer else throw .badCall

/-- The class of a class with these bases. -/
def kindOf (bases : List Value) : Run ClassRef := do
  let s ← Run.store
  let first := (bases.head?.map s.classOf).getD (.builtin "type")
  match s.kindAmong? first bases with
  | some kind => return kind
  | none => throw .badParents

/-- What the body of a class starts with: what the class of the class prepares. -/
def preparedFor (call : Call) (kind : ClassRef) (name : String) (bases : List Value) :
    Run (Bindings Value) := do
  match ← getMember? call (.cls kind) "__prepare__" with
  | none | some (.boundSlot _ _ _ _ _) => return []
  | some prepare =>
    let answer ← call prepare [sharedText name, ← Run.newTuple bases] []
    let s ← Run.store
    if s.isOf "dict" answer then return s.entriesOf answer else throw .badCall

/-- Where the body of a class stands: its methods know the class by a variable of its own. -/
def Env.inClass (env : Env) (head : ClassHead) (own : List String) (self : CellId) : Env :=
  { env with
    members := []
    vars := env.vars.set "__class__" self
    receiver := none
    qualifier := env.qualifier ++ head.name ++ "."
    classNames := own }

/-- Runs a part of the body of a class, after some members have been bound. -/
def ClassHead.run {α : Type} (head : ClassHead) (env : Env) (members : Bindings Value)
    (x : Env → Run α) : Run α :=
  Run.within (.frame (.classBody head.name head.place members)) (x { env with members })

/-- Some method of the class speaks of the class it is written in. -/
def speaksOfClass (members : List Definition) : Bool :=
  (Definition.mentionsAll members).inner.contains "__class__"

end DocGuard
