import DocGuard.Program.Builtin.Documentation
import DocGuard.Program.Store
/-!
The ancestry of classes.

The ancestry of a class lists the class itself and everything it derives from, nearest first. It
merges the ancestries of the parents and the list of the parents: a class comes next if it heads
one of these lists and stands further back in none of them, the first such list deciding. Classes
for which no such order exists cannot be defined.

What a class or its ancestors have under a name is a member of the class; `Store.inherited?` finds
it in the nearest of them.
-/

namespace DocGuard

namespace Ancestry

/-- The class stands in the list behind its head. -/
def behind (c : ClassRef) (list : List ClassRef) : Bool :=
  list.tail.contains c

/-- The first head that stands behind no other head. -/
def next? (lists : List (List ClassRef)) : Option ClassRef :=
  lists.findSome? fun list => list.head?.filter fun c => !lists.any (behind c)

/-- The lists after their heads have given up `c`. -/
def advance (c : ClassRef) (lists : List (List ClassRef)) : List (List ClassRef) :=
  lists.map fun list => if list.head? = some c then list.tail else list

/-- Merges at most `n` classes out of the lists. -/
def merge? : (n : Nat) → List (List ClassRef) → Option (List ClassRef)
  | 0, lists => if lists.all (·.isEmpty) then some [] else none
  | n + 1, lists =>
    if lists.all (·.isEmpty) then some []
    else do
      let c ← next? lists
      return c :: (← merge? n (advance c lists))

/-- The ancestry of a class with these parents, whose own ancestries are given. -/
def ofParents? (self : ClassRef) (parents : List (ClassRef × List ClassRef)) :
    Option (List ClassRef) :=
  let lists := parents.map Prod.snd ++ [parents.map Prod.fst]
  (merge? lists.flatten.length lists).map (self :: ·)

/-- At most `n` classes of the language, each deriving from the next. -/
def chain : (n : Nat) → String → List ClassRef
  | 0, _ => []
  | n + 1, name =>
    .builtin name :: match (BuiltinClass.ofName name).parent with
      | some parent => chain n parent
      | none => []

/-- The ancestry of a builtin class. No chain of them is longer than eight classes. -/
def ofBuiltin (name : String) : List ClassRef :=
  chain 8 name

end Ancestry

/-- What one of the descriptions of the language says: nothing if it is empty. -/
def described (text : String) : Value :=
  if text.isEmpty then .none else sharedText text

/-- The documentation of a builtin class. -/
def builtinDoc (name : String) : Value :=
  ((Documentation.ofClass? name).map fun d => described d.2).getD .none

namespace Store

/-- What is kept about a class, and what it derives from. A class made for one value has nothing of
its own at first but what its instances keep. -/
def classInfo (s : Store) (c : ClassRef) : ClassInfo :=
  let builtin (c : ClassRef) : ClassInfo :=
    let b := BuiltinClass.ofName c.name
    { name := sharedText c.name
      qualifiedName := sharedText c.name
      kind := .builtin b.kind
      bases := b.parent.toList.map .builtin
      base := b.parent.map .builtin
      ancestry := Ancestry.ofBuiltin c.name
      layout := b.layout
      solid := .builtin b.layout
      kept := []
      described := none
      members := [] }
  match c.origin with
  | .builtin => builtin c
  | .written mark base =>
    let b := BuiltinClass.ofName base
    (s.written.lookup mark).getD
      { name := sharedText c.name
        qualifiedName := sharedText c.name
        kind := .builtin "type"
        bases := [.builtin base]
        base := some (.builtin base)
        ancestry := c :: Ancestry.ofBuiltin base
        layout := b.layout
        solid := if b.sized && !b.attributed then c else .builtin b.layout
        kept := b.unkept
        described := none
        members := [("__module__", sharedText "__main__")]
          ++ b.unkept.map (fun name => (name, .storage c name)) ++ [("__doc__", .none)] }
  | .defined index => s.classes[index]?.getD (builtin c)

/-- The class and the classes it derives from, nearest first. -/
def ancestry (s : Store) (c : ClassRef) : List ClassRef :=
  (s.classInfo c).ancestry

/-- The class is `d` or derives from it. -/
def derives (s : Store) (c d : ClassRef) : Bool :=
  (s.ancestry c).contains d

/-- The class of a value. -/
def classOf (s : Store) : Value → ClassRef
  | .cls c => (s.classInfo c).kind
  | .object mark c => (s.reclassed.lookup mark).getD c
  | v => v.typeClass

/-- The class that a value shows as its own: its own, unless it is a proxy. -/
def shownClass (s : Store) : Value → ClassRef
  | .proxy _ _ shown => .builtin shown.name
  | v => s.classOf v

/-- Those ancestors of a class that come behind `after`. -/
def ancestryBehind (s : Store) (c after : ClassRef) : List ClassRef :=
  ((s.ancestry c).dropWhile (· != after)).drop 1

/-- What a builtin class has itself under a name. -/
def builtinMember? (c : BuiltinClass) (name : String) : Option Value :=
  (c.formOf? name).map fun form => match form with
    | .slot kind => .slot kind c.name name
    | .accessor => .property 0 (.slot .function c.name name) .none .none
    | .classFunction => .classMethod 0 (.slot .function c.name name)
    | .nothing => .none
    | .doc => builtinDoc c.name
    | .home => sharedText (BuiltinClass.home c.name)

/-- What a class has itself under a name, without the classes it derives from. -/
def ownMember? (s : Store) (c : ClassRef) (name : String) : Option Value :=
  match c.origin with
  | .builtin => builtinMember? (.ofName c.name) name
  | _ => (s.classInfo c).members.get? name

/-- What the first of some classes has under a name. -/
def memberOf? (s : Store) (classes : List ClassRef) (name : String) : Option Value :=
  classes.findSome? fun c => s.ownMember? c name

/-- What a class or one of its ancestors has under a name. -/
def inherited? (s : Store) (c : ClassRef) (name : String) : Option Value :=
  s.memberOf? (s.ancestry c) name

/-- What the class of a value has under a name. The operations of the language that a value takes
part in are looked for here. -/
def special? (s : Store) (v : Value) (name : String) : Option Value :=
  s.inherited? (s.classOf v) name

/-- The value can be called. -/
def isCallable (s : Store) (v : Value) : Bool :=
  (s.special? v "__call__").isSome

/-- The qualified name of a class. -/
def qualifiedName (s : Store) (c : ClassRef) : Value :=
  (s.classInfo c).qualifiedName

/-- What an instance of a class with this layout holds if it was never given anything. Sets hold
their items as a tuple does, bytes their codes as text, and a complex number its two parts. -/
def emptyContent? (layout : String) (mark : Nat) : Option Value :=
  match layout with
  | "int" => some (.int mark 0)
  | "float" => some (.float mark "0.0")
  | "complex" => some (.tuple mark [.float mark "0.0", .float mark "0.0"])
  | "str" | "bytes" | "bytearray" => some (.str mark "")
  | "list" => some (.list mark [])
  | "tuple" | "set" | "frozenset" => some (.tuple mark [])
  | "dict" => some (.dict mark [])
  | "staticmethod" => some (.staticMethod mark .none)
  | "classmethod" => some (.classMethod mark .none)
  | "property" => some (.property mark .none .none .none)
  | _ => none

/-- What an instance of a builtin class holds that is written out as a value of its own. One without
a mark holds nothing. -/
def writtenContent? (name : String) (mark : Nat) : Option Value :=
  if mark = 0 then emptyContent? name mark
  else match name with
  | "bytes" => some (.str mark "xy")
  | "complex" => some (.tuple mark [.float mark "0.0", .float mark "1.0"])
  | name => emptyContent? name mark

/-- What a value holds now, unless it is a dictionary of attributes: an instance of a class derived
from a builtin one holds a plain value, and what a container holds can have changed. Any other value
holds itself. -/
def plainContent (s : Store) : Value → Value
  | .object mark c =>
    let first := if c.origin == .builtin then writtenContent? c.name mark
      else emptyContent? (s.classInfo c).layout mark
    ((s.contents.lookup mark).or first).getD (.object mark c)
  | .list mark items => (s.contents.lookup mark).getD (.list mark items)
  | .dict mark entries => (s.contents.lookup mark).getD (.dict mark entries)
  | .property mark getter setter deleter =>
    (s.contents.lookup mark).getD (.property mark getter setter deleter)
  | .staticMethod mark func => (s.contents.lookup mark).getD (.staticMethod mark func)
  | .classMethod mark func => (s.contents.lookup mark).getD (.classMethod mark func)
  | v => v

/-- The value is an instance of the builtin class. -/
def isOf (s : Store) (cls : String) (v : Value) : Bool :=
  s.derives (s.classOf v) (.builtin cls)

/-- The value is text, or an instance of a class derived from that of texts. -/
def isText (s : Store) (v : Value) : Bool :=
  s.isOf "str" v

/-- The value is absent or an instance of the builtin class. -/
def isAbsentOr (s : Store) (cls : String) (v : Value) : Bool :=
  v.isAbsent || s.isOf cls v

/-- The text of a value that is text. -/
def textOf? (s : Store) (v : Value) : Option String :=
  match v, s.plainContent v with
  | .str _ text, _ => some text
  | _, .str _ text => if s.isText v then some text else none
  | _, _ => none

/-- Those of some entries of which the keys are texts, by these. -/
def named (s : Store) (entries : List (Value × Value)) : Bindings Value :=
  entries.filterMap fun (key, held) => (s.textOf? key).map (·, held)

/-- The members that a class has itself, in order. -/
def ownMembers (s : Store) (c : ClassRef) : Bindings Value :=
  match c.origin with
  | .builtin =>
    (BuiltinClass.ofName c.name).memberNames.filterMap fun name =>
      (s.ownMember? c name).map (name, ·)
  | _ => (s.classInfo c).members

/-- The attributes that were given to a value itself. -/
def givenAttributes (s : Store) : Value → Bindings Value
  | .function id => ((s.functions[id]?).map Function.attributes).getD []
  | .module => s.globals
  | .library name => [("__name__", sharedText name)]
  | .cls c => s.ownMembers c
  | .object mark _ | .staticMethod mark _ | .classMethod mark _ | .proxy mark _ _ =>
    s.attributesOf mark
  | _ => []

/-- The dictionary that a value was given to keep its attributes in, if it was given one. -/
def adopted? (s : Store) (v : Value) : Option Value :=
  (s.adopted.find? fun entry => entry.1.same v).map Prod.snd

/-- The attributes that a value has itself. -/
def ownAttributes (s : Store) (v : Value) : Bindings Value :=
  match s.adopted? v with
  | none => s.givenAttributes v
  | some (.attributes owner) => s.givenAttributes owner
  | some d =>
    match s.plainContent d with
    | .dict _ entries => s.named entries
    | _ => []

/-- What a value holds now. -/
def content (s : Store) (v : Value) : Value :=
  match v with
  | .attributes owner => .dict 0 (entriesNamed (s.ownAttributes owner))
  | v => s.plainContent v

/-- The items of a tuple or list, if the value is one. -/
def itemsOf (s : Store) (v : Value) : List Value :=
  match s.content v with
  | .tuple _ items | .list _ items => items
  | _ => []

/-- The codes that bytes hold, as text. -/
def codesOf (s : Store) (v : Value) : String :=
  match s.content v with
  | .str _ codes => codes
  | _ => ""

/-- The codes that a value holds as bytes, as text, if it holds any. -/
def bytesHeld? (s : Store) (v : Value) : Option String :=
  if s.isOf "bytes" v || s.isOf "bytearray" v then some (s.codesOf v)
  else match s.isOf "memoryview" v, s.content v with
    | true, .tuple _ [inner] => some (s.codesOf inner)
    | _, _ => none

/-- The entries of a dictionary whose keys are texts, by these. -/
def namespace? (s : Store) (v : Value) : Option (Bindings Value) :=
  match s.content v with
  | .dict _ entries => some (s.named entries)
  | _ => none

/-- Instances of the class keep attributes of their own. -/
def attributed (s : Store) (c : ClassRef) : Bool :=
  (s.ancestry c).any fun d => match d.origin with
    | .builtin => (BuiltinClass.ofName d.name).attributed
    | _ => (s.classInfo d).kept.contains "__dict__"

/-- The value can be given attributes. -/
def takesAttributes (s : Store) : Value → Bool
  | .function _ | .module | .staticMethod _ _ | .classMethod _ _ | .proxy _ _ _ => true
  | .object mark c => s.attributed (s.classOf (.object mark c))
  | _ => false

end Store

end DocGuard
