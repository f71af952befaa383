import DocGuard.Program.Plan
/-!
What refers to what.

An object lives as long as something refers to it. What can refer to values is a holder: an object
with what it keeps, a function, a class or a variable. `Value.holders` are the holders that a value
leads to, `Store.heldIn` those that a holder leads to. Holders that lead to each other in a circle
keep each other; classes are such holders, and so are never given up.

`Store.givenUp` are the instances that nothing refers to any more.
-/

namespace DocGuard

/-- What can refer to values. -/
inductive Holder where
  /-- An object, a container or a call, known by its mark. -/
  | object (mark : Nat)
  | function (id : FunctionId)
  | cell (id : CellId)
deriving DecidableEq

/-! ### What leads to what -/

/-- What the value was made with is no longer what it holds. -/
def Store.hasContent (s : Store) (mark : Nat) : Bool :=
  (s.contents.lookup mark).isSome

mutual

/-- The holders that a value leads to. A list gives up its last item first. -/
def Value.holders (s : Store) : Value → List Holder
  | .list mark items =>
    .object mark :: (if s.hasContent mark then [] else (Value.holdersOfAll s items).reverse)
  | .tuple _ items => (Value.holdersOfAll s items).reverse
  | .dict mark entries =>
    .object mark :: (if s.hasContent mark then [] else Value.holdersOfEntries s entries)
  | .object mark _ | .proxy mark _ _ => [.object mark]
  | .function id => [.function id]
  | .method _ receiver func => receiver.holders s ++ func.holders s
  | .staticMethod mark func | .classMethod mark func =>
    .object mark :: (if s.hasContent mark then [] else func.holders s)
  | .property mark getter setter deleter =>
    .object mark :: (if s.hasContent mark then []
      else getter.holders s ++ setter.holders s ++ deleter.holders s)
  | .parent _ _ receiver _ | .boundSlot _ _ receiver _ _ => receiver.holders s
  | .cell id => [.cell id]
  | .attributes owner => owner.holders s
  | .none | .bool _ | .int _ _ | .float _ _ | .str _ _ | .cls _ | .code _ | .storage _ _
  | .builtin _ | .slot _ _ _ | .module | .library _ => []

/-- The holders that some values lead to. -/
def Value.holdersOfAll (s : Store) : List Value → List Holder
  | [] => []
  | v :: rest => v.holders s ++ Value.holdersOfAll s rest

/-- The holders that the entries of a dictionary lead to. -/
def Value.holdersOfEntries (s : Store) : List (Value × Value) → List Holder
  | [] => []
  | (key, v) :: rest => key.holders s ++ v.holders s ++ Value.holdersOfEntries s rest

end

namespace Store

/-- The holders that bound values lead to. -/
def holdersBound (s : Store) (b : Bindings Value) : List Holder :=
  Value.holdersOfAll s (b.map Prod.snd)

/-- The values that a function needs for its calls. -/
def functionValues (f : Function) : List Value :=
  [f.name, f.qualifiedName, f.doc, f.module, f.defaults, f.keywordDefaults, f.annotations]
    ++ match f.behaviour with
      | .run _ outer => outer.map fun (_, id) => .cell id
      | .guard g => .function g.inner :: g.place :: g.signature.filterMap Param.default

/-- The holders that an object or container leads to by its mark. -/
def heldByMark (s : Store) (mark : Nat) : List Holder :=
  let content := match s.contents.lookup mark with
    | some (.list _ items) | some (.tuple _ items) => (Value.holdersOfAll s items).reverse
    | some (.dict _ entries) => Value.holdersOfEntries s entries
    | some (.staticMethod _ func) | some (.classMethod _ func) => func.holders s
    | some (.property _ getter setter deleter) => Value.holdersOfAll s [getter, setter, deleter]
    | some v => v.holders s
    | none => []
  let adopted := s.adopted.flatMap fun (owner, dictionary) =>
    if owner.contentMark? == some mark then dictionary.holders s else []
  let stored := ((s.stored.lookup mark).getD []).flatMap fun (_, v) => v.holders s
  stored ++ s.holdersBound (s.attributesOf mark) ++ adopted ++ content

/-- The holders that a holder leads to. -/
def heldIn (s : Store) : Holder → List Holder
  | .object mark => s.heldByMark mark
  | .function id => match s.functions[id]? with
    | some f => Value.holdersOfAll s (functionValues f) ++ s.holdersBound f.attributes
    | none => []
  | .cell id => ((s.cell? id).map (Value.holders s)).getD []

/-! ### What is given up -/

/-- The holders that a frame leads to. -/
def heldByFrame (s : Store) : Frame → List Holder
  | .module | .elsewhere | .nameless => []
  | .classBody _ _ members => s.holdersBound members
  | .call mark _ vars => .object mark :: vars.map fun (_, id) => .cell id
  | .guarding inner place args keywords values =>
    .function inner
      :: Value.holdersOfAll s (place :: args ++ keywords.map Prod.snd ++ values.getD [])
  | .checking _ _ _ params => s.holdersBound params

/-- The holders that a layer leads to. -/
def heldByLayer (s : Store) : Layer → List Holder
  | .frame f => s.heldByFrame f
  | .holding values => Value.holdersOfAll s values

/-- The holders that are there in any case inside these layers: what the globals, the layers and the
classes lead to. -/
def firmHolders (s : Store) (layers : List Layer) : List Holder :=
  s.holdersBound s.globals ++ layers.flatMap s.heldByLayer
    ++ s.classes.toList.flatMap (fun c => s.holdersBound c.members)
    ++ s.written.flatMap fun (_, c) => s.holdersBound c.members

/-- All holders that refer to something, and the instances made. Variables come first, so that the
variables of a call that ends are given up in their order, and containers come before what they
contain. -/
def allHolders (s : Store) : List Holder :=
  (List.range s.cells.size).map .cell ++ (List.range s.functions.size).map .function
    ++ ((s.contents.map Prod.fst ++ s.instances.map Prod.fst ++ s.attributes.map Prod.fst
      ++ s.stored.map Prod.fst).eraseDups).map .object

/-- The holder is there in any case: it belongs to a value written out. -/
def isWrittenOut (s : Store) : Holder → Bool
  | .object mark => mark < s.firstMark
  | _ => false

/-- Goes through holders that may have to be given up, `alive` being those that were not. A holder
to which nothing leads is given up, and then what it led to is looked at; the instances among them
are the result, and still hold what they hold. The search ends after at most `n` steps. -/
def findGivenUp (s : Store) (firm : List Holder) :
    (n : Nat) → (alive : List Holder) → List Holder → List (Nat × ClassRef)
  | 0, _, _ => []
  | _ + 1, _, [] => []
  | n + 1, alive, h :: rest =>
    let kept := !alive.contains h || s.isWrittenOut h || firm.contains h
      || alive.any fun o => (s.heldIn o).contains h
    let found := match h with
      | .object mark => (s.instances.lookup mark).map (mark, ·)
      | _ => none
    match kept, found with
    | true, _ => findGivenUp s firm n alive rest
    | false, some instance_ => instance_ :: findGivenUp s (h :: firm) n alive rest
    | false, none => findGivenUp s firm n (alive.erase h) (s.heldIn h ++ rest)

/-- Some class says what is done before an instance is given up. -/
def tellsInstances (s : Store) : Bool :=
  s.classes.any (fun c => c.members.has "__del__")
    || s.written.any fun (_, c) => c.members.has "__del__"

/-- The instances that nothing inside these layers refers to, in the order in which they are given
up. -/
def givenUp (s : Store) (layers : List Layer) : List (Nat × ClassRef) :=
  let all := s.allHolders
  let steps := (all.flatMap s.heldIn).length + all.length + 1
  s.findGivenUp (s.firmHolders layers) steps all all

end Store

end DocGuard
