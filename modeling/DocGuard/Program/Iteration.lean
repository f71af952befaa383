import DocGuard.Program.Comparison
/-!
Going through the values that a value holds.

A value that holds others gives an iterator, and this gives one value after the other until there
are none left. A class that a program defines takes part by operations of its own; a value without
such an operation is asked for what it has at one place after the other. The iterators of the
language keep what they go through and how far they are, so that a container can change meanwhile.
-/

namespace DocGuard

/-- A value of a builtin class that keeps some values. -/
def newKeeping (cls : String) (kept : List Value) : Run Value := do
  let mark ← Run.newMark
  Run.changeContent mark (.tuple mark kept)
  return .object mark (.builtin cls)

/-- Changes what a value holds. The dictionary of the attributes of a value changes these. -/
def setContent (v content : Value) : Run Unit := do
  match v, v.contentMark? with
  | .attributes owner, _ =>
    match content with
    | .dict _ entries => do
      let held := (← Run.store).named entries
      changeOwnAttributes owner fun _ => held
    | _ => throw .badCall
  | _, some mark => Run.changeContent mark content
  | _, none => throw .badCall

/-! ### What builtin containers hold -/

/-- The entries of a dictionary. -/
def Store.entries (s : Store) (d : Value) : List (Value × Value) :=
  match s.content d with
  | .dict _ entries => entries
  | _ => []

/-- The most integers that a range gives at once. -/
def mostAtOnce : Nat := Nat.pow 2 20

/-- The integers of a range. -/
def rangeItems (start stop step : Int) : Run (List Value) := do
  let n := rangeLength start stop step
  if mostAtOnce < n then throw .tooLarge
  (List.range n).mapM fun (i : Nat) => Run.newInt (start + step * (i : Int))

/-- The values that a value of the builtin class `owner` goes through, if it is a container or a
text. -/
def heldItems? (owner : String) (v : Value) : Run (Option (List Value)) := do
  let s ← Run.store
  match owner, s.content v with
  | "list", .list _ items | "tuple", .tuple _ items => return some items
  | "set", .tuple _ items | "frozenset", .tuple _ items => return some (s.setOrder items)
  | "dict", .dict _ entries => return some (entries.map Prod.fst)
  | "dict_keys", .tuple _ [d] => return some ((s.entries d).map Prod.fst)
  | "dict_values", .tuple _ [d] => return some ((s.entries d).map Prod.snd)
  | "dict_items", .tuple _ [d] =>
    return some (← (s.entries d).mapM fun (key, held) => Run.newTuple [key, held])
  | "str", .str _ text => return some (← text.toList.mapM fun c => Run.newText (String.ofList [c]))
  | "bytes", .str _ codes | "bytearray", .str _ codes =>
    return some (← codes.toList.mapM fun c => Run.newInt c.toNat)
  | "memoryview", .tuple _ [inner] =>
    return some (← (s.codesOf inner).toList.mapM fun c => Run.newInt c.toNat)
  | "range", content =>
    match content.bounds? with
    | some (a, b, c) => return some (← rangeItems a b c)
    | none => return none
  | _, _ => return none

/-! ### Iterators -/

/-- The iterator over what a value of the builtin class `owner` holds. Iterators are their own. -/
def plainIterator (call : Call) (owner : String) (v : Value) : Run Value := do
  let s ← Run.store
  let from0 (cls : String) : Run Value := newKeeping cls [v, .int 0 0]
  let sized (cls : String) (d : Value) : Run Value :=
    newKeeping cls [d, .int 0 0, .int 0 (s.entries d).length]
  match owner, s.content v with
  | "list", _ => from0 "list_iterator"
  | "tuple", _ => from0 "tuple_iterator"
  | "str", .str _ text =>
    let short := s.classOf v == .builtin "str" && text.toList.all (·.toNat < 128)
    from0 (if short then "str_ascii_iterator" else "str_iterator")
  | "bytes", _ => from0 "bytes_iterator"
  | "bytearray", _ => from0 "bytearray_iterator"
  | "memoryview", _ => from0 "memory_iterator"
  | "set", .tuple _ items | "frozenset", .tuple _ items =>
    newKeeping "set_iterator" [v, .int 0 0, .int 0 items.length]
  | "dict", _ => sized "dict_keyiterator" v
  | "dict_keys", .tuple _ [d] => sized "dict_keyiterator" d
  | "dict_values", .tuple _ [d] => sized "dict_valueiterator" d
  | "dict_items", .tuple _ [d] => sized "dict_itemiterator" d
  | "range", content =>
    match content.bounds? with
    | some (a, b, c) =>
      newKeeping "range_iterator" [.int 0 a, .int 0 c, .int 0 (rangeLength a b c)]
    | none => throw .badCall
  | "mappingproxy", .tuple _ [d] => call (.builtin "iter") [d] []
  | "GenericAlias", .tuple _ (origin :: parameters :: _) =>
    newKeeping "generic_alias_iterator" [origin, parameters]
  | _, _ => return v

/-- The iterator of a value. -/
def iteratorOf (call : Call) (v : Value) : Run Value := do
  let s ← Run.store
  match s.special? v "__iter__" with
  | none =>
    if (s.special? v "__getitem__").isSome then newKeeping "iterator" [v, .int 0 0]
    else throw .badCall
  | some .none => throw .badCall
  | some (.slot _ owner _) => plainIterator call owner v
  | some operation =>
    let it ← callSpecial call operation v []
    if ((← Run.store).special? it "__next__").isSome then return it else throw .badCall

/-- The result of a computation, or nothing if there was nothing left. -/
def orExhausted {α : Type} (x : Run α) : Run (Option α) := do
  match ← Run.attempt x with
  | .ok a => return some a
  | .error e => if e.isExhausted then return none else throw e

/-- The next value of an iterator, if there is one left. -/
def nextOf? (call : Call) (it : Value) : Run (Option Value) := do
  match (← Run.store).special? it "__next__" with
  | none => throw .badCall
  | some (.slot kind owner name) =>
    orExhausted (call (.slot kind owner name) [it] [])
  | some operation => orExhausted (callSpecial call operation it [])

/-- What a value has at a place, asked by its class: nothing if there is no such place. -/
def itemAt? (call : Call) (v : Value) (i : Int) : Run (Option Value) := do
  match (← Run.store).special? v "__getitem__" with
  | none => throw .badCall
  | some operation =>
    match ← Run.attempt (callSpecial call operation v [← Run.newInt i]) with
    | .ok item => return some item
    | .error .noItem | .error .exhausted => return none
    | .error e => throw e

/-- The next values of some iterators, as long as each has one; else how many had one. -/
def nextOfEach (call : Call) (got : List Value) : List Value → Run (Except Nat (List Value))
  | [] => return .ok got.reverse
  | it :: rest => do
    match ← nextOf? call it with
    | some v => nextOfEach call (v :: got) rest
    | none => return .error got.length

/-- How many of some iterators have no value left before the first that has one, if one has. -/
def firstUnexhausted? (call : Call) : List Value → Run (Option Nat)
  | [] => return none
  | it :: rest => do
    if (← nextOf? call it).isSome then return some 0
    return (← firstUnexhausted? call rest).map (· + 1)

/-- That one of the iterators gone through together ends before or behind the `n` in front of it. -/
def unevenMessage (n : Nat) (order : String) : String :=
  "zip() argument " ++ toString (n + 1) ++ " is " ++ order ++ " than argument"
    ++ (if n = 1 then " 1" else "s 1-" ++ toString n)

/-- The next of the values of an iterator that a condition lets through, among at most `n`. -/
def nextFiltered (call : Call) (f it : Value) : (n : Nat) → Run Value
  | 0 => throw .tooDeep
  | n + 1 => do
    match ← nextOf? call it with
    | none => throw .exhausted
    | some v =>
      let plain := f.isAbsent || f.same (.cls (.builtin "bool"))
      let answer ← if plain then pure v else call f [v] []
      if ← isTrue call answer then return v else nextFiltered call f it n

/-- How many values are gone through at most. -/
def iterationLimit : Nat := 100000

/-- Takes the next value of an iterator that keeps a container and how far it is, and notes that it
is further. `items` is what the container holds now. -/
def takeKept (it seq : Value) (rest : List Value) (i : Int) (items : List Value) : Run Value := do
  match items[i.toNat]? with
  | some item => do
    setContent it (.tuple 0 (seq :: .int 0 (i + 1) :: rest))
    return item
  | none => do
    setContent it (.tuple 0 [])
    throw .exhausted

/-- What a dictionary gives to an iterator of a builtin class. -/
def entryItems (cls : String) (entries : List (Value × Value)) : Run (List Value) :=
  if cls.endsWith "valueiterator" then return entries.map Prod.snd
  else if cls.endsWith "itemiterator" then
    entries.mapM fun (key, held) => Run.newTuple [key, held]
  else return entries.map Prod.fst

/-- The next value of an iterator of the builtin class `owner`. -/
def advance (call : Call) (owner : String) (it : Value) : Run Value := do
  let s ← Run.store
  match owner, s.content it with
  | "range_iterator", .tuple _ [a, c, n] | "longrange_iterator", .tuple _ [a, c, n] =>
    match a.integer?, c.integer?, n.integer? with
    | some start, some step, some left =>
      if left ≤ 0 then throw .exhausted
      setContent it (.tuple 0 [.int 0 (start + step), c, .int 0 (left - 1)])
      Run.newInt start
    | _, _, _ => throw .exhausted
  | "iterator", .tuple _ [seq, .int _ i] =>
    match ← itemAt? call seq i with
    | some item => do
      setContent it (.tuple 0 [seq, .int 0 (i + 1)])
      return item
    | none => do
      setContent it (.tuple 0 [])
      throw .exhausted
  | "reversed", .tuple _ [seq, .int _ i] =>
    if i < 0 then throw .exhausted
    match ← itemAt? call seq i with
    | some item => do
      setContent it (.tuple 0 [seq, .int 0 (i - 1)])
      return item
    | none => do
      setContent it (.tuple 0 [])
      throw .exhausted
  | "list_reverseiterator", .tuple _ [seq, .int _ i] =>
    let items := match s.content seq with
      | .list _ items => items
      | _ => []
    if i < 0 || (items.length : Int) ≤ i then do
      setContent it (.tuple 0 [])
      throw .exhausted
    setContent it (.tuple 0 [seq, .int 0 (i - 1)])
    return items.getD i.toNat .none
  | "callable_iterator", .tuple _ [f, last] =>
    match ← orExhausted (call f [] []) with
    | none => do
      setContent it (.tuple 0 [])
      throw .exhausted
    | some v =>
      if ← askEqual call last v then
        setContent it (.tuple 0 [])
        throw .exhausted
      return v
  | "enumerate", .tuple _ [inner, .int _ n] =>
    match ← nextOf? call inner with
    | none => throw .exhausted
    | some v =>
      setContent it (.tuple 0 [inner, .int 0 (n + 1)])
      Run.newTuple [← Run.newInt n, v]
  | "zip", .tuple _ [.tuple _ its, .bool strict] =>
    if its.isEmpty then throw .exhausted
    match ← nextOfEach call [] its with
    | .ok items => Run.newTuple items
    | .error n =>
      if !strict then throw .exhausted
      if n != 0 then throw (.badValue (unevenMessage n "shorter"))
      match ← firstUnexhausted? call (its.drop 1) with
      | none => throw .exhausted
      | some k => throw (.badValue (unevenMessage (k + 1) "longer"))
  | "map", .tuple _ [f, .tuple _ its] =>
    match ← nextOfEach call [] its with
    | .ok items => call f items []
    | .error _ => throw .exhausted
  | "filter", .tuple _ [f, inner] => nextFiltered call f inner iterationLimit
  | "generic_alias_iterator", .tuple _ [origin, parameters] => do
    setContent it (.tuple 0 [])
    newKeeping "GenericAlias" [origin, parameters, .bool true]
  | "set_iterator", .tuple _ (seq :: .int _ i :: rest) =>
    let items := match s.content seq with
      | .tuple _ items => items
      | _ => []
    if rest.head?.bind Value.integer? != some (items.length : Int) then throw .changed
    takeKept it seq rest i (s.setOrder items)
  | owner, .tuple _ (seq :: .int _ i :: rest) =>
    if owner.startsWith "dict_" then
      let entries := s.entries seq
      if rest.head?.bind Value.integer? != some (entries.length : Int) then throw .changed
      let entries := if owner.startsWith "dict_reverse" then entries.reverse else entries
      takeKept it seq rest i (← entryItems owner entries)
    else
      let kind := match owner with
        | "list_iterator" => "list"
        | "tuple_iterator" => "tuple"
        | "bytes_iterator" => "bytes"
        | "bytearray_iterator" => "bytearray"
        | "memory_iterator" => "memoryview"
        | _ => "str"
      takeKept it seq rest i ((← heldItems? kind seq).getD [])
  | _, _ => throw .exhausted

/-! ### All values -/

/-- The values that an iterator gives, of which there must not be more than `n`. -/
def collect (call : Call) (it : Value) : (n : Nat) → Run (List Value)
  | 0 => throw .tooLarge
  | n + 1 => do
    match ← nextOf? call it with
    | none => return []
    | some v => return v :: (← collect call it n)

/-- Asks a value how much it holds, before it is gone through. What does not fit is passed over. -/
def askLength (call : Call) (v : Value) : Run Unit := do
  let passing (x : Run Unit) : Run Bool := do
    match ← Run.attempt x with
    | .ok _ => return true
    | .error .badCall | .error .badParents => return false
    | .error e => throw e
  let s ← Run.store
  let known ← match s.special? v "__len__" with
    | none => pure false
    | some _ => passing (discard (lengthOf? call v))
  if known then return ()
  match (← Run.store).special? v "__length_hint__" with
  | none => return ()
  | some (.slot _ _ _) =>
    match s.content v with
    | .tuple _ (seq :: _) =>
      if ["iterator", "reversed"].any fun cls => s.isOf cls v then
        discard (passing (discard (lengthOf? call seq)))
    | _ => return ()
  | some operation =>
    match ← Run.attempt (callSpecial call operation v []) with
    | .error .badCall => return ()
    | .error e => throw e
    | .ok hint =>
      if hint.isNoAnswer then return ()
      let s ← Run.store
      match s.isOf "int" hint, (s.content hint).integer? with
      | true, some n => if n < 0 then throw (.badValue "__length_hint__() should return >= 0")
      | _, _ => throw .badCall

/-- All values that a value goes through. With `asks`, it is asked how many there are before. -/
def itemsIn (call : Call) (v : Value) (asks : Bool) : Run (List Value) := do
  let s ← Run.store
  match s.special? v "__iter__" with
  | some (.slot _ owner _) =>
    match ← heldItems? owner v with
    | some items => do
      let own := s.classOf v
      let exact := own == .builtin "list" || own == .builtin "tuple"
      if asks && !exact then askLength call v
      return items
    | none => do
      let it ← plainIterator call owner v
      if asks then askLength call v
      collect call it iterationLimit
  | _ => do
    let it ← iteratorOf call v
    if asks then askLength call v
    collect call it iterationLimit

/-- All values that a value goes through, where a list or tuple is taken as it is and of any other
value a list is made of what its iterator goes through. -/
def itemsListed (call : Call) (v : Value) : Run (List Value) := do
  let own := (← Run.store).classOf v
  if own == .builtin "list" || own == .builtin "tuple" then itemsIn call v false
  else itemsIn call (← iteratorOf call v) true

/-! ### One value after the other -/

/-- Does something with the values of an iterator, of which there must not be more than `n`, as they
come. -/
def foldNext {β : Type} (call : Call) (it : Value) (f : β → Value → Run (ForInStep β)) :
    (n : Nat) → β → Run β
  | 0, _ => throw .tooLarge
  | n + 1, b => do
    match ← nextOf? call it with
    | none => return b
    | some v =>
      match ← f b v with
      | .done b => return b
      | .yield b => foldNext call it f n b

/-- Does something with some values in their order. -/
def foldItems {β : Type} (f : β → Value → Run (ForInStep β)) : List Value → β → Run β
  | [], b => return b
  | v :: rest, b => do
    match ← f b v with
    | .done b => return b
    | .yield b => foldItems f rest b

/-- Does something with the values that a value goes through, as they come. With `asks`, it is asked
how many there are before. -/
def foldIn {β : Type} (call : Call) (v : Value) (asks : Bool) (b : β)
    (f : β → Value → Run (ForInStep β)) : Run β := do
  match (← Run.store).special? v "__iter__" with
  | some (.slot _ owner _) =>
    match ← heldItems? owner v with
    | some _ => do foldItems f (← itemsIn call v asks) b
    | none => do
      let it ← plainIterator call owner v
      if asks then askLength call v
      foldNext call it f iterationLimit b
  | _ => do
    let it ← iteratorOf call v
    if asks then askLength call v
    foldNext call it f iterationLimit b

/-- Does something with each of the values that a value goes through, as they come. -/
def forEachIn (call : Call) (v : Value) (f : Value → Run Unit) : Run Unit :=
  foldIn call v false () fun _ w => do
    f w
    return .yield ()

/-- A value is among those that another one holds. -/
def isAmong (call : Call) (v container : Value) : Run Bool := do
  let s ← Run.store
  match s.special? container "__contains__" with
  | some .none => throw .badCall
  | some operation => isTrue call (← callSpecial call operation container [v])
  | none => do
    let it ← iteratorOf call container
    search it iterationLimit
where
  /-- Goes through at most `n` values of an iterator until one is equal. -/
  search (it : Value) : (n : Nat) → Run Bool
    | 0 => throw .tooLarge
    | n + 1 => do
      match ← nextOf? call it with
      | none => return false
      | some w => if ← askEqual call w v then return true else search it n

end DocGuard
