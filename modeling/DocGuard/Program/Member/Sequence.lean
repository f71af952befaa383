import DocGuard.Program.Argument
import DocGuard.Program.Ordering
/-!
What the members of lists, tuples, ranges and slices do.

The places of a sequence are counted from its start, or with negative numbers from its end. A slice
names several places, which follow each other at the same distance.
-/

namespace DocGuard

/-! ### Places -/

/-- The place that an integer names among `size` places; a negative one is counted from the end. -/
def placeAmong? (size : Nat) (n : Int) : Option Nat :=
  let at_ := if n < 0 then n + size else n
  if 0 ≤ at_ ∧ at_ < size then some at_.toNat else none

/-- The place at which a value is put into a list. -/
def placeToInsert (size : Nat) (n : Int) : Nat :=
  (max 0 (min (size : Int) (if n < 0 then n + size else n))).toNat

/-- A bound of a slice among `size` places, which can lie one step outside at either end. -/
def sliceBound (size : Nat) (step : Int) (missing : Int) (bound : Option Int) : Int :=
  match bound with
  | none => missing
  | some n =>
    let at_ := if n < 0 then n + size else n
    let least := if step < 0 then -1 else 0
    let most := if step < 0 then (size : Int) - 1 else size
    max least (min most at_)

/-- Where a slice begins and ends among `size` places, and its step. -/
def sliceWithin (size : Nat) (start stop step : Option Int) : Run (Int × Int × Int) := do
  let step := step.getD 1
  if step = 0 then throw (.badValue "slice step cannot be zero")
  let first : Int := if step < 0 then (size : Int) - 1 else 0
  let last : Int := if step < 0 then -1 else size
  return (sliceBound size step first start, sliceBound size step last stop, step)

/-- The bounds and the step that a slice holds. -/
def boundsOf (call : Call) (v : Value) : Run (Option Int × Option Int × Option Int) := do
  match (← Run.store).content v with
  | .tuple _ [start, stop, step] =>
    let step ← boundOf? call (some step)
    let start ← boundOf? call (some start)
    return (start, ← boundOf? call (some stop), step)
  | _ => return (none, none, none)

/-- The places that a slice names among `size` places: where they begin and end, and the step. -/
def sliceOf (call : Call) (size : Nat) (v : Value) : Run (Int × Int × Int) := do
  let (start, stop, step) ← boundsOf call v
  sliceWithin size start stop step

/-- The places from `start` to before `stop`. -/
def placesBetween (start stop step : Int) : List Nat :=
  (List.range (rangeLength start stop step)).map fun (i : Nat) => (start + step * (i : Int)).toNat

/-- A value names one place, or several. -/
inductive Subscript where
  | place (n : Int)
  | slice (start stop step : Int)

/-- What a value names among `size` places. -/
def subscriptOf (call : Call) (size : Nat) (v : Value) : Run Subscript := do
  let s ← Run.store
  if (s.special? v "__index__").isSome then return .place (← sizeOf call v)
  if s.isOf "slice" v then
    let (start, stop, step) ← sliceOf call size v
    return .slice start stop step
  throw .badCall

/-- The things at the places that a value names among some: one, or several. -/
def subscripted {α : Type} (call : Call) (items : List α) (v : Value) : Run (α ⊕ List α) := do
  match ← subscriptOf call items.length v with
  | .place n =>
    match (placeAmong? items.length n).bind fun n => items[n]? with
    | some item => return .inl item
    | none => throw .noItem
  | .slice start stop step =>
    let array := items.toArray
    return .inr ((placesBetween start stop step).filterMap fun i => array[i]?)

/-! ### Searching -/

/-- The first place from `n` on of a value among some that is equal to `v`. -/
def placeOfEqual? (call : Call) (v : Value) (n : Nat) : List Value → Run (Option Nat)
  | [] => return none
  | w :: ws => do
    if ← askEqual call w v then return some n else placeOfEqual? call v (n + 1) ws

/-- How many of some values are equal to `v`. -/
def countEqual (call : Call) (v : Value) : List Value → Run Nat
  | [] => return 0
  | w :: ws => do
    let here ← askEqual call w v
    return (← countEqual call v ws) + here.toNat

/-- The first place of a value that is equal to the one asked for, between two places. `missing`
words that there is none. -/
def placeWithin (call : Call) (items : List Value) (args : Fitted)
    (missing : Value → Run String) : Run Value := do
  let bound (v : Option Value) (otherwise : Int) : Run Int := do
    match v with
    | none => return otherwise
    | some v =>
      let n ← indexOf call v
      return if n < 0 then max 0 (n + items.length) else n
  match args with
  | some v :: _ =>
    let start ← bound (args.at? 1) 0
    let stop ← bound (args.at? 2) items.length
    match ← placeOfEqual? call v start.toNat ((items.take stop.toNat).drop start.toNat) with
    | some n => Run.newInt n
    | none => throw (.badValue (← missing v))
  | _ => throw .badCall

/-- Some things as many times as a value says. -/
def repeated {α : Type} (call : Call) (items : List α) (times : Value) : Run (List α) := do
  let n ← sizeOf call times
  if (mostMade : Int) < n * items.length then throw .tooLarge
  return (List.replicate (if items.isEmpty then 0 else n.toNat) items).flatten

/-! ### Lists -/

/-- Changes the items of a list. -/
def setItems (v : Value) (items : List Value) : Run Value := do
  setContent v (.list 0 items)
  return .none

/-- Puts the items of a list in order. While this goes on, the list is empty. -/
def sortList (call : Call) (v : Value) (items : List Value) (key : Value) (backwards : Bool) :
    Run Value := do
  discard (setItems v [])
  match ← Run.attempt (sortedItems call key backwards items) with
  | .error e => do
    discard (setItems v items)
    throw e
  | .ok sorted =>
    let changed := match (← Run.store).content v with
      | .list _ items => !items.isEmpty
      | _ => false
    discard (setItems v sorted)
    if changed then throw (.badValue "list modified during sort") else return .none

/-- The items after those at some places were replaced: all between two places by any others, or one
by one. -/
def replacedItems (items : List Value) (start stop step : Int) (others : List Value) :
    Run (List Value) :=
  if step = 1 then
    let stop := max start stop
    return items.take start.toNat ++ others ++ items.drop stop.toNat
  else
    let places := placesBetween start stop step
    if places.length = others.length then
      return (places.zip others).foldl (fun items (i, v) => items.set i v) items
    else throw (.badValue ("attempt to assign sequence of size " ++ toString others.length
      ++ " to extended slice of size " ++ toString places.length))

/-- The items without those at some places. -/
def withoutPlaces (items : List Value) (places : List Nat) : List Value :=
  (items.zipIdx.filter fun (_, i) => !places.contains i).map Prod.fst

/-- The items that a list holds now. -/
def listItems (v : Value) : Run (List Value) := do
  match (← Run.store).content v with
  | .list _ items => return items
  | _ => throw .badCall

/-- Adds the values that a value goes through to a list. What came before a fault stays. -/
def extendList (call : Call) (v others : Value) : Run Unit := do
  let s ← Run.store
  let kept ← match s.special? others "__iter__", v.same others with
    | _, true => do pure (some (← listItems v))
    | some (.slot _ owner _), false => heldItems? owner others
    | _, false => pure none
  match kept with
  | some more => do
    let own := s.classOf others
    if !(v.same others || own == .builtin "list" || own == .builtin "tuple") then
      askLength call others
    discard (setItems v ((← listItems v) ++ more))
  | none =>
    foldIn call others true () fun _ item => do
      discard (setItems v ((← listItems v) ++ [item]))
      return .yield ()

/-- What a member of the class of lists does with a list. -/
def listMember (call : Call) (name : String) (v : Value) (args : Fitted) : Run Value := do
  let items ← listItems v
  match name, args with
  | "append", [some item] => setItems v (items ++ [item])
  | "extend", [some others] => do
    extendList call v others
    return .none
  | "__iadd__", [some others] => do
    extendList call v others
    return v
  | "__imul__", [some times] => do
    discard (setItems v (← repeated call items times))
    return v
  | "__add__", [some other] =>
    match (← Run.store).content other with
    | .list _ others => Run.newList (items ++ others)
    | _ => throw .badCall
  | "__mul__", [some times] | "__rmul__", [some times] => do
    Run.newList (← repeated call items times)
  | "insert", [some at_, some item] => do
    let n ← sizeOf call at_
    let items ← listItems v
    let n := placeToInsert items.length n
    setItems v (items.take n ++ item :: items.drop n)
  | "clear", [] => setItems v []
  | "reverse", [] => setItems v items.reverse
  | "copy", [] => Run.newList items
  | "pop", args => do
    let n ← match args with
      | [] => pure (-1)
      | [some at_] => sizeOf call at_
      | _ => throw .badCall
    let items ← listItems v
    match placeAmong? items.length n with
    | none => throw .noItem
    | some n => do
      discard (setItems v (items.eraseIdx n))
      return items.getD n .none
  | "remove", [some item] => do
    match ← placeOfEqual? call item 0 items with
    | some n => setItems v ((← listItems v).eraseIdx n)
    | none => throw (.badValue "list.remove(x): x not in list")
  | "index", args =>
    -- the value is written to say that it is missing
    placeWithin call items args fun v => return (← askWritten call v) ++ " is not in list"
  | "count", [some item] => do Run.newInt (← countEqual call item items)
  | "sort", args => do
    sortList call v items (args.getD 0) (← backwardsOf call (args.at? 1))
  | "__getitem__", [some at_] => do
    match ← subscripted call items at_ with
    | .inl item => return item
    | .inr items => Run.newList items
  | "__setitem__", [some at_, some held] => do
    match ← subscriptOf call items.length at_ with
    | .place n =>
      match placeAmong? items.length n with
      | some n => setItems v (items.set n held)
      | none => throw .noItem
    | .slice start stop step => do
      let others ← itemsListed call held
      setItems v (← replacedItems (← listItems v) start stop step others)
  | "__delitem__", [some at_] => do
    match ← subscriptOf call items.length at_ with
    | .place n =>
      match placeAmong? items.length n with
      | some n => setItems v (items.eraseIdx n)
      | none => throw .noItem
    | .slice start stop step => setItems v (withoutPlaces items (placesBetween start stop step))
  | "__contains__", [some item] => return .bool (← hasEqual call item items)
  | "__reversed__", [] => newKeeping "list_reverseiterator" [v, .int 0 (items.length - 1)]
  | "__sizeof__", [] => Run.newInt (40 + 8 * items.length : Nat)
  | _, _ => throw .badCall

/-! ### Tuples -/

/-- What a member of the class of tuples does with one of these items. -/
def tupleMember (call : Call) (name : String) (v : Value) (items : List Value) (args : Fitted) :
    Run Value := do
  let s ← Run.store
  match name, args with
  | "__add__", [some other] =>
    match s.isOf "tuple" other, s.content other with
    | true, .tuple _ others =>
      if others.isEmpty && s.classOf v == .builtin "tuple" then return v
      if items.isEmpty && s.classOf other == .builtin "tuple" then return other
      Run.newTuple (items ++ others)
    | _, _ => throw .badCall
  | "__mul__", [some times] | "__rmul__", [some times] => do
    Run.newTuple (← repeated call items times)
  | "__getitem__", [some at_] => do
    match ← subscripted call items at_ with
    | .inl item => return item
    | .inr items => Run.newTuple items
  | "__contains__", [some item] => return .bool (← hasEqual call item items)
  | "index", args => placeWithin call items args fun _ => return "tuple.index(x): x not in tuple"
  | "count", [some item] => do Run.newInt (← countEqual call item items)
  | "__getnewargs__", [] => do Run.newTuple [← Run.newTuple items]
  | "__sizeof__", [] => Run.newInt (24 + 8 * items.length : Nat)
  | _, _ => throw .badCall

/-! ### Ranges and slices -/

/-- A range with these bounds. -/
def newRange (start stop step : Int) : Run Value := do
  newKeeping "range" [← Run.newInt start, ← Run.newInt stop, ← Run.newInt step]

/-- An integer is among those of a range. -/
def inRange (start stop step n : Int) : Bool :=
  let inside := if 0 < step then start ≤ n && n < stop else stop < n && n ≤ start
  inside && step != 0 && (n - start) % step == 0

/-- What a member of the class of ranges does with a range. -/
def rangeMember (call : Call) (name : String) (start stop step : Int) (args : Fitted) :
    Run Value := do
  let s ← Run.store
  let size := rangeLength start stop step
  let ownInteger? (v : Value) : Option Int :=
    if s.classOf v == .builtin "int" || s.classOf v == .builtin "bool" then
      (s.content v).integer?
    else none
  match name, args with
  | "__bool__", [] => return .bool (size != 0)
  | "__getitem__", [some at_] => do
    match ← subscriptOf call size at_ with
    | .place n =>
      match placeAmong? size n with
      | some n => Run.newInt (start + step * n)
      | none => throw .noItem
    | .slice first last by_ => newRange (start + step * first) (start + step * last) (step * by_)
  | "__contains__", [some v] =>
    match ownInteger? v with
    | some n => return .bool (inRange start stop step n)
    | none => return .bool (← hasEqual call v (← rangeItems start stop step))
  | "index", [some v] =>
    match ownInteger? v with
    | some n =>
      if inRange start stop step n then Run.newInt ((n - start) / step)
      else throw (.badValue (toString n ++ " is not in range"))
    | none =>
      match ← placeOfEqual? call v 0 (← rangeItems start stop step) with
      | some n => Run.newInt n
      | none => throw (.badValue "sequence.index(x): x not in sequence")
  | "count", [some v] =>
    match ownInteger? v with
    | some n => Run.newInt (inRange start stop step n).toNat
    | none => do Run.newInt (← countEqual call v (← rangeItems start stop step))
  | "__reversed__", [] =>
    newKeeping "range_iterator"
      [.int 0 (start + step * ((size : Int) - 1)), .int 0 (-step), .int 0 size]
  | _, _ => throw .badCall

/-- What a member of the class of slices does with a slice. -/
def sliceMember (call : Call) (name : String) (v : Value) (args : Fitted) : Run Value := do
  match name, args with
  | "indices", [some length] => do
    let n ← indexOf call length
    if n < 0 then throw (.badValue "length should not be negative")
    let (start, stop, step) ← sliceOf call n.toNat v
    Run.newTuple [← Run.newInt start, ← Run.newInt stop, ← Run.newInt step]
  | _, _ => throw .badCall

end DocGuard
