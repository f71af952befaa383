import DocGuard.Program.Argument
import DocGuard.Program.KeySource
import DocGuard.Program.Operator
/-!
What the members of sets do.

A set holds keys. The sign of an operator works between sets only; the member with a name takes any
values that hold keys.
-/

namespace DocGuard

/-- The name of the member of sets that does what an operator does. -/
def setMemberOf? : Operator → Option String
  | .either => some "union"
  | .both => some "intersection"
  | .difference => some "difference"
  | .exactlyOne => some "symmetric_difference"
  | _ => none

/-- The values of one of two that the other holds too, of which one is a view of a dictionary. The
larger one is asked. -/
def viewShared (call : Call) (v w : Value) : Run (List Value) := do
  let s ← Run.store
  let (view, other) := if s.isKeyView v then (v, w) else (w, v)
  let size (v : Value) : Run Nat := do return (← lengthOf? call v).getD 0
  if s.classOf other == .builtin "set" then
    if (← size view) ≤ (← size other) then
      return ← (s.keySource other view).shared call (s.itemsOf other)
  let (view, other) ← if s.isKeyView other then do
      pure (if (← size view) < (← size other) then (other, view) else (view, other))
    else pure (view, other)
  foldIn call other false [] fun found v => do
    let found ← if ← isAmong call v view then addKey call false found v else pure found
    return .yield found

/-- The keys that two views of entries do not share: what the second holds otherwise than the first,
and then what only the first holds. -/
def entriesApart (call : Call) (entries others : List (Value × Value)) : Run (List Value) := do
  let (found, left) ← others.foldlM (fun (found, left) (key, held) => do
    let place ← placeOfKey call true key
    match ← findKey? call Prod.fst place key left with
    | some (old, before) =>
      if ← askEqual call before held then
        return (found, left.filter fun entry => !entry.1.same old)
      else return ((key, held) :: found, left)
    | none => return ((key, held) :: found, left)) ([], entries)
  (found.reverse ++ left).foldlM (fun keys (key, held) => do
    addKey call false keys (← Run.newTuple [key, held])) []

/-- What two values come to under an operator of which one is a view of a dictionary: a set. -/
def viewOperator (call : Call) (op : Operator) (v w : Value) : Run Value := do
  if op matches .both then return ← newSet "set" (← viewShared call v w)
  let s ← Run.store
  match op, s.isOf "dict_items" v && s.isOf "dict_items" w, setMemberOf? op with
  | .exactlyOne, true, _ => do
    newSet "set" (← entriesApart call (s.entries (s.viewed v)) (s.entries (s.viewed w)))
  | _, _, some name => do
    let made ← newSet "set" []
    let source := if s.isOf "dict_keys" v then s.keySource made (s.viewed v) else s.keySource made v
    source.takenUp call made
    (((← Run.store).keySource made w).changed? call name made).getD (throw .badCall)
    return made
  | _, _, none => return .noAnswer

/-! ### Members -/

/-- What a member of a class of sets does that leaves the set as it is. -/
def fixedSetMember (call : Call) (name : String) (v : Value) (args : Fitted) : Run Value := do
  let s ← Run.store
  let keys := s.itemsOf v
  let ordered := s.setOrder keys
  let own := if s.isOf "set" v then "set" else "frozenset"
  let given := args.filterMap id
  let isSet (w : Value) : Bool := s.isOf "set" w || s.isOf "frozenset" w
  match name, given, Operator.ofMember? name with
  | "__contains__", [w], _ => do
    return .bool (← keyAmong? call false (← asKey w) keys).isSome
  | "copy", [], _ => if s.classOf v == .builtin "frozenset" then return v else newSet own ordered
  | "isdisjoint", [w], _ => do return .bool (← (s.keySource v w).isApart call keys)
  | "issubset", [w], _ => do
    if isSet w then
      return .bool (← compareSets call .atMost keys (s.itemsOf w))
    return .bool (← compareSets call .atMost keys (← keysIn call w))
  | "issuperset", [w], _ => do
    if isSet w then
      return .bool (← compareSets call .atLeast keys (s.itemsOf w))
    return .bool (← holdsAll call keys w)
  | "__sizeof__", [], _ => Run.newInt 200
  | _, [w], some (op, front) =>
    if !isSet w then return .noAnswer
    let (first, second) := if front then (v, w) else (w, v)
    let cls := if s.isOf "set" first then "set" else "frozenset"
    let name := (setMemberOf? op).getD ""
    match (s.keySource first second).combined? call name (s.itemsOf first) with
    | some keys => do newSet cls (← keys)
    | none => return .noAnswer
  | name, given, _ =>
    if ((KeySource.set []).combined? call name []).isNone
        || (name == "symmetric_difference" && given.length != 1) then
      throw .badCall
    let keys ← (given.take 1).foldlM (combine s name v) keys
    match name with
    | "difference" => do
      let made ← newSet own keys
      (given.drop 1).forM fun w => do ((← Run.store).keySource made w).takenAway call made
      return made
    | name => do newSet own (← (given.drop 1).foldlM (combine s name v) keys)
where
  /-- The keys that come of those of a set and of a value by the member of a name. -/
  combine (s : Store) (name : String) (v : Value) (keys : List Value) (w : Value) :
      Run (List Value) :=
    ((s.keySource v w).combined? call name keys).getD (throw .badCall)

/-- What a member of a class of sets does with a set. -/
def changingSetMember (call : Call) (name : String) (v : Value) (args : Fitted) : Run Value := do
  let s ← Run.store
  let keys := s.itemsOf v
  let given := args.filterMap id
  match name, given, Operator.ofChanging? name with
  | "add", [w], _ => do setKeys v (← addKey call false keys w)
  | "discard", [w], _ => do setKeys v (← dropKey call false keys (← asKey w))
  | "remove", [w], _ => do
    match ← keyAmong? call false (← asKey w) keys with
    | some key => setKeys v (withoutKey key keys)
    | none => throw .noKey
  | "pop", [], _ =>
    match s.setOrder keys with
    | key :: _ => do
      discard (setKeys v (withoutKey key keys))
      return key
    | [] => throw .noKey
  | "clear", [], _ => setKeys v []
  | _, [w], some op =>
    if !(s.isOf "set" w || s.isOf "frozenset" w) then return .noAnswer
    match (setMemberOf? op).bind fun name => (s.keySource v w).changed? call name v with
    | some change => do
      change
      return v
    | none => return .noAnswer
  | name, given, _ =>
    if !name.endsWith "update" || ((KeySource.set []).changed? call name v).isNone then
      return ← fixedSetMember call name v args
    match name, given.length == 1 with
    | "intersection_update", _ => do
      let keys ← given.foldlM (fun keys w => do
        ((← Run.store).keySource v w).shared call keys) keys
      setKeys v keys
    | "symmetric_difference_update", false => throw .badCall
    | _, _ => do
      given.forM fun w => do
        (((← Run.store).keySource v w).changed? call name v).getD (throw .badCall)
      return .none

end DocGuard
