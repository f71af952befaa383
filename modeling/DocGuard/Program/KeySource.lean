import DocGuard.Program.Iteration
/-!
Where the keys come from that a set takes up.

A set is changed by the keys of a source, one after the other, so that what was changed before a
fault stays. The keys of a set or dictionary know their places and are not asked again; what a value
goes through is asked. Of two sets it is the smaller one, in most cases, whose keys are looked for
in the other.
-/

namespace DocGuard

/-- A new set, or a new one that cannot change. -/
def newSet (cls : String) (keys : List Value) : Run Value :=
  newKeeping cls keys

/-- The value as a key of a set. A set is looked for as one that cannot change. -/
def asKey (v : Value) : Run Value := do
  let s ← Run.store
  match s.isOf "set" v, s.special? v "__hash__", s.content v with
  | true, some .none, .tuple _ keys | true, none, .tuple _ keys => newSet "frozenset" keys
  | _, _, _ => return v

/-- Changes the keys of a set. -/
def setKeys (v : Value) (keys : List Value) : Run Value := do
  setContent v (.tuple 0 keys)
  return .none

/-! ### What a set takes up -/

/-- The dictionary that a view refers to. -/
def Store.viewed (s : Store) (view : Value) : Value :=
  match s.content view with
  | .tuple _ (d :: _) => d
  | _ => .none

/-- Where keys come from that a set takes up. -/
inductive KeySource where
  /-- The set itself. -/
  | itself
  /-- A set, in the order in which its keys came. -/
  | set (keys : List Value)
  /-- The keys of a dictionary. -/
  | dict (keys : List Value)
  /-- What a value goes through. -/
  | values (v : Value)

/-- The value as a source of keys for a set, which may be the value itself. -/
def Store.keySource (s : Store) (target v : Value) : KeySource :=
  if v.same target then .itself
  else if s.isOf "set" v || s.isOf "frozenset" v then .set (s.itemsOf v)
  else if s.classOf v == .builtin "dict" then .dict ((s.entries v).map Prod.fst)
  else .values v

/-- Changes a set by each key of a source in turn. What was changed before a fault stays. `f` is
told whether the places of the keys are known. -/
def KeySource.change (call : Call) (target : Value)
    (f : Bool → List Value → Value → Run (List Value)) :
    KeySource → Run Unit
  | .itself => do
    let s ← Run.store
    (s.setOrder (s.itemsOf target)).forM (step true)
  | .set keys => do ((← Run.store).setOrder keys).forM (step true)
  | .dict keys => keys.forM (step true)
  | .values v => forEachIn call v (step false)
where
  /-- Changes the set by one key. -/
  step (known : Bool) (v : Value) : Run Unit := do
    let before := (← Run.store).itemsOf target
    discard (setKeys target (← f known before v))

/-- The keys without one, if it is among them. -/
def dropKey (call : Call) (known : Bool) (keys : List Value) (v : Value) : Run (List Value) := do
  match ← keyAmong? call known v keys with
  | some key => return withoutKey key keys
  | none => return keys

/-- The keys without one, if it is among them, or else with it, after it was looked for again. -/
def toggleKey (call : Call) (known : Bool) (keys : List Value) (v : Value) : Run (List Value) := do
  match ← keyAmong? call known v keys with
  | some key => return withoutKey key keys
  | none => addKey call true keys v

/-- The keys of a set as they come into another one that is empty: few keys keep the places that
they have, more of them come in the order in which the set goes through them. -/
def Store.copiedKeys (s : Store) (keys : List Value) : List Value :=
  if keys.length < 5 then keys else s.setOrder keys

/-- Adds the keys of a source to a set. -/
def KeySource.takenUp (call : Call) (target : Value) (source : KeySource) : Run Unit := do
  match source, (← Run.store).itemsOf target with
  | .itself, _ => return ()
  | .set keys, [] => do discard (setKeys target ((← Run.store).copiedKeys keys))
  | source, _ => source.change call target (addKey call)

/-- Adds the keys of a value to a set. -/
def takeUp (call : Call) (target v : Value) : Run Unit := do
  ((← Run.store).keySource target v).takenUp call target

/-- The keys that a new set gets from a value. -/
def keysIn (call : Call) (v : Value) : Run (List Value) := do
  let made ← newSet "set" []
  takeUp call made v
  return (← Run.store).itemsOf made

/-- Of the keys of two sets, those to look among, and those to look for: the fewer ones, or else the
second, in the order in which the set goes through them. -/
def lookedThrough (keys others : List Value) : Run (List Value × List Value) := do
  let (table, gone) := if keys.length < others.length then (others, keys) else (keys, others)
  return (table, (← Run.store).setOrder gone)

/-- The keys that are among those of a set and of a source. -/
def KeySource.shared (call : Call) (keys : List Value) : KeySource → Run (List Value)
  | .itself => return keys
  | .set others => do
    let (table, gone) ← lookedThrough keys others
    gone.foldlM (taken true table) []
  | .dict others => foldItems step others []
  | .values v => foldIn call v false [] step
where
  /-- Looks for one more key, unless all were found. -/
  step (found : List Value) (v : Value) : Run (ForInStep (List Value)) := do
    let more ← taken false keys found v
    let full := found.length < more.length && keys.length ≤ more.length
    return if full then .done more else .yield more
  /-- The keys found after one more was looked for. -/
  taken (known : Bool) (table found : List Value) (v : Value) : Run (List Value) := do
    match ← keyAmong? call known v table with
    | some _ => addKey call true found v
    | none => return found

/-- Takes the keys of a source away from a set. -/
def KeySource.takenAway (call : Call) (target : Value) (source : KeySource) : Run Unit := do
  match source, (← Run.store).itemsOf target with
  | .itself, _ => discard (setKeys target [])
  | .set others, (keys : List Value) => do
    let others ← if keys.length < others.length / 8 then KeySource.shared call keys (.set others)
      else pure others
    (KeySource.set others).change call target (dropKey call)
  | source, _ => source.change call target fun _ => dropKey call false

/-- The keys of a set that are not among those of a source. -/
def KeySource.without (call : Call) (keys : List Value) (source : KeySource) :
    Run (List Value) := do
  let kept (others : List Value) : Run (List Value) := do
    ((← Run.store).setOrder keys).foldlM (fun left v => do
      match ← keyAmong? call true v others with
      | some _ => return left
      | none => addKey call true left v) []
  let copied : Run (List Value) := do
    let made ← newSet "set" keys
    source.takenAway call made
    return (← Run.store).itemsOf made
  match source with
  | .itself => kept keys
  | .set others | .dict others =>
    if others.length < keys.length / 4 then copied else kept others
  | .values _ => copied

/-- Takes each key of a source away from a set, or adds it if it was not there. -/
def KeySource.toggled (call : Call) (target : Value) (source : KeySource) : Run Unit := do
  match source with
  | .itself => discard (setKeys target [])
  | .values v => do (KeySource.set (← keysIn call v)).change call target (toggleKey call)
  | source => source.change call target (toggleKey call)

/-- The keys that are among those of a set or of a source, but not both. -/
def KeySource.apart (call : Call) (keys : List Value) (source : KeySource) :
    Run (List Value) := do
  let made ← newSet "set" []
  match source with
  | .itself => (KeySource.set keys).takenUp call made
  | source => source.takenUp call made
  (KeySource.set keys).toggled call made
  return (← Run.store).itemsOf made

/-- Every key of a source is missing in a set. -/
def KeySource.isApart (call : Call) (keys : List Value) : KeySource → Run Bool
  | .itself => return keys.isEmpty
  | .set others => do
    let (table, gone) ← lookedThrough keys others
    foldItems (step true table) gone true
  | .dict others => foldItems (step false keys) others true
  | .values v => foldIn call v false true (step false keys)
where
  /-- Stops at a key that is there. -/
  step (known : Bool) (table : List Value) (_ : Bool) (v : Value) : Run (ForInStep Bool) := do
    if (← keyAmong? call known v table).isSome then return .done false else return .yield true

/-- Every key of a value is in a set. -/
def holdsAll (call : Call) (keys : List Value) (v : Value) : Run Bool :=
  foldIn call v false true fun _ w => do
    if (← keyAmong? call false w keys).isSome then return .yield true else return .done false

/-! ### Ways from two sets to a third -/

/-- The keys that come of those of a set and of a source by the member of a name. -/
def KeySource.combined? (call : Call) (name : String) (keys : List Value) (source : KeySource) :
    Option (Run (List Value)) :=
  match name with
  | "union" => some do
    let made ← newSet "set" keys
    source.takenUp call made
    return (← Run.store).itemsOf made
  | "intersection" => some (source.shared call keys)
  | "difference" => some (source.without call keys)
  | "symmetric_difference" => some (source.apart call keys)
  | _ => none

/-- Changes a set by a source in the way of the member of a name. -/
def KeySource.changed? (call : Call) (name : String) (target : Value) (source : KeySource) :
    Option (Run Unit) :=
  match name with
  | "update" | "union" => some (source.takenUp call target)
  | "difference_update" | "difference" => some (source.takenAway call target)
  | "intersection_update" | "intersection" => some do
    discard (setKeys target (← source.shared call ((← Run.store).itemsOf target)))
  | "symmetric_difference_update" | "symmetric_difference" => some (source.toggled call target)
  | _ => none

end DocGuard
