import DocGuard.Program.Truth
/-!
Which values belong to which classes.

A value belongs to a class by its own class, or by the one that it shows. The class of a class can
answer both questions itself.
-/

namespace DocGuard

/-- The class that a value shows as its own, if what it shows is a class. -/
def shownClass? (call : Call) (v : Value) : Run (Option ClassRef) := do
  if v.isPlain then return some v.typeClass
  match ← getMember? call v "__class__" with
  | some (.cls c) => return some c
  | _ => return none

/-- The value is an instance of a class, by its own class or by the one it shows. -/
def isInstance (call : Call) (v : Value) (c : ClassRef) : Run Bool := do
  let s ← Run.store
  if s.derives (s.classOf v) c then return true
  match ← shownClass? call v with
  | some shown => return (← Run.store).derives shown c
  | none => return false

/-- The value is an instance of one of some classes, asked one after the other. -/
def isInstanceOfAny (call : Call) (v : Value) : List String → Run Bool
  | [] => return false
  | c :: rest => do
    if ← isInstance call v (.builtin c) then return true else isInstanceOfAny call v rest

/-- The classes that a value which is no class shows as those it derives from. -/
def shownBases? (call : Call) (v : Value) : Run (Option (List Value)) := do
  match ← getMember? call v "__bases__" with
  | some (.tuple _ items) => return some items
  | _ => return none

/-- A value that stands for a class derives from another one, by what both show of themselves,
looking at most `n` steps back. -/
def derivesByBases (call : Call) : (n : Nat) → Value → Value → Run Bool
  | 0, _, _ => throw .tooDeep
  | n + 1, v, w => do
    if v.same w then return true
    match ← shownBases? call v with
    | none => return false
    | some bases => bases.anyM fun base => derivesByBases call n base w

/-- How far back it is looked for bases that values show. -/
def basesLimit : Nat := 100

/-- The value belongs to what `w` stands for, in the way of all classes. -/
def belongsPlainly (call : Call) (v w : Value) : Run Bool := do
  match w with
  | .cls c => isInstance call v c
  | w =>
    if (← shownBases? call w).isNone then throw .badCall
    match ← getMember? call v "__class__" with
    | some cls => if cls.isAbsent then return false else derivesByBases call basesLimit cls w
    | none => return false

/-- What `v` stands for derives from what `w` stands for, in the way of all classes. -/
def derivesPlainly (call : Call) (v w : Value) : Run Bool := do
  match v, w with
  | .cls c, .cls d => return (← Run.store).derives c d
  | v, w =>
    if (← shownBases? call v).isNone then throw .badCall
    match w with
    | .cls _ => derivesByBases call basesLimit v w
    | w =>
      if (← shownBases? call w).isNone then throw .badCall
      derivesByBases call basesLimit v w

/-- The types that stand for a union of types, if the value is one. -/
def unionOf? (s : Store) (v : Value) : Option (List Value) :=
  match s.classOf v, s.content v with
  | ⟨"UnionType", none, .builtin⟩, .tuple _ items => some items
  | _, _ => none

/-- The value belongs to a class, or to one of the classes in a tuple or union, looking at most `n`
tuples deep. -/
def belongsTo (call : Call) (v : Value) : (n : Nat) → Value → Run Bool
  | 0, _ => throw .tooDeep
  | n + 1, w => do
    let s ← Run.store
    if w.same (.cls (s.classOf v)) then return true
    match w, unionOf? s w, s.isOf "tuple" w, s.content w with
    | _, some items, _, _ => items.anyM (belongsTo call v n)
    | _, _, true, .tuple _ items => items.anyM (belongsTo call v n)
    | w, _, _, _ =>
      if s.classOf w == .builtin "type" then return ← belongsPlainly call v w
      match s.special? w "__instancecheck__" with
      -- what a class with parameters holds cannot be told from a value
      | some (.slot _ "GenericAlias" _) => throw .badCall
      | none | some (.slot _ _ _) => belongsPlainly call v w
      | some operation => do isTrue call (← callSpecial call operation w [v])

/-- What a value stands for derives from a class, or from one of the classes in a tuple or union. -/
def derivesFrom (call : Call) (v : Value) : (n : Nat) → Value → Run Bool
  | 0, _ => throw .tooDeep
  | n + 1, w => do
    let s ← Run.store
    if s.classOf w == .builtin "type" then
      if v.same w then return true
      return ← derivesPlainly call v w
    match unionOf? s w, s.isOf "tuple" w, s.content w with
    | some items, _, _ => items.anyM (derivesFrom call v n)
    | _, true, .tuple _ items => items.anyM (derivesFrom call v n)
    | _, _, _ =>
      match s.special? w "__subclasscheck__" with
      | some (.slot _ "GenericAlias" _) => throw .badCall
      | none | some (.slot _ _ _) => derivesPlainly call v w
      | some operation => do isTrue call (← callSpecial call operation w [v])

end DocGuard
