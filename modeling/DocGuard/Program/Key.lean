import DocGuard.Number.Arithmetic
import DocGuard.Number.Mixed
import DocGuard.Program.Places
import DocGuard.Program.Truth
/-!
Keys.

A dictionary or set sorts what it holds into places, and asks only those for equality that stand at
the place of a key. `KeyPlace` says where a value stands: numbers by what they count, texts by what
they say, containers by what they hold, an object of a program by the number that it gives, and any
other value by itself. A value that gives no place cannot be a key.
-/

namespace DocGuard

/-- Where a value stands among the keys. -/
inductive KeyPlace where
  | number (n : Int)
  | text (s : String)
  | items (places : List KeyPlace)
  | itself (v : Value)

mutual

/-- Two values stand at one place. -/
def KeyPlace.same : KeyPlace → KeyPlace → Bool
  | .number m, .number n => m == n
  | .text s, .text t => s == t
  | .items ps, .items qs => KeyPlace.allSame ps qs
  | .itself v, .itself w => Value.same v w
  | _, _ => false

/-- Some places are the same one by one. -/
def KeyPlace.allSame : List KeyPlace → List KeyPlace → Bool
  | [], [] => true
  | p :: ps, q :: qs => p.same q && KeyPlace.allSame ps qs
  | _, _ => false

end

/-- A number for a text that other texts hardly share. -/
def placeOfText (text : String) : Nat :=
  text.foldl (fun number c => (number * 1000003 + c.toNat) % Double.placeModulus) text.length

/-- A number for an object that other objects hardly share. An object of which there is only one has
a number by what it says. -/
def Value.serial : Value → Nat
  | .int mark n => if Value.isSmall n then 8 * (n + 5).toNat + 5 else 8 * mark
  | .str mark text => if Value.isShort text then 8 * placeOfText text + 6 else 8 * mark
  | .tuple mark items => if items.isEmpty then 5 else 8 * mark
  | .object mark c => if Value.isOnlyInstance c then 8 * placeOfText c.name + 4 else 8 * mark
  | .float mark _ | .list mark _ | .dict mark _ | .proxy mark _ _ | .method mark _ _
  | .staticMethod mark _ | .classMethod mark _ | .property mark _ _ _ | .parent mark _ _ _
  | .boundSlot mark _ _ _ _ => 8 * mark
  | .cls c =>
    match c.origin with
    | .builtin => 8 * placeOfText c.name + 2
    | .written mark _ => 8 * mark + 2
    | .defined index => 8 * index + 3
  | .function id => 8 * id + 1
  | .code place => 8 * place + 7
  | .cell id => 8 * id + 4
  | .attributes owner => owner.serial + 6
  | .slot _ owner name => 8 * placeOfText (owner ++ "." ++ name) + 4
  | .storage c name => 8 * placeOfText (c.name ++ "." ++ name) + 6
  | .builtin name | .library name => 8 * placeOfText name + 4
  | .bool b => if b then 1 else 2
  | .none => 3
  | .module => 4

mutual

/-- The number that a place is written as. -/
def KeyPlace.shown : KeyPlace → Int
  | .number n => n
  | .text s => placeOfText s
  | .items ps => Mixed.inOrder (KeyPlace.allShown ps)
  | .itself v => 16 * v.serial

/-- The numbers that some places are written as. -/
def KeyPlace.allShown : List KeyPlace → List Int
  | [] => []
  | p :: ps => p.shown :: KeyPlace.allShown ps

end

/-- The number by which an integer is sorted into places. -/
def placeNumber (n : Int) : Int :=
  let h := n.sign * (n.natAbs % Double.placeModulus : Nat)
  if h = -1 then -2 else h

/-- The number by which a pair of floating point numbers is sorted into places. -/
def complexPlace (re im : Double) : Int :=
  let turned := (re.keyPlace + 1000003 * im.keyPlace + Int.pow 2 63) % Int.pow 2 64 - Int.pow 2 63
  if turned = -1 then -2 else turned

/-- The place of a container that holds what stands at these places: a number, if these are numbers.
-/
def KeyPlace.ofItems (places : List KeyPlace) : KeyPlace :=
  let numbers := places.mapM fun place => match place with
    | .number n => some n
    | _ => none
  match numbers with
  | some numbers => .number (Mixed.inOrder numbers)
  | none => .items places

/-- The place of a range, which stands for the numbers in it. -/
def KeyPlace.ofRange (length : Nat) (start step : Int) : KeyPlace :=
  let number (n : Int) : KeyPlace := .number (placeNumber n)
  match length with
  | 0 => .items [number 0, .itself .none, .itself .none]
  | 1 => .items [number 1, number start, .itself .none]
  | length => .ofItems [number length, number start, number step]

/-- The builtin classes of which the values written out are equal whenever their classes are. -/
def equalByClass : List String :=
  ["Decimal", "Fraction", "date", "SimpleNamespace"]

namespace Store

/-- The place that a value has in the way of the builtin class `owner`, for itself or for what it
holds; `inner` is the place of a value that it holds. -/
def placeAs (s : Store) (inner : Value → KeyPlace) (owner : String) (v : Value) : KeyPlace :=
  match owner, s.content v with
  | "object", _ => .itself v
  | _, .int _ k => .number (placeNumber k)
  | _, .bool b => .number b.toNat
  | _, .float _ text => .number (doubleOf text).keyPlace
  | _, .str _ text => if text.isEmpty then .number 0 else .text text
  | "complex", .tuple _ [.float _ re, .float _ im] =>
    .number (complexPlace (doubleOf re) (doubleOf im))
  | "frozenset", .tuple _ items =>
    .number (Mixed.inAnyOrder (items.map fun item => (inner item).shown))
  | "range", content =>
    match content.bounds? with
    | some (a, b, c) => .ofRange (rangeLength a b c) a c
    | none => .itself v
  | "GenericAlias", .tuple _ items => .ofItems ((items.take 2).map inner)
  | _, .tuple _ items => .ofItems (items.map inner)
  | _, .method _ receiver func => .items [.itself receiver, inner func]
  | _, .boundSlot _ _ receiver owner name => .items [.itself receiver, .text owner, .text name]
  | _, .object _ c =>
    if equalByClass.contains c.name && c.origin == .builtin then .text c.name else .itself v
  | _, _ => .itself v

/-- The place of a value, without asking anyone; `n` bounds how deep containers are looked into. An
object of a program stands where it stood last. -/
def placeWithin (s : Store) : (n : Nat) → Value → KeyPlace
  | 0, v => .itself v
  | n + 1, v =>
    match s.special? v "__hash__" with
    | some (.slot _ owner _) => s.placeAs (s.placeWithin n) owner v
    | _ =>
      match v.contentMark?.bind fun mark => s.places.lookup mark with
      | some k => .number k
      | none => .itself v

/-- How deep keys are looked into. -/
def placeDepth : Nat := 100

/-- The place of a value, without asking anyone. -/
def placeOf (s : Store) (v : Value) : KeyPlace :=
  s.placeWithin placeDepth v

end Store

/-- The values of a set in the order in which it goes through them: by their numbers, if all of them
have one that is known. -/
def Store.setOrder (s : Store) (items : List Value) : List Value :=
  let numbered := items.mapM fun item => match s.placeOf item with
    | .number n => some ((n % (Int.pow 2 64)).toNat, item)
    | _ => none
  match numbered with
  | some numbered => Places.order numbered
  | none => items

/-- Asks what a value holds for its place, where the builtin class `owner` needs it. -/
def askHeldPlaces (ask : Value → Run Unit) (owner : String) (v : Value) : Run Unit := do
  match owner, (← Run.store).content v with
  | "tuple", .tuple _ items | "GenericAlias", .tuple _ items => items.forM ask
  | "mappingproxy", _ => throw .badCall
  | "method", .method _ _ func => ask func
  | _, _ => return ()

/-- Asks a value for its place, and refuses it if it has none; `n` bounds how deep tuples are looked
into. -/
def askPlaceWithin (call : Call) : (n : Nat) → Value → Run Unit
  | 0, _ => throw .tooDeep
  | n + 1, v => do
    match (← Run.store).special? v "__hash__" with
    | none | some .none => throw .badCall
    | some (.slot _ owner _) => askHeldPlaces (askPlaceWithin call n) owner v
    | some operation =>
      let given ← callSpecial call operation v []
      let s ← Run.store
      match s.isOf "int" given, (s.content given).integer?, v.contentMark? with
      | true, some k, some mark =>
        Run.change fun s =>
          { s with places := (mark, placeNumber k) :: s.places.filter (·.1 != mark) }
      | true, _, _ => return ()
      | false, _, _ => throw .badCall

/-- Asks a value for its place among the keys. A value that has none is refused. -/
def askPlace (call : Call) (v : Value) : Run KeyPlace := do
  askPlaceWithin call Store.placeDepth v
  return (← Run.store).placeOf v

/-- The number that a value is sorted by in the way of the builtin class `owner`. -/
def plainPlace (call : Call) (owner : String) (v : Value) : Run Int := do
  askHeldPlaces (askPlaceWithin call Store.placeDepth) owner v
  let s ← Run.store
  return (s.placeAs s.placeOf owner v).shown

/-- Refuses values that cannot be keys. -/
def requireKey (call : Call) (v : Value) : Run Unit :=
  discard (askPlace call v)

/-- A value that is asked for a truth value about two values. -/
def askEqual (call : Call) (v w : Value) : Run Bool := do
  match ← call (.builtin "==") [v, w] [] with
  | .bool b => return b
  | _ => return false

/-- The key at `place` that a value is equal to is this one. -/
def isKey (call : Call) (place : KeyPlace) (key other : Value) : Run Bool := do
  if other.same key then return true
  if !((← Run.store).placeOf other).same place then return false
  match other, key with
  | .str _ a, .str _ b => return a == b
  | _, _ => askEqual call other key

/-- The first of some things whose key is equal to a key. -/
def findKey? {α : Type} (call : Call) (keyOf : α → Value) (place : KeyPlace) (key : Value) :
    List α → Run (Option α)
  | [] => return none
  | a :: rest => do
    if ← isKey call place key (keyOf a) then return some a
    findKey? call keyOf place key rest

/-- The place of a key: where it stood last, if it comes out of a set or dictionary and so is
`known`, or else where it says. -/
def placeOfKey (call : Call) (known : Bool) (key : Value) : Run KeyPlace := do
  if known then return (← Run.store).placeOf key else askPlace call key

/-- The entry of a key, if there is one. -/
def entryOf? (call : Call) (key : Value) (entries : List (Value × Value)) :
    Run (Option (Value × Value)) := do
  findKey? call Prod.fst (← askPlace call key) key entries

/-- What some entries hold under a key. -/
def heldUnder? (call : Call) (key : Value) (entries : List (Value × Value)) :
    Run (Option Value) := do
  return (← entryOf? call key entries).map Prod.snd

/-- What some entries hold under a key that comes out of a dictionary. -/
def heldUnderKnown? (call : Call) (key : Value) (entries : List (Value × Value)) :
    Run (Option Value) := do
  return (← findKey? call Prod.fst (← placeOfKey call true key) key entries).map Prod.snd

/-- A value among some keys that is equal to `v`, of which the place is `known` or not. -/
def keyAmong? (call : Call) (known : Bool) (v : Value) (keys : List Value) :
    Run (Option Value) := do
  findKey? call id (← placeOfKey call known v) v keys

/-- The entries after an entry was put under a key: in the place of the key that was there before,
or at the end. -/
def putEntry (call : Call) (entries : List (Value × Value)) (key held : Value) :
    Run (List (Value × Value)) := do
  match ← entryOf? call key entries with
  | none => return entries ++ [(key, held)]
  | some (old, _) =>
    return entries.map fun entry => if entry.1.same old then (entry.1, held) else entry

/-- The entries after others were put in, one by one. -/
def putEntries (call : Call) (entries : List (Value × Value)) :
    List (Value × Value) → Run (List (Value × Value))
  | [] => return entries
  | (key, held) :: rest => do putEntries call (← putEntry call entries key held) rest

/-- The keys after one more was added, unless it is among them. -/
def addKey (call : Call) (known : Bool) (keys : List Value) (v : Value) : Run (List Value) := do
  match ← keyAmong? call known v keys with
  | some _ => return keys
  | none => return keys ++ [v]

/-- The keys without one of them. -/
def withoutKey (key : Value) (keys : List Value) : List Value :=
  keys.filter fun other => !other.same key

/-- Keywords as entries. -/
def keywordEntries (keywords : Bindings Value) : List (Value × Value) :=
  Store.entriesNamed keywords

end DocGuard
