import DocGuard.Program.Key
/-!
Comparing values.

How two values compare is asked of their classes: first of that of the one value, then, the other
way round, of that of the other; but first of that of the second if its class derives from that of
the first. A class that a program defines answers by operations of its own; a builtin class answers
by what the values hold, or has no answer. Numbers of different classes are equal if they are the
same number, containers compare as what they hold, and methods are equal if they have the same
function and receiver; any other value is equal to itself only, and comes neither before nor after
another.
-/

namespace DocGuard

/-- How two values can compare. -/
inductive Relation where
  | less
  | atMost
  | equal
  | unequal
  | greater
  | atLeast
deriving DecidableEq, Repr

namespace Relation

/-- The sign for a relation. -/
def sign : Relation → String
  | less => "<"
  | atMost => "<="
  | equal => "="
  | unequal => "!="
  | greater => ">"
  | atLeast => ">="

/-- The member of a class that answers whether its instances are so related to other values. -/
def member : Relation → String
  | less => "__lt__"
  | atMost => "__le__"
  | equal => "__eq__"
  | unequal => "__ne__"
  | greater => "__gt__"
  | atLeast => "__ge__"

/-- All relations. -/
def all : List Relation :=
  [less, atMost, equal, unequal, greater, atLeast]

/-- The relation of a sign. -/
def ofSign? (text : String) : Option Relation :=
  all.find? fun r => r.sign == text

/-- The relation that a member answers for. -/
def ofMember? (name : String) : Option Relation :=
  all.find? fun r => r.member == name

/-- The relation seen from the other side. -/
def converse : Relation → Relation
  | less => greater
  | atMost => atLeast
  | equal => equal
  | unequal => unequal
  | greater => less
  | atLeast => atMost

/-- The relation holds between two things of which this is known: whether the first is less, whether
the two are equal, and whether the second is less. -/
def holds (r : Relation) (below same above : Bool) : Bool :=
  match r with
  | less => below
  | atMost => below || same
  | equal => same
  | unequal => !same
  | greater => above
  | atLeast => above || same

/-- The relation holds between two natural numbers. -/
def holdsOf (r : Relation) (m n : Nat) : Bool :=
  r.holds (m < n) (m == n) (n < m)

/-- The relation holds between two texts, going by the first characters in which they differ. -/
def holdsOfTexts (r : Relation) (a b : String) : Bool :=
  r.holds (a < b) (a == b) (b < a)

/-- The relation asks for equality only. -/
def isEquality (r : Relation) : Bool :=
  r == equal || r == unequal

end Relation

/-! ### Numbers -/

/-- A number, as far as equality sees it: an integer or a pair of floating point numbers. -/
inductive Number where
  | integer (n : Int)
  | complex (re im : Double)

namespace Number

/-- The number that a value is. -/
def ofValue? : Value → Option Number
  | .bool b => some (.integer b.toNat)
  | .int _ n => some (.integer n)
  | .float _ text => some (.complex (doubleOf text) (.finite false 0 0))
  | .tuple _ [.float _ re, .float _ im] => some (.complex (doubleOf re) (doubleOf im))
  | _ => none

/-- The first number is less than the second, if they can be ordered: numbers with an imaginary part
cannot. -/
def less? : Number → Number → Option Bool
  | integer m, integer n => some (m < n)
  | integer m, complex re im => if im.isZero then some (re.aboveInt m) else none
  | complex re im, integer n => if im.isZero then some (re.belowInt n) else none
  | complex re im, complex re' im' =>
    if im.isZero && im'.isZero then some (re.less re') else none

/-- The two are the same number. -/
def equal : Number → Number → Bool
  | integer m, integer n => m == n
  | integer m, complex re im => re.toInt? == some m && im.isZero
  | complex re im, integer n => re.toInt? == some n && im.isZero
  | complex re im, complex re' im' => re.equal re' && im.equal im'

/-- The numbers are related. A number that is none is related to nothing. -/
def related (r : Relation) (m n : Number) : Bool :=
  r.holds ((m.less? n).getD false) (m.equal n) ((n.less? m).getD false)

end Number

/-! ### Containers -/

/-- The values are equal one by one. -/
def allEqual (call : Call) : List Value → List Value → Run Bool
  | v :: vs, w :: ws => do
    if ← askEqual call v w then allEqual call vs ws else return false
  | [], [] => return true
  | _, _ => return false

/-- The first values at the same place that differ, if both lists have one there. -/
def firstDifferent? (call : Call) : List Value → List Value → Run (Option (Value × Value))
  | v :: vs, w :: ws => do
    if ← askEqual call v w then firstDifferent? call vs ws else return some (v, w)
  | _, _ => return none

/-- How two sequences compare: as the first values that differ, else as their lengths. -/
def compareItems (call : Call) (r : Relation) (vs ws : List Value) : Run Value := do
  match ← firstDifferent? call vs ws with
  | none => return .bool (r.holdsOf vs.length ws.length)
  | some (v, w) =>
    match r with
    | .equal => return .bool false
    | .unequal => return .bool true
    | r => call (.builtin r.sign) [v, w] []

/-- Every value of the first list is among the keys of the second. -/
def allAmong (call : Call) : List Value → List Value → Run Bool
  | [], _ => return true
  | v :: vs, ws => do
    if (← keyAmong? call true v ws).isSome then allAmong call vs ws else return false

/-- How two sets compare: as one is a part of the other. The places of their keys are known. -/
def compareSets (call : Call) (r : Relation) (vs ws : List Value) : Run Bool := do
  let within (asked : Bool) (vs ws : List Value) : Run Bool :=
    if asked then do allAmong call ((← Run.store).setOrder vs) ws else return false
  match r with
  | .equal => within (vs.length = ws.length) vs ws
  | .unequal => return !(← within (vs.length = ws.length) vs ws)
  | .less => within (vs.length < ws.length) vs ws
  | .atMost => within (vs.length ≤ ws.length) vs ws
  | .greater => within (ws.length < vs.length) ws vs
  | .atLeast => within (ws.length ≤ vs.length) ws vs

/-- Every entry of the first dictionary is in the second. -/
def allEntriesIn (call : Call) (others : List (Value × Value)) :
    List (Value × Value) → Run Bool
  | [] => return true
  | (key, v) :: rest => do
    match ← heldUnderKnown? call key others with
    | none => return false
    | some w => if ← askEqual call v w then allEntriesIn call others rest else return false

/-- The value is a view of a dictionary that is a set. -/
def Store.isKeyView (s : Store) (v : Value) : Bool :=
  s.isOf "dict_keys" v || s.isOf "dict_items" v

/-- The values that a set, or a view of a dictionary that is one, holds. -/
def setItems? (s : Store) (v : Value) : Run (Option (List Value)) := do
  let entries (d : Value) : List (Value × Value) :=
    match s.content d with
    | .dict _ entries => entries
    | _ => []
  match s.content v with
  | .tuple _ [d] =>
    if s.isOf "dict_keys" v then return some ((entries d).map Prod.fst)
    if s.isOf "dict_items" v then
      return some (← (entries d).mapM fun (key, held) => Run.newTuple [key, held])
    return if s.isOf "set" v || s.isOf "frozenset" v then some [d] else none
  | .tuple _ items => return if s.isOf "set" v || s.isOf "frozenset" v then some items else none
  | _ => return none

/-! ### All values -/

/-- Each of some values is in a container, which is asked for it. -/
def allHeldBy (call : Call) (container : Value) : List Value → Run Bool
  | [] => return true
  | v :: rest => do
    match (← Run.store).special? container "__contains__" with
    | none => return false
    | some operation =>
      if ← isTrue call (← callSpecial call operation container [v]) then
        allHeldBy call container rest
      else return false

/-- How two values that hold keys compare of which one is a view of a dictionary: each is asked for
its length, and then one of them for what the other holds. -/
def compareViews (call : Call) (r : Relation) (v w : Value) (vs ws : List Value) :
    Run Bool := do
  let size (v : Value) : Run Nat := do return (← lengthOf? call v).getD 0
  let (m, n) := (← size v, ← size w)
  let within (asked : Bool) (container : Value) (items : List Value) : Run Bool :=
    if asked then allHeldBy call container items else return false
  match r with
  | .equal => within (m = n) w vs
  | .unequal => return !(← within (m = n) w vs)
  | .less => within (m < n) w vs
  | .atMost => within (m ≤ n) w vs
  | .greater => within (n < m) v ws
  | .atLeast => within (n ≤ m) v ws

/-- How two values compare, as the builtin class `owner` answers for the first, if it does. -/
def plainAnswer? (call : Call) (r : Relation) (owner : String) (v w : Value) :
    Run (Option Value) := do
  let s ← Run.store
  let isAny (classes : List String) : Bool := classes.any fun cls => s.isOf cls w
  let told (b : Bool) : Run (Option Value) := return some (.bool b)
  -- what is equal only to itself or to what is like it
  let alike (same : Bool) : Run (Option Value) :=
    if r.isEquality then told (r.holds false same false) else return none
  let numbers (classes : List String) : Run (Option Value) :=
    match isAny classes, Number.ofValue? (s.content v), Number.ofValue? (s.content w) with
    | true, some m, some n => told (m.related r n)
    | _, _, _ => return none
  match owner, s.content v, s.content w with
  | "object", _, _ =>
    match r with
    | .equal => return if v.same w then some (.bool true) else none
    | .unequal =>
      match s.special? v "__eq__" with
      | some (.slot _ "object" _) => return if v.same w then some (.bool false) else none
      | some operation =>
        let answer ← callSpecial call operation v [w]
        if answer.isNoAnswer then return none
        told !(← isTrue call answer)
      | none => return none
    | _ => return none
  | "int", _, _ => numbers ["int"]
  | "float", _, _ => numbers ["int", "float"]
  | "complex", _, _ => if r.isEquality then numbers ["int", "float", "complex"] else return none
  | "str", .str _ a, .str _ b => if s.isText w then told (r.holdsOfTexts a b) else return none
  | "bytes", .str _ a, .str _ b =>
    if isAny ["bytes"] then told (r.holdsOfTexts a b) else return none
  | "bytearray", .str _ a, _ =>
    match s.bytesHeld? w with
    | some b => told (r.holdsOfTexts a b)
    | none => return none
  | "list", .list _ vs, .list _ ws =>
    if r.isEquality && vs.length != ws.length then told (r == .unequal)
    else return some (← compareItems call r vs ws)
  | "tuple", .tuple _ vs, .tuple _ ws =>
    if s.isOf "tuple" w then return some (← compareItems call r vs ws) else return none
  | "slice", .tuple _ vs, .tuple _ ws =>
    if s.isOf "slice" w then return some (← compareItems call r vs ws) else return none
  | "range", content, other =>
    match s.isOf "range" w, content.bounds?, other.bounds? with
    | true, some (a, b, c), some (d, e, f) =>
      let m := rangeLength a b c
      alike (m == rangeLength d e f && (m == 0 || (a == d && (m == 1 || c == f))))
    | _, _, _ => return none
  | "set", .tuple _ vs, .tuple _ ws | "frozenset", .tuple _ vs, .tuple _ ws =>
    if isAny ["set", "frozenset"] then return some (.bool (← compareSets call r vs ws))
    else return none
  | "dict_keys", _, _ | "dict_items", _, _ =>
    match ← setItems? s v, ← setItems? s w with
    | some vs, some ws => do
      let ws := if s.isKeyView w then ws else s.setOrder ws
      told (← compareViews call r v w vs ws)
    | _, _ => return none
  | "memoryview", _, _ =>
    match s.bytesHeld? v, s.bytesHeld? w with
    | some a, some b => alike (a == b)
    | _, _ => return none
  | "GenericAlias", .tuple _ vs, .tuple _ ws =>
    if r.isEquality && s.isOf "GenericAlias" w then alike (← allEqual call vs ws) else return none
  | "UnionType", .tuple _ vs, .tuple _ ws =>
    if r.isEquality && s.isOf "UnionType" w then alike (← compareSets call .equal vs ws)
    else return none
  | "mappingproxy", .tuple _ [d], _ => return some (← call (.builtin r.sign) [d, w] [])
  | "dict", .dict _ entries, .dict _ others =>
    if !r.isEquality || !s.isOf "dict" w then return none
    let same ← if entries.length = others.length then allEntriesIn call others entries
      else pure false
    alike same
  | "method", .method _ receiver f, .method _ other g =>
    if r.isEquality then alike ((← askEqual call f g) && receiver.same other) else return none
  | "cell", .cell id, .cell other =>
    match s.cell? id, s.cell? other with
    | some v, some w => return some (← call (.builtin r.sign) [v, w] [])
    | v, w => told (r.holdsOf (if w.isNone then 1 else 0) (if v.isNone then 1 else 0))
  | "code", .code place, .code other => alike (place == other)
  | "method-wrapper", .boundSlot _ _ receiver cls name, .boundSlot _ _ other cls' name'
  | "builtin_function_or_method", .boundSlot _ _ receiver cls name,
      .boundSlot _ _ other cls' name' =>
    alike (receiver.same other && cls == cls' && name == name')
  | _, .object _ c, .object _ d =>
    if r.isEquality && c == d && c.origin == .builtin && equalByClass.contains c.name then
      alike true
    else if owner == "object" then alike (v.same w)
    else return none
  | _, _, _ => return none

/-- How two values compare, as the class of the first answers: with any value, or with none. -/
def answer? (call : Call) (r : Relation) (v w : Value) : Run (Option Value) := do
  match (← Run.store).special? v r.member with
  | some (.slot _ owner _) => plainAnswer? call r owner v w
  | some operation =>
    let answer ← callSpecial call operation v [w]
    return if answer.isNoAnswer then none else some answer
  | none => return none

/-- How two values compare, as their classes answer. What is not answered is told by identity, if it
asks for equality, and cannot be told else. -/
def compare (call : Call) (r : Relation) (v w : Value) : Run Value := do
  let s ← Run.store
  let c := s.classOf v
  let d := s.classOf w
  let forth := answer? call r v w
  let back := answer? call r.converse w v
  let (first, second) := if c != d && s.derives d c then (back, forth) else (forth, back)
  match ← first with
  | some answer => return answer
  | none =>
    match ← second with
    | some answer => return answer
    | none =>
      match r with
      | .equal => return .bool (v.same w)
      | .unequal => return .bool !(v.same w)
      | _ => throw .badCall

/-- The two are equal: one object, or equal by the answer of their classes. -/
def isEqual (call : Call) (v w : Value) : Run Bool := do
  if v.same w then return true else isTrue call (← compare call .equal v w)

/-- The first value is related to the second, as a truth value. -/
def asksRelated (call : Call) (r : Relation) (v w : Value) : Run Bool := do
  isTrue call (← call (.builtin r.sign) [v, w] [])

/-- A value among some that is equal to `v`. -/
def hasEqual (call : Call) (v : Value) : List Value → Run Bool
  | [] => return false
  | w :: ws => do if ← askEqual call w v then return true else hasEqual call v ws

end DocGuard
