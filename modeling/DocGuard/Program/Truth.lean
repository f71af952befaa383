import DocGuard.Number.Double
import DocGuard.Program.Access
/-!
Truth and length.

Whether a value counts as true, and how long it is, is asked of its class. A class that a program
defines can answer by operations of its own; a builtin class answers by what the values hold.
-/

namespace DocGuard

/-- The number that a floating point text writes. -/
def doubleOf (text : String) : Double :=
  (Double.ofText? text).getD .nan

/-- A floating point text writes zero. -/
def isZeroText (text : String) : Bool :=
  text == "0.0" || text == "-0.0"

/-- The value is absent, or the number zero. The parts of a complex number stand in a tuple. -/
def Value.isZero : Value → Bool
  | .none => true
  | .bool b => !b
  | .int _ n => n == 0
  | .float _ text => isZeroText text
  | .tuple _ [.float _ re, .float _ im] => isZeroText re && isZeroText im
  | _ => false

/-- How many values a range with these bounds holds. -/
def rangeLength (start stop step : Int) : Nat :=
  if 0 < step then ((stop - start + step - 1) / step).toNat
  else if step < 0 then ((start - stop - step - 1) / (-step)).toNat
  else 0

/-- The whole number that a value is, if it is one. -/
def Value.integer? : Value → Option Int
  | .int _ n => some n
  | .bool b => some b.toNat
  | _ => Option.none

/-- The bounds of a range. -/
def Value.bounds? : Value → Option (Int × Int × Int)
  | .tuple _ [a, b, c] => do return (← a.integer?, ← b.integer?, ← c.integer?)
  | _ => Option.none

/-- How many values a container of the builtin class `owner` holds, or how many characters a text
has. A view of a dictionary refers to it. -/
def Store.lengthOf (s : Store) (owner : String) (v : Value) : Nat :=
  match owner, s.content v with
  | "range", content => ((content.bounds?.map fun (a, b, c) => rangeLength a b c)).getD 0
  | "dict_keys", .tuple _ [d] | "dict_values", .tuple _ [d] | "dict_items", .tuple _ [d]
  | "mappingproxy", .tuple _ [d] =>
    match s.content d with
    | .dict _ entries => entries.length
    | _ => 0
  | "memoryview", .tuple _ [inner] => (s.codesOf inner).length
  | _, .str _ text => text.length
  | _, .list _ items | _, .tuple _ items => items.length
  | _, .dict _ entries => entries.length
  | _, _ => 0

/-- The length that a value given for it stands for: the value is an integer, or its class says
which integer it stands for. -/
def lengthGiven (call : Call) (v : Value) : Run Nat := do
  let integer? (s : Store) (v : Value) : Option Int :=
    if s.isOf "int" v then (s.content v).integer? else none
  let s ← Run.store
  let n ← match integer? s v, s.special? v "__index__" with
    | some n, _ => pure (some n)
    | none, none => pure none
    | none, some operation => do
      let given ← callSpecial call operation v []
      pure (integer? (← Run.store) given)
  match n with
  | none => throw .badCall
  | some n => if n < 0 then throw (.badValue "__len__() should return >= 0") else return n.toNat

/-- The length of a value, if it has one. -/
def lengthOf? (call : Call) (v : Value) : Run (Option Nat) := do
  let s ← Run.store
  match s.special? v "__len__" with
  | none => return none
  | some (.slot _ "mappingproxy" _) =>
    match s.content v with
    | .tuple _ [d] =>
      let length ← call (.builtin "len") [d] []
      return some (← lengthGiven call length)
    | _ => return some 0
  | some (.slot _ owner _) => return some (s.lengthOf owner v)
  | some operation =>
    let length ← callSpecial call operation v []
    return some (← lengthGiven call length)

/-- The value counts as true: its class says so, or it holds something, or it cannot tell. -/
def isTrue (call : Call) (v : Value) : Run Bool := do
  let s ← Run.store
  match s.special? v "__bool__" with
  | some (.slot _ _ _) => return !(s.content v).isZero
  | some operation =>
    match ← callSpecial call operation v [] with
    | .bool b => return b
    | _ => throw .badCall
  | none =>
    match ← lengthOf? call v with
    | some n => return n != 0
    | none => return true

end DocGuard
