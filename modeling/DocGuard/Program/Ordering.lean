import DocGuard.Program.Comparison
import DocGuard.Program.Conversion
/-!
Putting values in order.

Values are put in order by asking them, two at a time, whether the one is less than the other. First
the run is found that is in order already, or backwards; then each value behind it is put into its
place, which is looked for by halving. Values of which neither is less stay as they were.
-/

namespace DocGuard

/-- A value with the one that it is ordered by. -/
abbrev Keyed := Value × Value

/-- Whether the key of the first is less than that of the second. -/
def Keyed.isLess (call : Call) (a b : Keyed) : Run Bool :=
  asksRelated call .less a.1 b.1

/-- The values that go on a run: each is less than the one before if `falling` holds, and else none
is. What follows the run comes second. -/
def runFrom (call : Call) (falling : Bool) (last : Keyed) :
    List Keyed → Run (List Keyed × List Keyed)
  | [] => return ([], [])
  | a :: rest => do
    if (← a.isLess call last) == falling then
      let (run, others) ← runFrom call falling a rest
      return (a :: run, others)
    else return ([], a :: rest)

/-- The place of a value among others that are in order, between `low` and `high`, behind those that
are not greater. The space is halved at most `n` times. -/
def placeFor (call : Call) (a : Keyed) (sorted : Array Keyed) :
    (n : Nat) → (low high : Nat) → Run Nat
  | 0, low, _ => return low
  | n + 1, low, high => do
    if high ≤ low then return low
    let middle := low + (high - low) / 2
    let less ← match sorted[middle]? with
      | some b => a.isLess call b
      | none => pure true
    if less then placeFor call a sorted n low middle else placeFor call a sorted n (middle + 1) high

/-- Puts values one by one into their places among others that are in order. -/
def insertAll (call : Call) (sorted : Array Keyed) : List Keyed → Run (List Keyed)
  | [] => return sorted.toList
  | a :: rest => do
    let place ← placeFor call a sorted (sorted.size + 1) 0 sorted.size
    insertAll call ((sorted.extract 0 place).push a ++ sorted.extract place sorted.size) rest

/-- The values in order, from the least to the greatest. -/
def inOrder (call : Call) : List Keyed → Run (List Keyed)
  | a :: b :: rest => do
    let falling ← b.isLess call a
    let (run, others) ← runFrom call falling b rest
    let first := a :: b :: run
    insertAll call (if falling then first.reverse else first).toArray others
  | few => return few

/-- The greatest is to come first: the integer that is given, if one is, is not zero. -/
def backwardsOf (call : Call) (v : Option Value) : Run Bool := do
  match v with
  | none => return false
  | some v =>
    let n ← indexOf call v
    if -Int.pow 2 31 ≤ n ∧ n < Int.pow 2 31 then return n != 0 else throw .tooLarge

/-- The values ordered by what a function says of them, or by themselves, the greatest first if
`backwards` holds. -/
def sortedItems (call : Call) (key : Value) (backwards : Bool) (items : List Value) :
    Run (List Value) := do
  let keyed ← items.mapM fun v => do
    let k ← if key.isAbsent then pure v else call key [v] []
    return (k, v)
  let turned (list : List Keyed) : List Keyed := if backwards then list.reverse else list
  return (turned (← inOrder call (turned keyed))).map Prod.snd

end DocGuard
