import DocGuard.Program.Conversion
/-!
Operators between two values.

What two values come to under an operator is asked of their classes: first of that of the first
value, then, the other way round, of that of the second; but first of that of the second if it
derives from the class of the first and answers in a way of its own. A sequence is put behind
another one, or repeated, only if neither class has another answer.
-/

namespace DocGuard

/-- An operator between two values. -/
inductive Operator where
  | sum
  | difference
  | product
  | quotient
  | floorQuotient
  | remainder
  /-- The floor quotient and the remainder. -/
  | division
  | power
  | leftShift
  | rightShift
  | both
  | either
  | exactlyOne
  | matrixProduct
deriving DecidableEq, Repr

namespace Operator

/-- The operators with the sign for each, and the word in the names of the members that answer. -/
def table : List (Operator × String × String) :=
  [(sum, "+", "add"), (difference, "-", "sub"), (product, "*", "mul"), (quotient, "/", "truediv"),
   (floorQuotient, "//", "floordiv"), (remainder, "%", "mod"), (division, "divmod", "divmod"),
   (power, "**", "pow"), (leftShift, "<<", "lshift"), (rightShift, ">>", "rshift"),
   (both, "&", "and"), (either, "|", "or"), (exactlyOne, "^", "xor"),
   (matrixProduct, "@", "matmul")]

/-- The word for an operator in the names of members. -/
def word (op : Operator) : String :=
  ((table.lookup op).map Prod.snd).getD ""

/-- The member of a class that answers for an operator in front of another value. -/
def member (op : Operator) : String :=
  "__" ++ op.word ++ "__"

/-- The member of a class that answers for an operator behind another value. -/
def reflected (op : Operator) : String :=
  "__r" ++ op.word ++ "__"

/-- The member of a class that answers for an operator by changing the value in front. -/
def changing (op : Operator) : String :=
  "__i" ++ op.word ++ "__"

/-- The operator of a sign. -/
def ofSign? (text : String) : Option Operator :=
  (table.find? fun entry => entry.2.1 == text).map Prod.fst

/-- The operator that a member answers for, in front of another value or behind it. -/
def ofMember? (name : String) : Option (Operator × Bool) :=
  table.findSome? fun (op, _, _) =>
    if op.member == name then some (op, true)
    else if op.reflected == name then some (op, false)
    else none

/-- The operator that a member answers for by changing the value in front. -/
def ofChanging? (name : String) : Option Operator :=
  (table.find? fun (op, _, _) => op.changing == name).map Prod.fst

end Operator

/-- The classes of which the values are put behind one another, or repeated. -/
def sequenceClasses : List String :=
  ["list", "tuple", "str", "bytes", "bytearray"]

/-- A member that answers for sequences. -/
def Value.isOfSequences : Value → Bool
  | .slot _ owner _ => sequenceClasses.contains owner
  | _ => false

/-- The answer of a member to a value, if it has one. -/
def memberAnswer? (call : Call) (member : Option Value) (receiver other : Value) :
    Run (Option Value) := do
  match member with
  | none | some .none => return none
  | some operation =>
    let answer ← callSpecial call operation receiver [other]
    return if answer.isNoAnswer then none else some answer

/-- The first answer that one of some searches finds. -/
def firstAnswer : List (Run (Option Value)) → Run Value
  | [] => throw .badCall
  | search :: rest => do
    match ← search with
    | some answer => return answer
    | none => firstAnswer rest

/-- What two values come to under an operator. -/
def combine (call : Call) (op : Operator) (v w : Value) : Run Value := do
  let s ← Run.store
  let c := s.classOf v
  let d := s.classOf w
  let front := s.inherited? c op.member
  let back := s.inherited? d op.reflected
  let joins := (op == .sum || op == .product) && front.any Value.isOfSequences
  let forth := memberAnswer? call front v w
  let converse := if c == d then pure none else memberAnswer? call back w v
  let overrides := c != d && s.derives d c && match back, s.inherited? c op.reflected with
    | some own, some other => !own.same other
    | some _, none => true
    | none, _ => false
  if joins then firstAnswer [converse, forth]
  else if overrides then firstAnswer [converse, forth]
  else firstAnswer [forth, converse]

end DocGuard
