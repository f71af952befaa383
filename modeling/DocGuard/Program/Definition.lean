import DocGuard.Program.Belonging
import DocGuard.Program.Comparison
/-!
Which definition of a class is running.

A member of a class offers the functions that it can be the reason for calling: a plain callable
offers itself, a static or class method its function, a property its setter and then its getter. A
class and its ancestors may offer several functions under one name. Of these, `offered` takes the
first that runs a given piece of code, and if none does, the first of all. What the classes are, and
what they hold, is taken as they show it.
-/

namespace DocGuard

namespace Function

/-- The place of the code that a call of the function runs. All guards run the same code, which is at
no place of the text. -/
def place (f : Function) : Nat :=
  (f.code?.map Code.place).getD 0

end Function

/-- The place of the code that a call of the value runs, as far as the value shows it. -/
def placeOf? (call : Call) (v : Value) : Run (Option Nat) := do
  let s ← Run.store
  match v with
  | .function id => return (s.functions[id]?).map Function.place
  | v =>
    if v.isPlain then return none
    match ← getMember? call v "__code__" with
    | some (.code place) => return some place
    | _ => return none

/-- A call of the value runs the code at this place. -/
def runs (call : Call) (place : Nat) (v : Value) : Run Bool := do
  return (← placeOf? call v) == some place

/-- The classes that a class shows as its ancestry, nearest first. -/
def ancestryShown (call : Call) (cls : Value) : Run (List Value) := do
  let s ← Run.store
  match cls, s.special? cls "__getattribute__", s.special? cls "__mro__" with
  | .cls c, some (.slot _ _ _), some (.slot _ _ _) => return (s.ancestry c).map .cls
  | _, _, _ => do
    let shown ← getMember call cls "__mro__"
    match (← Run.store).content shown with
    | .tuple _ items | .list _ items => return items
    | _ => throw .badCall

/-- What a class shows under a name in the dictionary of its members. -/
def ownMemberShown? (call : Call) (cls : Value) (name : String) : Run (Option Value) := do
  let s ← Run.store
  match cls, s.special? cls "__getattribute__", s.special? cls "__dict__" with
  | .cls c, some (.slot _ _ _), some (.slot _ _ _) => return s.ownMember? c name
  | _, _, _ => do
    let shown ← getMember call cls "__dict__"
    let s ← Run.store
    let d := match s.content shown with
      | .tuple _ [d] => d
      | _ => shown
    return ((s.namespace? d).getD []).get? name

/-- The functions that a member of a class offers, if it is such a member at all. -/
def offers? (call : Call) (member : Value) : Run (Option (List Value)) := do
  if ← isInstanceOfAny call member ["staticmethod", "classmethod"] then
    return some [← getMember call member "__func__"]
  if ← isInstance call member (.builtin "property") then
    let setter ← getMember call member "fset"
    let getter ← getMember call member "fget"
    return some ([setter, getter].filter fun f => !f.isAbsent)
  return if (← Run.store).isCallable member then some [member] else none

/-- The function that some classes offer under a name, one class after the other: the first that
runs the code at `place`, else the first of all. Without a place, any function will do. -/
def offeredAmong (call : Call) (name : String) (place : Option Nat) (first : Option Value) :
    List Value → Run (Option Value)
  | [] => return first
  | cls :: rest => do
    match (← ownMemberShown? call cls name).filter fun member => !member.isAbsent with
    | none => offeredAmong call name place first rest
    | some member =>
      let offered := (← offers? call member).getD []
      let found ← match place with
        | none => pure offered.head?
        | some place => offered.findM? (runs call place)
      match found with
      | some f => return if f.isAbsent then none else some f
      | none =>
        let here := offered.head?.filter fun f => !f.isAbsent
        offeredAmong call name place (first.or here) rest

/-- The function that a class or its ancestors offer under a name. -/
def offered (call : Call) (cls : Value) (name : String) (place : Option Nat) :
    Run (Option Value) :=
  Run.inFunction "docparams.context" "_lookup_in_mro" [("obj_class", cls)] do
    offeredAmong call name place none (← ancestryShown call cls)

/-- The function that a class or its ancestors offer under a name, if it runs the code at `place`.
-/
def offeredRunning (call : Call) (cls : Value) (name : String) (place : Nat) :
    Run (Option Value) := do
  match ← offered call cls name (some place) with
  | some f => return if ← runs call place f then some f else none
  | none => return none

/-- The value counts as a class. -/
def countsAsClass (call : Call) (v : Value) : Run Bool := do
  match v with
  | .cls _ => return true
  | v => isInstance call v (.builtin "type")

/-- The function of a name that a class or another value has. -/
def resolve (call : Call) (owner : Value) (method : Option String) : Run (Option Value) :=
  Run.inFunction "docparams.context" "resolve_method" [("owner", owner)] do
    match owner, placeName? method with
    | _, none => return none
    | .none, _ => return none
    | owner, some name =>
      if ← countsAsClass call owner then offered call owner name none
      else match ← getMember? call owner name with
        | some m => return if (← Run.store).isCallable m then some m else none
        | none => return none

end DocGuard
