import DocGuard.Program.Interface
import DocGuard.Program.Parameters
import DocGuard.Program.Conversion
/-!
The arguments of a member of a builtin class.

What the language says of the parameters of a member decides how arguments are sorted: `fitted` puts
them into the order of the parameters. Where nothing is said, arguments are given by position only.
-/

namespace DocGuard

/-- Arguments in the order of the parameters. One that is not given is missing; those at the end are
left out. -/
abbrev Fitted := List (Option Value)

namespace Fitted

/-- The argument at a place, if it was given. -/
def at? (args : Fitted) (i : Nat) : Option Value :=
  args[i]?.join

/-- The argument at a place; one that was not given is absent. -/
def getD (args : Fitted) (i : Nat) : Value :=
  (args.at? i).getD .none

/-- Arguments without the missing ones at the end. -/
def trimmed (args : Fitted) : Fitted :=
  (args.reverse.dropWhile Option.isNone).reverse

/-- Arguments given one after the other. -/
def ofList (args : List Value) : Fitted :=
  args.map some

end Fitted

/-- The parameters behind the receiver that a text writes, whatever their defaults are. -/
def behindReceiver? (text : String) : Option Signature := do
  let parameters ← Parameters.ofText? (text.replace "<unrepresentable>" "None")
  return (Parameters.shown parameters.receives true parameters.params).map fun p =>
    ⟨p.name, p.kind, p.default.map fun _ => .none⟩

/-- Arguments in the order of the parameters that a text writes. -/
def fittedTo (text : String) (args : List Value) (keywords : Bindings Value) : Run Fitted := do
  match behindReceiver? text with
  | none => if keywords.isEmpty then return .ofList args else throw .badCall
  | some sig =>
    if sig.any Param.collects then
      if keywords.isEmpty then return .ofList args else throw .badCall
    match sig.bind? args keywords with
    | some binding => return Fitted.trimmed (sig.map fun p => binding.given.get? p.name)
    | none => throw .badCall

/-- The arguments of a member of a builtin class, behind its receiver, in the order of its
parameters. -/
def fitted (owner member : String) (args : List Value) (keywords : Bindings Value) :
    Run Fitted :=
  fittedTo (((Documentation.ofMember? owner member).map Prod.fst).getD "") args keywords

/-- The arguments of a callable of the language in the order of its parameters. -/
def fittedToCallable (name : String) (args : List Value) (keywords : Bindings Value) :
    Run Fitted :=
  fittedTo (((Documentation.ofFunction? name).map Prod.fst).getD "") args keywords

/-- The text of a value that has to be text. -/
def requireText (v : Value) : Run String := do
  match (← Run.store).textOf? v with
  | some text => return text
  | none => throw .badCall

/-- An optional argument counts as true; without one, `otherwise` is the answer. -/
def flagOf (call : Call) (v : Option Value) (otherwise : Bool) : Run Bool :=
  match v with
  | none => return otherwise
  | some v => isTrue call v

end DocGuard
