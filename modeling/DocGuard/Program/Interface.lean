import DocGuard.Docstring
import DocGuard.Program.Inspection
/-!
What a callable or a value shows of itself: its documentation, its name and its type.

Documentation is always the callable's own, never that of something it derives from. Values are
named for checks by the first scalar type of which they are instances, else by their class.
-/

namespace DocGuard

/-- The documentation of a callable and the parameters that it can speak of. -/
structure Interface where
  /-- The documentation, cleaned, if it is text and not blank. -/
  doc : Option String
  params : List String
deriving DecidableEq, Repr

/-! ### Documentation -/

/-- How much a value holds. -/
def requireLength (call : Call) (v : Value) : Run Int := do
  match ← lengthOf? call v with
  | some n => return n
  | none => throw .badCall

/-- The least indentation of some lines that are more than white space, as the lines say. -/
def marginOf (call : Call) (lines : List Value) : Run (Option Int) :=
  lines.foldlM (fun margin line => do
    let content ← requireLength call (← askMethod call line "lstrip" [])
    if content = 0 then return margin
    let indent := (← requireLength call line) - content
    return some (min indent (margin.getD indent))) none

/-- A line from a place on. -/
def lineFrom (call : Call) (line : Value) (place : Int) : Run Value := do
  itemUnder call line (← call (.cls (.builtin "slice")) [← Run.newInt place, .none] [])

/-- Some things without those at the beginning that count as false. -/
def withoutFalse (call : Call) : List Value → Run (List Value)
  | [] => return []
  | v :: rest => do if ← isTrue call v then return v :: rest else withoutFalse call rest

/-- The rows of documentation out of a list of lines that say themselves what they are. The list is
changed on the way. -/
def askedRows (call : Call) (list : Value) : Run (List (List Char)) := do
  let lines := (← Run.store).itemsOf list
  let changed (lines : List Value) : Run (List Value) := do
    setContent list (.list 0 lines)
    return lines
  let margin ← marginOf call (lines.drop 1)
  let first ← (lines.take 1).mapM fun line => askMethod call line "lstrip" []
  let lines ← changed (first ++ lines.drop 1)
  let lines ← match margin with
    | some margin => do
      changed (lines.take 1 ++ (← (lines.drop 1).mapM fun line => lineFrom call line margin))
    | none => pure lines
  let lines ← changed (← withoutFalse call lines.reverse).reverse
  let lines ← changed (← withoutFalse call lines)
  lines.mapM fun line => do
    match (← Run.store).textOf? line with
    | some text => return text.toList
    | none => throw .badCall

/-- The rows of documentation that a value was cut into. -/
def cleanedRowsOf (call : Call) (lines : Value) : Run (List (List Char)) := do
  let s ← Run.store
  if s.isOf "list" lines then askedRows call lines
  else
    -- the lines of a text or a tuple cannot be changed, but there may be none
    let empty := s.textOf? lines == some ""
      || (s.isOf "tuple" lines && (s.itemsOf lines).isEmpty)
    if empty then return [] else throw .badCall

/-- A text cleaned as documentation, if it is more than white space. A text of a class of its own
can say itself what it is without white space at its ends, what it is with its tabs expanded, and
which lines it has. -/
def cleanedDoc? (call : Call) (doc : Value) : Run (Option String) := do
  match doc with
  | .str _ text => return Docstring.ofText? text
  | doc =>
    if !(← isInstance call doc (.builtin "str")) then return none
    if !(← isTrue call (← askMethod call doc "strip" [])) then return none
    let expanded ← askMethod call doc "expandtabs" []
    let rows ← match expanded with
      | .str _ text => pure (Docstring.cleanRows (Text.rows text.toList))
      | expanded => do
        cleanedRowsOf call (← askMethod call expanded "split" [sharedText "\n"])
    return some (String.ofList (Text.unrows rows))

/-! ### Interfaces -/

/-- The interface of a value, if it can be called and its signature can be read. -/
def interfaceOf (call : Call) (v : Value) : Run (Option Interface) :=
  Run.inFunction "docparams.context" "method_info" [("target", v)] do
    if v.isAbsent || !(← Run.store).isCallable v then return none
    match ← Run.orUnfit (signatureOf call v) with
    | none => return none
    | some sig =>
      let doc := (← getMember? call v "__doc__").getD .none
      return some ⟨← cleanedDoc? call doc, sig.documentable⟩

/-- The documentation and the parameters of an interface, if there is something to check. -/
def Interface.checkable? : Option Interface → Option (String × List String)
  | some ⟨some doc, params⟩ => if doc.isEmpty || params.isEmpty then none else some (doc, params)
  | _ => none

/-- The documentation and the parameters of a value, if there is something to check. -/
def checkable? (call : Call) (v : Value) : Run (Option (String × List String)) := do
  return Interface.checkable? (← interfaceOf call v)

/-- The name of a callable: its qualified name if that counts as true, else its plain name, if it
has one. -/
def callableName (call : Call) (v : Value) : Run Value :=
  Run.inFunction "docparams.utils" "callable_name" [("func", v)] do
    let qualified := (← getMember? call v "__qualname__").getD .none
    if ← isTrue call qualified then return qualified
    return (← getMember? call v "__name__").getD .none

/-- A value as it stands in the wording of a message. -/
def Store.wording (s : Store) (v : Value) : String :=
  match s.content v with
  | .none => "None"
  | .bool b => if b then "True" else "False"
  | .int _ n => toString n
  | .float _ text | .str _ text => text
  | v => v.className

/-- The text that a value is put into a message as. -/
def textIn (call : Call) (v : Value) : Run String := do
  match v with
  | .str _ text => return text
  | .none => return "None"
  | v =>
    let text ← call (.cls (.builtin "str")) [v] []
    return ((← Run.store).textOf? text).getD ""

/-! ### Types -/

/-- The name of a class, or of the class that any other value shows. -/
def classNameOf (call : Call) (v : Value) : Run String :=
  Run.inFunction "docparams.utils" "class_name" [("obj", v)] do
    let cls ← if ← isInstance call v (.builtin "type") then pure v else getMember call v "__class__"
    let name ← getMember call cls "__name__"
    return (← Run.store).wording name

/-- The name of the first of some scalar types of which the value is an instance, else that of its
class. -/
def typeNameAmong (call : Call) (v : Value) : List ScalarType → Run String
  | [] => classNameOf call v
  | t :: rest => do
    if ← isInstance call v (.builtin t.className) then return t.name
    typeNameAmong call v rest

/-- The name of the value's type. -/
def typeNameOf (call : Call) (v : Value) : Run String :=
  Run.inFunction "docparams.scalars" "type_of" [("value", v)] (typeNameAmong call v ScalarType.all)

/-! ### Views -/

/-- A value as it is shown. -/
def viewValue (call : Call) (v : Value) : Run ValueView := do
  match v with
  | .none | .bool _ | .int _ _ | .float _ _ | .str _ _ => return .plain v
  | v => return .other (← classNameOf call v)

/-- The name of a callable as it is shown: by what it holds, whatever its class. -/
def viewName (call : Call) (v : Value) : Run ValueView := do
  let name ← callableName call v
  viewValue call ((← Run.store).content name)

/-- A callable as it is shown. -/
def viewFunction (call : Call) (v : Value) : Run FunctionView := do
  let name ← viewName call v
  let s ← Run.store
  let type := s.wording (s.classInfo (s.classOf v)).name
  if ← isInstanceOfAny call v ["function", "method"] then
    let doc ← viewValue call (← getMember call v "__doc__")
    return ⟨name, type, some (doc, (← getMember? call v "__wrapped__").isSome)⟩
  else return ⟨name, type, none⟩

/-- The owner of a running call as it is shown. -/
def viewOwner (call : Call) (v : Value) : Run OwnerView := do
  let named (name : String) : Run String := do
    let shown ← getMember call v name
    return (← Run.store).wording shown
  match v with
  | .none => return .none
  | .cls _ => return .cls (← named "__qualname__")
  | _ => return .module (← named "__name__")

end DocGuard
