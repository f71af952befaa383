import DocGuard.Program.Builtin.Module
import DocGuard.Program.Slot
/-!
The callables that have a name in every program.

They ask values what other parts of the language ask them too: for members, truth, length, text, the
class. Others order or count what a value goes through. A callable that is not told of here refuses
every call.
-/

namespace DocGuard

/-! ### Going through values -/

/-- The value of which the key comes first, of a value and those that an iterator still gives, at
most `n`. -/
def extremeOf (call : Call) (r : Relation) (key it : Value) :
    (n : Nat) → (best : Value × Value) → Run Value
  | 0, _ => throw .tooLarge
  | n + 1, best => do
    match ← nextOf? call it with
    | none => return best.2
    | some v =>
      let k ← if key.isAbsent then pure v else call key [v] []
      if ← asksRelated call r k best.1 then extremeOf call r key it n (k, v)
      else extremeOf call r key it n best

/-- The least or the greatest of the values given, or of those that the only one holds; `name` is what
the search for it is called. -/
def extreme (call : Call) (name : String) (r : Relation) (args : List Value) (keywords : Bindings Value) :
    Run Value := do
  if keywords.any fun (name, _) => name != "key" && name != "default" then throw .badCall
  let key := (keywords.get? "key").getD .none
  let it ← match args, keywords.has "default" with
    | [v], _ => iteratorOf call v
    | _ :: _, false => do iteratorOf call (← Run.newTuple args)
    | _, _ => throw .badCall
  match ← nextOf? call it, keywords.get? "default" with
  | some v, _ => do
    let k ← if key.isAbsent then pure v else call key [v] []
    extremeOf call r key it iterationLimit (k, v)
  | none, some other => return other
  | none, none => throw (.badValue (name ++ "() arg is an empty sequence"))

/-- One of the next values of an iterator, at most `n`, counts as true if `wanted` holds, and as
false if not. -/
def meetsTruth (call : Call) (wanted : Bool) (it : Value) : (n : Nat) → Run Bool
  | 0 => throw .tooLarge
  | n + 1 => do
    match ← nextOf? call it with
    | none => return false
    | some v => if (← isTrue call v) == wanted then return true else meetsTruth call wanted it n

/-- The sum of a value and the next values of an iterator, at most `n`. -/
def sumOf (call : Call) (it : Value) : (n : Nat) → (total : Value) → Run Value
  | 0, _ => throw .tooLarge
  | n + 1, total => do
    match ← nextOf? call it with
    | none => return total
    | some v => do sumOf call it n (← call (.builtin "+") [total, v] [])

/-! ### Asking a value -/

/-- What an operation answers that the class of a value has to define. -/
def askOperation (call : Call) (name : String) (v : Value) (args : List Value) : Run Value := do
  match (← Run.store).special? v name with
  | none | some .none => throw .badCall
  | some operation => callSpecial call operation v args

/-- A number rounded to some places, or to a whole one. -/
def roundedValue (call : Call) (v places : Value) : Run Value :=
  askOperation call "__round__" v (if places.isAbsent then [] else [places])

/-- The power of a value within a modulus. -/
def powerOf (call : Call) (v w modulus : Value) : Run Value := do
  if modulus.isAbsent then return ← combine call .power v w
  let answer ← askOperation call "__pow__" v [w, modulus]
  if answer.isNoAnswer then throw .badCall else return answer

/-- The names of the members of a value, as its class lists them. -/
def listedNames (call : Call) (v : Value) : Run Value := do
  let s ← Run.store
  let names ← match v, s.globals.get? "__dir__" with
    | .module, some list => call list [] []
    | v, _ => askOperation call "__dir__" v []
  let items ← itemsIn call names true
  Run.newList (← sortedItems call .none false items)

/-- The number of a character, or of a code. -/
def numberOfChar (v : Value) : Run Value := do
  let s ← Run.store
  match (s.textOf? v).map String.toList, s.bytesOf? v with
  | some [c], _ | none, some [c] => Run.newInt c.toNat
  | _, _ => throw .badCall

/-- The character of a number. -/
def charOfNumber (call : Call) (v : Value) : Run Value := do
  let n ← indexOf call v
  if 0 ≤ n && n < 0x110000 then Run.newText (String.ofList [Char.ofNat n.toNat])
  else throw (.badValue "chr() arg not in range(0x110000)")

/-- Prints values: asks each for its text, and gives the texts to a file if there is one. -/
def printAll (call : Call) (args : List Value) (keywords : Bindings Value) : Run Value := do
  let known := ["sep", "end", "file", "flush"]
  if keywords.any fun (name, _) => !known.contains name then throw .badCall
  let s ← Run.store
  let part (name otherwise : String) : Run Value :=
    match keywords.get? name with
    | none | some .none => return sharedText otherwise
    | some v => if s.isText v then return v else throw .badCall
  let between ← part "sep" " "
  let last ← part "end" "\n"
  let write (v : Value) : Run Unit := do
    let file := (keywords.get? "file").getD .none
    let text ← if file.isAbsent || !(← Run.store).isText v then textOf call v else pure v
    if !file.isAbsent then discard (call (← getMember call file "write") [text] [])
  args.zipIdx.forM fun (v, i) => do
    if i != 0 then write between
    write v
  write last
  if let some flush := keywords.get? "flush" then
    if ← isTrue call flush then
      let file := (keywords.get? "file").getD .none
      if !file.isAbsent then discard (call (← getMember call file "flush") [] [])
  return .none

/-- The module of a name, or the one that holds it. -/
def importedModule (call : Call) (args : List Value) (keywords : Bindings Value) : Run Value := do
  let given ← ordered ["name", "globals", "locals", "fromlist", "level"] args keywords
  match given.at? 0 with
  | none => throw .badCall
  | some v =>
    let name ← requireText v
    let whole ← flagOf call (given.at? 3) false
    let wanted := if whole then name else String.ofList (name.toList.takeWhile (· != '.'))
    let s ← Run.store
    if s.registered == some wanted && wanted == name then return .module
    match loadedModule? name, loadedModule? wanted with
    | some _, some wanted => return .library wanted
    | _, _ => throw .noKey

/-! ### All callables -/

/-- How deep classes can stand in tuples. -/
def tupleDepth : Nat := 1000

/-- Calls a callable of the language with its arguments in the order of its parameters. -/
def callFitted (call : Call) (name : String) (args : Fitted) : Run Value := do
  let s ← Run.store
  let second := args.getD 1
  match name, args.getD 0 with
  | "hash", v => do Run.newInt (← askPlace call v).shown
  | "hasattr", v => return .bool (← getMember? call v (← requireText second)).isSome
  | "setattr", v => do
    setMember call v (← requireText second) (args.getD 2)
    return .none
  | "delattr", v => do
    deleteMember call v (← requireText second)
    return .none
  | "callable", v => return .bool (s.isCallable v)
  | "isinstance", v => return .bool (← belongsTo call v tupleDepth second)
  | "issubclass", v => return .bool (← derivesFrom call v tupleDepth second)
  | "len", v =>
    match ← lengthOf? call v with
    | some n => Run.newInt n
    | none => throw .badCall
  | "repr", v => written call v
  | "ascii", v => do
    let shown ← written call v
    match (← Run.store).textOf? shown with
    | some text =>
      if text.toList.all (·.toNat < 128) then return shown else Run.newText (asciiText text)
    | none => throw .badCall
  | "format", v => laidOut call v ((args.at? 1).getD (sharedText ""))
  | "abs", v => askOperation call "__abs__" v []
  | "bin", v => do Run.newText (Integer.marked "0b" 2 (← indexOf call v))
  | "oct", v => do Run.newText (Integer.marked "0o" 8 (← indexOf call v))
  | "hex", v => do Run.newText (Integer.marked "0x" 16 (← indexOf call v))
  | "ord", v => numberOfChar v
  | "chr", v => charOfNumber call v
  | "divmod", v => combine call .division v second
  | "pow", v => powerOf call v second (args.getD 2)
  | "round", v => roundedValue call v second
  | "any", v => do return .bool (← meetsTruth call true (← iteratorOf call v) iterationLimit)
  | "all", v => do return .bool !(← meetsTruth call false (← iteratorOf call v) iterationLimit)
  | "sum", v => do
    let start := (args.at? 1).getD (.int 0 0)
    let it ← iteratorOf call v
    if ["str", "bytes", "bytearray"].any fun cls => s.isOf cls start then throw .badCall
    sumOf call it iterationLimit start
  | "sorted", v => do
    let items ← itemsIn call v true
    let backwards ← backwardsOf call (args.at? 2)
    Run.newList (← sortedItems call second backwards items)
  | "id", v => Run.newInt (16 * v.serial + 139000000000000 : Nat)
  | "globals", _ => return .attributes .module
  | _, _ => throw .badCall

/-- The callables that the language asks by itself, by the sign for what they do. -/
def callSign? (call : Call) (name : String) (args : List Value) : Option (Run Value) :=
  match name, args, Relation.ofSign? name, Operator.ofSign? name with
  | "==", [v, w], _, _ => some do return .bool (← isEqual call v w)
  | "in", [v, w], _, _ => some do return .bool (← isAmong call v w)
  | "divmod", _, _, _ => none
  | _, [v, w], some r, _ => some (compare call r v w)
  | _, [v, w], none, some op => some (combine call op v w)
  | _, _, _, _ => none

/-- Calls a callable of the language. -/
def callLibrary (call : Call) (name : String) (args : List Value) (keywords : Bindings Value) :
    Run Value := do
  match callSign? call name args with
  | some answer => answer
  | none =>
    match name, args, keywords with
    | "max", _, _ => extreme call "max" .greater args keywords
    | "min", _, _ => extreme call "min" .less args keywords
    | "print", _, _ => printAll call args keywords
    | "__import__", _, _ => importedModule call args keywords
    | "getattr", [v, member], [] => do getMember call v (← requireText member)
    | "getattr", [v, member, other], [] => do
      return (← getMember? call v (← requireText member)).getD other
    | "iter", [v], [] => iteratorOf call v
    | "iter", [f, last], [] =>
      if (← Run.store).isCallable f then newKeeping "callable_iterator" [f, last]
      else throw .badCall
    | "next", [it], [] => askOperation call "__next__" it []
    | "next", [it, other], [] => do
      return (← orExhausted (askOperation call "__next__" it [])).getD other
    | "dir", [v], [] => listedNames call v
    | "vars", [v], [] => do
      match ← getMember? call v "__dict__" with
      | some d => return d
      | none => throw .badCall
    | "getattr", _, _ | "iter", _, _ | "next", _, _ | "dir", _, _ | "vars", _, _ => throw .badCall
    | _, _, _ => do callFitted call name (← fittedToCallable name args keywords)

end DocGuard
