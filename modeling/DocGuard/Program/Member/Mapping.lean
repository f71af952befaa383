import DocGuard.Program.Argument
import DocGuard.Program.KeySource
import DocGuard.Program.Operator
/-!
What the members of dictionaries and of their views do.

A dictionary keeps its entries in the order in which their keys came. A view refers to a dictionary
and shows what it holds now.
-/

namespace DocGuard

/-! ### Entries -/

/-- Changes the entries of a dictionary. -/
def setEntries (d : Value) (entries : List (Value × Value)) : Run Unit :=
  setContent d (.dict 0 entries)

/-- Puts an entry into a dictionary. The place of its key is `known` or not. -/
def putInto (call : Call) (known : Bool) (d key held : Value) : Run Unit := do
  let place ← placeOfKey call known key
  let entries := (← Run.store).entries d
  match ← findKey? call Prod.fst place key entries with
  | none => setEntries d ((← Run.store).entries d ++ [(key, held)])
  | some (old, _) =>
    setEntries d (entries.map fun entry => if entry.1.same old then (entry.1, held) else entry)

/-- The entries without that of a key. -/
def withoutEntry (key : Value) (entries : List (Value × Value)) : List (Value × Value) :=
  entries.filter fun entry => !entry.1.same key

/-- The key and what is held under it, out of a value that holds two. It is the value number `i` of
those that give the entries of a dictionary. -/
def pairIn (call : Call) (i : Nat) (v : Value) : Run (Value × Value) := do
  match ← itemsListed call v with
  | [key, held] => return (key, held)
  | items => throw (.badValue ("dictionary update sequence element #" ++ toString i ++ " has length "
      ++ toString items.length ++ "; 2 is required"))

/-- Puts pairs into a dictionary, as an iterator gives them, at most `n`; `i` were put before. -/
def putPairs (call : Call) (d it : Value) : (n i : Nat) → Run Unit
  | 0, _ => throw .tooLarge
  | n + 1, i => do
    match ← nextOf? call it with
    | none => return ()
    | some v =>
      let (key, held) ← pairIn call i v
      putInto call false d key held
      putPairs call d it n (i + 1)

/-- Puts what a value has under its keys into a dictionary: the entries of another dictionary, or
else what the value gives for each of its keys. -/
def putMapping (call : Call) (d source : Value) : Run Unit := do
  if source.same d then return ()
  let s ← Run.store
  let plain := s.isOf "dict" source && match s.special? source "__iter__" with
    | some (.slot _ _ _) => true
    | _ => false
  if plain then
    if (s.entries d).isEmpty then setEntries d (s.entries source)
    else (s.entries source).forM fun (key, held) => putInto call true d key held
  else
    let keys ← call (← getMember call source "keys") [] []
    (← itemsIn call (← iteratorOf call keys) true).forM fun key => do
      putInto call false d key (← itemUnder call source key)

/-- Puts what a value gives into a dictionary: what it has under its keys, if it has keys, else the
pairs that it holds. -/
def putAll (call : Call) (d source : Value) : Run Unit := do
  let s ← Run.store
  if s.classOf source == .builtin "dict" then putMapping call d source
  else
    match ← getMember? call source "keys" with
    | some _ => putMapping call d source
    | none => putPairs call d (← iteratorOf call source) iterationLimit 0

/-- Puts what is given to a dictionary into it: what an argument gives, and keywords. -/
def updateDict (call : Call) (d : Value) (args : List Value) (keywords : Bindings Value) :
    Run Unit := do
  match args with
  | [] => pure ()
  | [source] => putAll call d source
  | _ => throw .badCall
  (keywordEntries keywords).forM fun (key, held) => putInto call true d key held

/-! ### Dictionaries -/

/-- What a dictionary holds under a key; of a derived class, else what it says for missing ones. -/
def dictItem (call : Call) (d key : Value) : Run Value := do
  match ← heldUnder? call key ((← Run.store).entries d) with
  | some held => return held
  | none =>
    match (← Run.store).special? d "__missing__" with
    | some operation => callSpecial call operation d [key]
    | none => throw .noKey

/-- The entries of a dictionary and then those of another one. -/
def joinedDicts (call : Call) (first second : Value) : Run Value := do
  let s ← Run.store
  if !(s.isOf "dict" first && s.isOf "dict" second) then return .noAnswer
  let joined := Value.dict (← Run.newMark) (s.entries first)
  putAll call joined second
  return joined

/-- What a member of the class of dictionaries does with a dictionary. -/
def dictMember (call : Call) (name : String) (d : Value) (args : Fitted) : Run Value := do
  let entries := (← Run.store).entries d
  match name, args with
  | "get", some key :: _ => return (← heldUnder? call key entries).getD (args.getD 1)
  | "__getitem__", [some key] => dictItem call d key
  | "__setitem__", [some key, some held] => do
    putInto call false d key held
    return .none
  | "__delitem__", [some key] => do
    match ← entryOf? call key entries with
    | some (key, _) => setEntries d (withoutEntry key entries)
    | none => throw .noKey
    return .none
  | "__contains__", [some key] => return .bool (← entryOf? call key entries).isSome
  | "setdefault", some key :: _ => do
    match ← heldUnder? call key entries with
    | some held => return held
    | none => do
      setEntries d ((← Run.store).entries d ++ [(key, args.getD 1)])
      return args.getD 1
  | "pop", some key :: _ => do
    -- in a dictionary without entries nothing is looked for
    let entry ← if entries.isEmpty then pure none else entryOf? call key entries
    match entry, args.at? 1 with
    | some (key, held), _ => do
      setEntries d (withoutEntry key entries)
      return held
    | none, some other => return other
    | none, none => throw .noKey
  | "popitem", [] =>
    match entries.getLast? with
    | some (key, held) => do
      setEntries d entries.dropLast
      Run.newTuple [key, held]
    | none => throw .noKey
  | "clear", [] => do
    setEntries d []
    return .none
  | "copy", [] => return .dict (← Run.newMark) entries
  | "keys", [] => newKeeping "dict_keys" [d]
  | "values", [] => newKeeping "dict_values" [d]
  | "items", [] => newKeeping "dict_items" [d]
  | "__reversed__", [] => newKeeping "dict_reversekeyiterator" [d, .int 0 0, .int 0 entries.length]
  | "__or__", [some other] => joinedDicts call d other
  | "__ror__", [some other] => joinedDicts call other d
  | "__ior__", [some other] => do
    putAll call d other
    return d
  | "__sizeof__", [] => Run.newInt 64
  | _, _ => throw .badCall

/-- A dictionary, or an instance of a class derived from that of dictionaries, with some keys that
all hold the same. -/
def dictFromKeys (call : Call) (c : ClassRef) (args : Fitted) : Run Value := do
  match args with
  | some keys :: _ => do
    let d ← call (.cls c) [] []
    let s ← Run.store
    let plain := s.classOf d == .builtin "dict"
    let known := ["dict", "set", "frozenset"].any fun cls => s.classOf keys == .builtin cls
    forEachIn call keys fun key => do
      if plain then putInto call known d key (args.getD 1)
      else match (← Run.store).special? d "__setitem__" with
        | some operation => discard (callSpecial call operation d [key, args.getD 1])
        | none => throw .badCall
    return d
  | _ => throw .badCall

/-! ### Views -/

/-- What a view holds is among the entries of a dictionary. -/
def viewHolds (call : Call) (owner : String) (entries : List (Value × Value)) (v : Value) :
    Run Bool := do
  match owner with
  | "dict_items" =>
    let s ← Run.store
    match s.isOf "tuple" v, s.content v with
    | true, .tuple _ [key, held] =>
      match ← heldUnder? call key entries with
      | some found => askEqual call found held
      | none => return false
    | _, _ => return false
  | _ => return (← entryOf? call v entries).isSome

/-- The kind of the iterators that go through what a view shows from its end. -/
def reversedKind (owner : String) : String :=
  match owner with
  | "dict_keys" => "dict_reversekeyiterator"
  | "dict_values" => "dict_reversevalueiterator"
  | _ => "dict_reverseitemiterator"

/-- What a member of a view does that shows the keys, the values or the entries of a dictionary;
sets that are made out of it are made by `operate`. -/
def viewMember (call : Call) (owner name : String) (view : Value) (args : Fitted)
    (operate : Operator → Bool → Value → Run Value) : Run Value := do
  let s ← Run.store
  let d := s.viewed view
  let entries := s.entries d
  match name, args, Operator.ofMember? name with
  | "__contains__", [some v], _ => return .bool (← viewHolds call owner entries v)
  | "__reversed__", [], _ =>
    newKeeping (reversedKind owner) [d, .int 0 0, .int 0 entries.length]
  | "isdisjoint", [some other], _ => do
    if other.same view then return .bool entries.isEmpty
    -- of two sets the smaller one is gone through
    let sized := ["set", "frozenset"].any (fun cls => s.classOf other == .builtin cls)
      || ["dict_keys", "dict_items"].any fun cls => s.isOf cls other
    let length ← if sized then lengthOf? call other else pure none
    let (held, gone) := if entries.length < length.getD 0 then (other, view) else (view, other)
    return .bool (← foldIn call gone false true fun _ v => do
      if ← isAmong call v held then return .done false else return .yield true)
  | _, [some other], some (op, front) => operate op front other
  | _, _, _ => throw .badCall

/-- What a member of a view does that shows a mapping and cannot change it: it asks the mapping. -/
def proxyMember (call : Call) (name : String) (view : Value) (args : Fitted) : Run Value := do
  let s ← Run.store
  let d := s.viewed view
  let given := args.map fun v => v.getD .none
  let shown (v : Value) : Value := if s.isOf "mappingproxy" v then s.viewed v else v
  match name, given with
  | "__getitem__", [key] => itemUnder call d key
  | "__contains__", [key] => return .bool (← isAmong call key d)
  | "__reversed__", [] => call (.cls (.builtin "reversed")) [d] []
  | "__or__", [other] => call (.builtin "|") [shown view, shown other] []
  | "__ror__", [other] => call (.builtin "|") [shown other, shown view] []
  | "__ior__", _ => throw .badCall
  | "get", [key] => do call (← getMember call d "get") [key, .none] []
  | "get", _ | "keys", [] | "values", [] | "items", [] | "copy", [] => do
    call (← getMember call d name) given []
  | _, _ => throw .badCall

end DocGuard
