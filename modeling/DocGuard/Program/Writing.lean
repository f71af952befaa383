import DocGuard.Program.Iteration
import DocGuard.Text.Layout
import DocGuard.Text.Quoted
/-!
Values written as text.

A value is written so that it can be told apart from others, or as a text for readers, or laid out
as a specification asks. A class that a program defines writes its instances by operations of its
own. A container is written with what it holds; one that holds itself is written in short the second
time.
-/

namespace DocGuard

/-! ### Asking -/

/-- The text that an operation of a program gives. -/
def textFrom (call : Call) (operation v : Value) (args : List Value) : Run Value := do
  let text ← callSpecial call operation v args
  if (← Run.store).isText text then return text else throw .badCall

/-- The text that a value is written as. -/
def askWritten (call : Call) (v : Value) : Run String := do
  match (← Run.store).textOf? (← call (.builtin "repr") [v] []) with
  | some text => return text
  | none => throw .badCall

/-- The text of a value for readers. -/
def askText (call : Call) (v : Value) : Run String := do
  match (← Run.store).textOf? (← call (.cls (.builtin "str")) [v] []) with
  | some text => return text
  | none => throw .badCall

/-! ### Builtin values -/

/-- Texts with commas between them. -/
def commaSeparated (texts : List String) : String :=
  ", ".intercalate texts

/-- A text in braces. -/
def inBraces (text : String) : String :=
  "\x7b" ++ text ++ "\x7d"

/-- The name of the class of a value. -/
def Store.classNameOf (s : Store) (v : Value) : String :=
  let name := (s.textOf? (s.classInfo (s.classOf v)).name).getD ""
  String.ofList (name.toList.reverse.takeWhile (· != '.')).reverse

/-- The number of a complex number's part, with nothing behind the point if there is nothing. -/
def partText (d : Double) : String :=
  let text := d.text
  if text.endsWith ".0" then (text.dropEnd 2).toString else text

/-- A complex number as it is written. -/
def complexText (re im : Double) : String :=
  let imaginary := partText im ++ "j"
  if re.isZero && !re.isNegative then imaginary
  else
    let sign := if imaginary.startsWith "-" then "" else "+"
    "(" ++ partText re ++ sign ++ imaginary ++ ")"

/-- A code among bytes as it is written. -/
def escapedCode (mark c : Char) : List Char :=
  let n := c.toNat
  if c == mark || c == '\\' then ['\\', c]
  else if c == '\t' then ['\\', 't']
  else if c == '\n' then ['\\', 'n']
  else if c == '\r' then ['\\', 'r']
  else if n < 0x20 || 0x7f ≤ n then '\\' :: 'x' :: Text.hexDigits 2 n
  else [c]

/-- Bytes as they are written. -/
def bytesText (codes : String) : String :=
  let mark := Text.quoteMark codes.toList
  "b" ++ String.ofList (mark :: codes.toList.flatMap (escapedCode mark) ++ [mark])

/-- The address at which a value is said to be. It can be any. -/
def somewhere : String :=
  "0x7f0000000000"

/-- A class as it is written. -/
def Store.classText (s : Store) (c : ClassRef) : String :=
  let qualified := (s.textOf? (s.qualifiedName c)).getD c.name
  let home := match c.origin with
    | .builtin => some (BuiltinClass.home c.name)
    | _ => ((s.classInfo c).members.get? "__module__").bind s.textOf?
  match home with
  | none | some "builtins" => "<class '" ++ qualified ++ "'>"
  | some home => "<class '" ++ home ++ "." ++ qualified ++ "'>"

/-- An object of which nothing but its class is told, as it is written. -/
def Store.objectText (s : Store) (v : Value) : String :=
  let c := s.classOf v
  let qualified := (s.textOf? (s.qualifiedName c)).getD c.name
  let home := match c.origin with
    | .builtin => some (BuiltinClass.home c.name)
    | _ => ((s.classInfo c).members.get? "__module__").bind s.textOf?
  match home with
  | none | some "builtins" => "<" ++ qualified ++ " object at " ++ somewhere ++ ">"
  | some home => "<" ++ home ++ "." ++ qualified ++ " object at " ++ somewhere ++ ">"

/-- Writes a container, or writes it in short if it is being written. -/
def writingOnce (v : Value) (short : String) (x : Run String) : Run String := do
  if (← Run.store).writing.any (·.same v) then return short
  Run.change fun s => { s with writing := v :: s.writing }
  let result ← Run.attempt x
  Run.change fun s => { s with writing := s.writing.tail }
  match result with
  | .ok text => return text
  | .error e => throw e

/-- The values that a container holds as they are written, with commas between them. -/
def itemsWritten (call : Call) (items : List Value) : Run String := do
  return commaSeparated (← items.mapM (askWritten call))

/-- The entries of a dictionary as they are written. -/
def entriesWritten (call : Call) (entries : List (Value × Value)) : Run String := do
  let parts ← entries.mapM fun (key, held) => do
    let written ← askWritten call key
    return written ++ ": " ++ (← askWritten call held)
  return inBraces (commaSeparated parts)

/-- The arguments of an exception as they are written. -/
def argumentsWritten (call : Call) (items : List Value) : Run String := do
  match items with
  | [item] => return "(" ++ (← askWritten call item) ++ ")"
  | items => askWritten call (← Run.newTuple items)

/-- A value as it is written where a class is expected: a class by its full name. -/
def parameterWritten (call : Call) (v : Value) : Run String := do
  if v.typeClass == .builtin "ellipsis" then return "..."
  let isAlias ← if (← getMember? call v "__origin__").isSome then
      pure (← getMember? call v "__args__").isSome
    else pure false
  if isAlias then return ← askWritten call v
  match ← getMember? call v "__qualname__" with
  | none => askWritten call v
  | some name =>
    match ← getMember? call v "__module__" with
    | none | some .none => askWritten call v
    | some home =>
      let s ← Run.store
      let name := (s.textOf? name).getD ""
      return if s.textOf? home == some "builtins" then name
        else (s.textOf? home).getD "" ++ "." ++ name

/-- The text that a callable of the language is written as. -/
def slotText (kind : SlotKind) (owner name : String) : String :=
  match kind with
  | .operation => "<slot wrapper '" ++ name ++ "' of '" ++ owner ++ "' objects>"
  | .field => "<attribute '" ++ name ++ "' of '" ++ owner ++ "' objects>"
  | .stored => "<member '" ++ name ++ "' of '" ++ owner ++ "' objects>"
  | .maker => "<built-in method " ++ name ++ " of type object at " ++ somewhere ++ ">"
  | .function => "<function " ++ owner ++ "." ++ name ++ " at " ++ somewhere ++ ">"
  | _ => "<method '" ++ name ++ "' of '" ++ owner ++ "' objects>"

/-- The text that a value is written as, in the way of the builtin class `owner`. -/
def plainlyWritten (call : Call) (owner : String) (v : Value) : Run String := do
  let s ← Run.store
  let named (text : String) : String := s.classNameOf v ++ text
  match owner, s.content v with
  | "object", _ => return s.objectText v
  | "NotImplementedType", _ => return "NotImplemented"
  | "ellipsis", _ => return "Ellipsis"
  | _, .none => return "None"
  | _, .bool b => return if b then "True" else "False"
  | _, .int _ n => return toString n
  | _, .float _ text => return text
  | "bytes", .str _ codes => return bytesText codes
  | "bytearray", .str _ codes => return named ("(" ++ bytesText codes ++ ")")
  | _, .str _ text => return Text.quoted text
  | _, .list _ items =>
    writingOnce v "[...]" do return "[" ++ (← itemsWritten call items) ++ "]"
  | "set", .tuple _ items | "frozenset", .tuple _ items =>
    writingOnce v (named "(...)") do
      if items.isEmpty then return named "()"
      let text ← itemsWritten call (← itemsIn call v true)
      return if s.classOf v == .builtin "set" then inBraces text
        else named ("(" ++ inBraces text ++ ")")
  | "complex", .tuple _ [.float _ re, .float _ im] => return complexText (doubleOf re) (doubleOf im)
  | "range", .tuple _ [a, b, c] =>
    let bounds := if c.integer? == some 1 then [a, b] else [a, b, c]
    return "range(" ++ (← itemsWritten call bounds) ++ ")"
  | "slice", .tuple _ items => return "slice(" ++ (← itemsWritten call items) ++ ")"
  | "GenericAlias", .tuple _ (origin :: .tuple _ parameters :: unpacked) =>
    let written ← parameters.mapM (parameterWritten call)
    return (if unpacked.isEmpty then "" else "*") ++ (← parameterWritten call origin) ++ "["
      ++ (if written.isEmpty then "()" else commaSeparated written) ++ "]"
  | "UnionType", .tuple _ parts =>
    let written ← parts.mapM fun part => do
      if part.same (.cls (.builtin "NoneType")) then return "None" else parameterWritten call part
    return " | ".intercalate written
  | "mappingproxy", .tuple _ [d] => return "mappingproxy(" ++ (← askWritten call d) ++ ")"
  | "dict_keys", _ | "dict_values", _ | "dict_items", _ =>
    writingOnce v "..." do
      let items := (← heldItems? owner v).getD []
      return named ("([" ++ (← itemsWritten call items) ++ "])")
  | "BaseException", .tuple _ items => return named (← argumentsWritten call items)
  | _, .tuple _ [item] =>
    writingOnce v "(...)" do return "(" ++ (← askWritten call item) ++ ",)"
  | _, .tuple _ items =>
    writingOnce v "(...)" do return "(" ++ (← itemsWritten call items) ++ ")"
  | _, .dict _ entries => writingOnce v (inBraces "...") (entriesWritten call entries)
  | _, .cls c => return s.classText c
  | _, .function id =>
    let name := ((s.functions[id]?).bind fun f => s.textOf? f.qualifiedName).getD ""
    return "<function " ++ name ++ " at " ++ somewhere ++ ">"
  | _, .method _ receiver func =>
    let qualified ← getMember? call func "__qualname__"
    let name ← match qualified with
      | some name => pure (some name)
      | none => getMember? call func "__name__"
    let text := (name.bind (← Run.store).textOf?).getD "?"
    return "<bound method " ++ text ++ " of " ++ (← askWritten call receiver) ++ ">"
  | "super", .parent _ after receiver start =>
    let named (c : ClassRef) : String := (s.textOf? (s.classInfo c).name).getD c.name
    let viewed := match receiver with
      | .none => "NULL"
      | _ => "<" ++ named start ++ " object>"
    return "<super: <class '" ++ named after ++ "'>, " ++ viewed ++ ">"
  | _, .staticMethod _ func => return "<staticmethod(" ++ (← askWritten call func) ++ ")>"
  | _, .classMethod _ func => return "<classmethod(" ++ (← askWritten call func) ++ ")>"
  | _, .builtin name => return "<built-in function " ++ name ++ ">"
  | _, .slot kind owner name => return slotText kind owner name
  | _, .storage cls name =>
    let kind := if Value.keptByLanguage.contains name then .field else .stored
    return slotText kind ((s.textOf? (s.classInfo cls).name).getD cls.name) name
  | _, .boundSlot _ _ receiver _ name =>
    return "<built-in method " ++ name ++ " of " ++ s.classNameOf receiver ++ " object at "
      ++ somewhere ++ ">"
  | _, .module =>
    let name := ((s.globals.get? "__name__").bind s.textOf?).getD "?"
    return "<module '" ++ name ++ "'>"
  | _, .library name => return "<module '" ++ name ++ "' (built-in)>"
  | _, _ => return s.objectText v

/-- The text that a value is written as, so that it can be told apart from others. -/
def written (call : Call) (v : Value) : Run Value := do
  match (← Run.store).special? v "__repr__" with
  | some (.slot _ owner _) => do Run.newText (← plainlyWritten call owner v)
  | none => do Run.newText (← plainlyWritten call "object" v)
  | some operation => textFrom call operation v []

/-- The text of an exception of the builtin class `owner` with these arguments. -/
def faultText (call : Call) (owner : String) (v : Value) (items : List Value) : Run Value := do
  let s ← Run.store
  let field (name : String) : Option Value :=
    (v.contentMark?.bind fun mark => s.stored? mark (.builtin owner) name)
  match owner, items with
  | "KeyError", [item] => call (.builtin "repr") [item] []
  | "ImportError", _ =>
    match (field "msg").filter s.isText with
    | some text => return text
    | none => plain items
  | "OSError", _ =>
    match field "errno", field "strerror", field "filename" with
    | some n, some text, some file =>
      Run.newText ("[Errno " ++ (← askText call n) ++ "] " ++ (← askText call text) ++ ": "
        ++ (← askWritten call file))
    | some n, some text, none =>
      Run.newText ("[Errno " ++ (← askText call n) ++ "] " ++ (← askText call text))
    | _, _, _ => plain items
  | "SyntaxError", _ =>
    match field "msg" with
    | some text => call (.cls (.builtin "str")) [text] []
    | none => return sharedText "None"
  | _, items => plain items
where
  /-- The text of an exception with these arguments that says nothing else. -/
  plain : List Value → Run Value
    | [] => return sharedText ""
    | [item] => call (.cls (.builtin "str")) [item] []
    | items => do call (.cls (.builtin "str")) [← Run.newTuple items] []

/-- The text of a value in the way of the builtin class `owner`. -/
def plainText (call : Call) (owner : String) (v : Value) : Run Value := do
  let s ← Run.store
  match owner, s.content v with
  | "str", .str mark text => return .str mark text
  | "object", _ =>
    match s.special? v "__repr__" with
    | none | some (.slot _ _ _) => written call v
    | some operation => callSpecial call operation v []
  | owner, .tuple _ items =>
    if s.derives (.builtin owner) (.builtin "BaseException") then faultText call owner v items
    else written call v
  | "mappingproxy", _ => written call v
  | owner, _ => do Run.newText (← plainlyWritten call owner v)

/-- The text of a value for readers: a text itself, any other value as its class says. -/
def textOf (call : Call) (v : Value) : Run Value := do
  match v with
  | .str _ _ => return v
  | v =>
    match (← Run.store).special? v "__str__" with
    | some (.slot _ owner _) => do
      let text ← plainText call owner v
      if (← Run.store).isText text then return text else throw .badCall
    | none => written call v
    | some operation => textFrom call operation v []

/-- A text with a number for each character that is not of the first 128. -/
def asciiText (text : String) : String :=
  String.ofList (text.toList.flatMap fun c => if c.toNat < 128 then [c] else Text.numbered c)

/-! ### Layouts -/

/-- The text laid out by a specification that a value of the builtin class `owner` can follow. -/
def plainlyLaidOut (call : Call) (owner : String) (v : Value) (layout : String) : Run Value := do
  let s ← Run.store
  let kind := (s.textOf? (s.classInfo (s.classOf v)).name).getD ""
  let give (text : Except Text.Layout.Refusal (List Char)) : Run Value :=
    match text with
    | .ok text => Run.newText (String.ofList text)
    | .error (.unfit message) => throw (.badValue message)
    | .error .tooLarge => throw .tooLarge
  let numeric := Text.Layout.ofText true kind layout.toList
  match owner, s.content v with
  | "str", .str _ text =>
    if layout.isEmpty then textOf call v
    else
      let laid := (Text.Layout.ofText false kind layout.toList).bind fun l =>
        l.laidText kind text.toList
      -- a text that is not changed stays what it is
      if laid.toOption == some text.toList && !text.isEmpty then return v else give laid
  | "int", .int _ n =>
    if layout.isEmpty then textOf call v else give (numeric.bind fun l => l.laidInteger kind n)
  | "int", .bool b =>
    if layout.isEmpty then textOf call v
    else give (numeric.bind fun l => l.laidInteger kind b.toNat)
  | "float", .float _ text =>
    if layout.isEmpty then textOf call v
    else give (numeric.bind fun l => l.laidDouble kind (doubleOf text))
  | "complex", .tuple _ [.float _ re, .float _ im] =>
    if layout.isEmpty then textOf call v
    else give (numeric.bind fun l => l.laidComplex kind (doubleOf re) (doubleOf im))
  | "date", _ | "Decimal", _ =>
    if layout.isEmpty then textOf call v else throw (.badValue "invalid format string")
  | _, _ => if layout.isEmpty then textOf call v else throw .badCall

/-- A value laid out as its class says, by a specification. -/
def laidOut (call : Call) (v layout : Value) : Run Value := do
  let s ← Run.store
  match v, s.textOf? layout with
  | _, none => throw .badCall
  | .str mark text, some "" => return .str mark text
  | v, some text =>
    match s.special? v "__format__" with
    | some (.slot _ owner _) => plainlyLaidOut call owner v text
    | none => throw .badCall
    | some operation => textFrom call operation v [layout]

end DocGuard
