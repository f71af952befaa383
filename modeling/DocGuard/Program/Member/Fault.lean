import DocGuard.Program.Argument
/-!
What the members of the classes of exceptions do.

An exception keeps the arguments it was made with. Some classes take more out of them: what was
stopped with, the number and the text of a failure, where a text could not be read.
-/

namespace DocGuard

/-- Keeps something with an exception under a name, or empties the name. -/
def keepInFault (owner name : String) (v : Value) (held : Option Value) : Run Unit :=
  match v.contentMark? with
  | some mark => Run.changeStored mark (.builtin owner) name held
  | none => return ()

/-- Keeps several things with an exception. -/
def keepAllInFault (owner : String) (v : Value) (held : List (String × Value)) : Run Unit :=
  held.forM fun (name, w) => keepInFault owner name v (some w)

/-- Changes the arguments of an exception. -/
def setArguments (v : Value) (args : List Value) : Run Unit := do
  setContent v (.tuple (← Run.newMark) args)

/-- The errors of the system that have a class of their own, by number. -/
def systemErrors : List (Int × String) :=
  [(1, "PermissionError"), (2, "FileNotFoundError"), (3, "ProcessLookupError"),
   (4, "InterruptedError"), (10, "ChildProcessError"), (11, "BlockingIOError"),
   (13, "PermissionError"), (17, "FileExistsError"), (20, "NotADirectoryError"),
   (21, "IsADirectoryError"), (32, "BrokenPipeError"), (103, "ConnectionAbortedError"),
   (104, "ConnectionResetError"), (108, "BrokenPipeError"), (110, "TimeoutError"),
   (111, "ConnectionRefusedError"), (114, "BlockingIOError"), (115, "BlockingIOError")]

/-- The class of an error of the system with these arguments. -/
def systemErrorClass (s : Store) (c : ClassRef) (args : List Value) : ClassRef :=
  match c == .builtin "OSError", args with
  | true, n :: _ :: _ =>
    match decide (args.length ≤ 5), s.isOf "int" n, (s.content n).integer? with
    | true, true, some n => ((systemErrors.lookup n).map ClassRef.builtin).getD c
    | _, _, _ => c
  | _, _ => c

/-- Takes out of the arguments of an error of the system what it keeps. -/
def readSystemError (call : Call) (v : Value) (args : List Value) : Run Unit := do
  let s ← Run.store
  match decide (2 ≤ args.length && args.length ≤ 5), args with
  | true, n :: text :: rest =>
    keepAllInFault "OSError" v [("errno", n), ("strerror", text)]
    let file := rest.headD .none
    if !file.isAbsent then
      let blocking := s.isOf "BlockingIOError" v && (s.special? file "__index__").isSome
      if blocking then
        let written ← indexOf call file
        keepInFault "OSError" "characters_written" v (some (← Run.newInt written))
      else
        keepInFault "OSError" "filename" v (some file)
        if let some second := rest[2]? then
          if !second.isAbsent then keepInFault "OSError" "filename2" v (some second)
        setArguments v [n, text]
  | _, _ => return ()

/-- The keywords that an exception is made with. -/
def faultKeywords (owner : String) (v : Value) (names : List String)
    (keywords : Bindings Value) : Run Unit := do
  if keywords.any fun (name, _) => !names.contains name then throw .badCall
  names.forM fun name => keepInFault owner name v (keywords.get? name)

/-- Takes out of the arguments of a failure to read text what it keeps. -/
def readSyntaxError (call : Call) (v : Value) (args : List Value) : Run Unit := do
  if let some text := args.head? then keepInFault "SyntaxError" "msg" v (some text)
  match args with
  | [_, place] =>
    let s ← Run.store
    let told ← if s.isOf "tuple" place then pure place
      else call (.cls (.builtin "tuple")) [place] []
    let items := (← Run.store).itemsOf told
    if items.length != 4 && items.length != 6 then throw .badCall
    keepAllInFault "SyntaxError" v
      (["filename", "lineno", "offset", "text", "end_lineno", "end_offset"].zip items)
  | _ => return ()

/-- Takes out of the arguments of a failure to encode or to decode what it keeps. -/
def readEncodingError (call : Call) (owner : String) (v : Value) (args : List Value) :
    Run Unit := do
  let s ← Run.store
  let fit (object start stop reason : Value) : Run Unit := do
    let fits := if owner == "UnicodeDecodeError" then (s.bytesOf? object).isSome
      else s.isText object
    if !fits then throw .badCall
    let start ← sizeOf call start
    let stop ← sizeOf call stop
    if !(s.isText reason) then throw .badCall
    keepAllInFault owner v
      [("object", object), ("start", ← Run.newInt start), ("end", ← Run.newInt stop),
       ("reason", reason)]
  match owner, args with
  | "UnicodeTranslateError", [object, start, stop, reason] => fit object start stop reason
  | "UnicodeTranslateError", _ => throw .badCall
  | _, [encoding, object, start, stop, reason] => do
    if !s.isText encoding then throw .badCall
    keepInFault owner "encoding" v (some encoding)
    fit object start stop reason
  | _, _ => throw .badCall

/-- Initialises an exception in the way of the builtin class `owner`. -/
def initialiseFault (call : Call) (owner : String) (v : Value) (args : List Value)
    (keywords : Bindings Value) : Run Unit := do
  let s ← Run.store
  let derives (cls : String) : Bool := s.derives (.builtin owner) (.builtin cls)
  let named : Option (String × List String) :=
    if derives "ImportError" then some ("ImportError", ["name", "path"])
    else if derives "NameError" then some ("NameError", ["name"])
    else if derives "AttributeError" then some ("AttributeError", ["name", "obj"])
    else none
  if derives "OSError" then
    -- what the maker read is not read again
    let ownMaker := match s.special? v "__new__" with
      | some (.slot _ "OSError" _) => false
      | _ => true
    let ownStart := match s.special? v "__init__" with
      | some (.slot _ _ _) => false
      | _ => true
    if ownStart && !ownMaker then
      if !keywords.isEmpty then throw .badCall
      setArguments v args
      readSystemError call v args
    return ()
  match named with
  | some (cls, names) => do
    setArguments v args
    faultKeywords cls v names keywords
    if cls == "ImportError" then
      keepInFault cls "msg" v (if args.length = 1 then args.head? else none)
  | none =>
    if !keywords.isEmpty then throw .badCall
    setArguments v args
    if derives "StopIteration" then
      keepInFault "StopIteration" "value" v (some (args.headD .none))
    else if derives "SystemExit" then
      match args with
      | [] => return ()
      | [code] => keepInFault "SystemExit" "code" v (some code)
      | args => do keepInFault "SystemExit" "code" v (some (← Run.newTuple args))
    else if derives "SyntaxError" then readSyntaxError call v args
    else if ["UnicodeEncodeError", "UnicodeDecodeError", "UnicodeTranslateError"].contains owner
    then readEncodingError call owner v args
    else return ()

/-- A group of exceptions of a class, with a text and the exceptions in it. -/
def newFaultGroup (call : Call) (c : ClassRef) (args : List Value) (keywords : Bindings Value) :
    Run Value := do
  let s ← Run.store
  match args, keywords with
  | [text, faults], [] =>
    if !s.isText text then throw .badCall
    if (s.special? faults "__getitem__").isNone || s.isOf "set" faults || s.isOf "dict" faults then
      throw .badCall
    let items ← itemsIn call faults true
    if items.isEmpty then
      throw (.badValue "second argument (exceptions) must be a non-empty sequence")
    let s ← Run.store
    if let some n := items.findIdx? (!s.isOf "BaseException" ·) then
      throw (.badValue
        ("Item " ++ toString n ++ " of second argument (exceptions) is not an exception"))
    let plain := items.all (s.isOf "Exception")
    let c := if c == .builtin "BaseExceptionGroup" && plain then .builtin "ExceptionGroup" else c
    if s.derives c (.builtin "Exception") && !plain then throw .badCall
    let mark ← Run.newMark
    Run.changeContent mark (.tuple mark args)
    let v := Value.object mark c
    keepAllInFault "BaseExceptionGroup" v
      [("message", text), ("exceptions", ← Run.newTuple items)]
    return v
  | _, _ => throw .badCall

/-- Makes an exception in the way of the builtin class `owner`. -/
def makeFault (call : Call) (owner : String) (c : ClassRef) (args : List Value)
    (keywords : Bindings Value) : Run Value := do
  if owner == "BaseExceptionGroup" then return ← newFaultGroup call c args keywords
  let s ← Run.store
  let system := owner == "OSError"
  let plainStart := match s.inherited? c "__init__" with
    | some (.slot _ _ _) => true
    | _ => false
  let own := s.inherited? c "__new__"
  let reads := system && (plainStart || !own.any fun v => v.same (.slot .maker "OSError" "__new__"))
  if reads && !keywords.isEmpty then throw .badCall
  let c := if reads then systemErrorClass s c args else c
  let mark ← Run.newMark
  Run.changeContent mark (.tuple mark args)
  let v := Value.object mark c
  if reads then readSystemError call v args
  return v

/-- What a member of a class of exceptions does with an exception. -/
def faultMember (call : Call) (name : String) (v : Value) (args : Fitted) : Run Value := do
  let s ← Run.store
  match name, args with
  | "with_traceback", [some .none] => return v
  | "add_note", [some note] => do
    if !s.isText note then throw .badCall
    match ← getMember? call v "__notes__" with
    | some notes =>
      match s.isOf "list" notes, (← Run.store).content notes with
      | true, .list _ items => setContent notes (.list 0 (items ++ [note]))
      | _, _ => throw .badCall
    | none => setMember call v "__notes__" (← Run.newList [note])
    return .none
  | "__setstate__", [some .none] => return .none
  | "__setstate__", [some state] =>
    if !s.isOf "dict" state then throw .badCall
    (s.entries state).forM fun (key, held) => do
      setMember call v (← requireText key) held
    return .none
  | "__reduce__", [] => do
    let attributes := s.ownAttributes v
    let cls := Value.cls (s.classOf v)
    let given ← Run.newTuple (s.itemsOf v)
    if attributes.isEmpty then Run.newTuple [cls, given]
    else Run.newTuple [cls, given, .attributes v]
  | "derive", [some faults] => do
    let text ← getMember call v "message"
    call (.cls (.builtin "BaseExceptionGroup")) [text, faults] []
  | _, _ => throw .badCall

end DocGuard
