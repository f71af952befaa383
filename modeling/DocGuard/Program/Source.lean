import DocGuard.Program.Signature
/-!
The text of a program.

A program defines functions, classes, properties and values, and calls them. The body of a function
is a list of actions. Each definition of a function or class carries its place in the text: all
functions made by one definition run the same code. A definition has the name that it shows and the
key that it binds; how these follow from the name as it was written is told by
`DocGuard.Program.Spelling`.
-/

namespace DocGuard

/-- A name in a path, read or called without arguments. -/
structure PathPart where
  name : String
  called : Bool
deriving DecidableEq, Repr

/-- A path: a name and the members taken from its value, one from the other. -/
structure Path where
  head : PathPart
  members : List PathPart
deriving DecidableEq, Repr

namespace PathPart

/-- Reads one part of a path: a name, followed by parentheses if it is called. -/
def ofText (text : List Char) : PathPart :=
  match text.reverse with
  | ')' :: '(' :: name => ⟨String.ofList name.reverse, true⟩
  | _ => ⟨String.ofList text, false⟩

end PathPart

namespace Path

/-- The path that is a plain name. -/
def ofName (name : String) : Path :=
  ⟨⟨name, false⟩, []⟩

/-- The pieces of a text between its dots. -/
def pieces : List Char → List (List Char)
  | [] => [[]]
  | c :: rest =>
    if c = '.' then [] :: pieces rest
    else match pieces rest with
      | [] => [[c]]
      | piece :: more => (c :: piece) :: more

/-- Reads a path, the parts of which are separated by dots. -/
def ofText (text : String) : Path :=
  match (pieces text.toList).map PathPart.ofText with
  | [] => ⟨⟨"", false⟩, []⟩
  | head :: members => ⟨head, members⟩

/-- The path is a plain name. -/
def name? (path : Path) : Option String :=
  if path.members.isEmpty && !path.head.called then some path.head.name else none

end Path

/-- What stands for a value. -/
inductive Expr where
  /-- A value written out. -/
  | literal (v : Value)
  /-- A list of which some items have to be evaluated. -/
  | list (items : List Expr)
  /-- The value of a path where it stands. -/
  | path (p : Path)

/-- How a function of a class is reached. -/
inductive MethodKind where
  /-- Through a value, which becomes its first argument. -/
  | plain
  /-- Without a receiver. -/
  | static
  /-- Through the class, which becomes its first argument. -/
  | classLevel
deriving DecidableEq, Repr

/-- The options of a check as a program gives them. -/
structure OptionNames where
  /-- The names of the styles. -/
  styles : List String
  /-- The name of the reaction to a mismatch. -/
  reaction : Option String
deriving DecidableEq, Repr

/-- A function definition without its body. -/
structure FunctionHead where
  /-- The name as it was written, under which calls are reported. -/
  label : String
  /-- The name that the function shows. -/
  name : String
  /-- The name that the definition binds. -/
  key : String
  /-- The place of the definition in the text. -/
  place : Nat
  params : List (Param Expr)
  doc : Expr
  kind : MethodKind
  /-- The options under which calls are guarded, if they are. -/
  guard : Option OptionNames

/-- A class definition without its members. -/
structure ClassHead where
  /-- The name that the class shows. -/
  name : String
  /-- The name that the definition binds. -/
  key : String
  /-- The place of the definition in the text. -/
  place : Nat
  bases : List Path
  doc : Expr

mutual

/-- One action of a function's body. -/
inductive Action where
  /-- Check the arguments of the running function; with `nested`, from a function without a name
  inside it. -/
  | validate (options : OptionNames) (nested : Bool)
  /-- Describe the call that is `depth` frames out; with `nested`, from a function without a name
  inside the running one. -/
  | describe (depth : Int) (nested : Bool)
  /-- Call, and keep the result under a name if one is given. -/
  | call (target : Path) (args : List Expr) (keywords : Bindings Expr) (result : Option String)
  | set (target : Path) (value : Expr)
  | delete (target : Path)
  | define (definition : Definition)
  | get (target : Path)
  | return (value : Expr)

/-- A definition. -/
inductive Definition where
  | function (head : FunctionHead) (body : List Action)
  | cls (head : ClassHead) (members : List Definition)
  | property (key : String) (getter setter : Accessor)
  | value (key : String) (value : Expr)

/-- An accessor of a property, which may be missing. -/
inductive Accessor where
  | missing
  | given (head : FunctionHead) (body : List Action)

end

/-- The name that a definition binds. -/
def Definition.key : Definition → String
  | function head _ => head.key
  | cls head _ => head.key
  | property key _ _ => key
  | value key _ => key

end DocGuard
