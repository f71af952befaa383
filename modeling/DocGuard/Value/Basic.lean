import DocGuard.ScalarType
/-!
Values, and how a check names their types.

A check sees two things of a value: whether it is absent, and the name of its type. A value that is
an instance of a scalar type has that type's canonical name; any other is named by its class, and a
class is named by itself. Here values are as they were made. What a program makes of them and of their
classes is asked of the program (see `DocGuard.typeNameOf`), and asking it can fail.

Values that are more than their content carry a mark, which tells apart two values of equal
content (see `DocGuard.Value.Identity`).
-/

namespace DocGuard

/-- The scalar type whose values a builtin class holds. -/
def ScalarType.ofClass? : String → Option ScalarType
  | "bool" => some .boolean
  | "int" => some .integer
  | "float" => some .double
  | "str" => some .string
  | _ => none

/-- The builtin class whose instances are the values of a scalar type. -/
def ScalarType.className : ScalarType → String
  | .boolean => "bool"
  | .integer => "int"
  | .double => "float"
  | .string => "str"

/-- Where a class comes from. -/
inductive ClassOrigin where
  /-- It belongs to the language. -/
  | builtin
  /-- It was made for the value written under this mark, and is derived from a builtin class. -/
  | written (mark : Nat) (base : String)
  /-- It was defined by a program; the number is its place among the classes defined. -/
  | defined (index : Nat)
deriving DecidableEq, Repr

/-- A class, as far as it can never change. -/
structure ClassRef where
  /-- The name given to the class. -/
  name : String
  /-- The scalar type of which its instances are values. -/
  scalar : Option ScalarType
  /-- What tells it apart from other classes of the same name. -/
  origin : ClassOrigin
deriving DecidableEq, Repr

namespace ClassRef

/-- The builtin class of a name. -/
def builtin (name : String) : ClassRef :=
  ⟨name, ScalarType.ofClass? name, .builtin⟩

/-- A class made for one written value, derived from a builtin class. -/
def derived (mark : Nat) (base name : String) : ClassRef :=
  ⟨name, ScalarType.ofClass? base, .written mark base⟩

/-- The instances of the class are values of a scalar type. Truth values are integers too. -/
def holds (c : ClassRef) (t : ScalarType) : Bool :=
  match c.scalar with
  | some s => s == t || (s == .boolean && t == .integer)
  | none => false

/-- The builtin classes of which the instances are classes. -/
def ofClasses : List String :=
  ["type", "ABCMeta"]

end ClassRef

/-- A builtin class that an object can show as its own without passing for a class. -/
structure ShownClass where
  name : String
  noClass : name ∉ ClassRef.ofClasses
deriving DecidableEq

/-- A function is known by its place among the functions defined. -/
abbrev FunctionId := Nat

/-- What a member of a builtin class is. -/
inductive SlotKind where
  /-- It carries out an operation of the language. -/
  | operation
  | method
  /-- A method that is reached through the class. -/
  | classMethod
  /-- It makes new instances. -/
  | maker
  /-- It is computed for each instance. -/
  | field
  /-- It is kept for each instance. -/
  | stored
  /-- A function that is a member as any other. -/
  | function
deriving DecidableEq, Repr

/-- The values that programs handle. -/
inductive Value where
  /-- The absent value. -/
  | none
  | bool (b : Bool)
  | int (mark : Nat) (n : Int)
  /-- A floating point number, given by its shortest text. -/
  | float (mark : Nat) (text : String)
  | str (mark : Nat) (s : String)
  /-- A list with the items it was made with. -/
  | list (mark : Nat) (items : List Value)
  | tuple (mark : Nat) (items : List Value)
  /-- A dictionary with the entries it was made with, in order. -/
  | dict (mark : Nat) (entries : List (Value × Value))
  /-- An instance of a class, as it was made. -/
  | object (mark : Nat) (cls : ClassRef)
  /-- An object that shows the builtin class `shown` as its own, although its own class, `name`, is
  not derived from it. -/
  | proxy (mark : Nat) (name : String) (shown : ShownClass)
  | cls (c : ClassRef)
  | function (id : FunctionId)
  /-- A callable together with the value it was reached through. -/
  | method (mark : Nat) (receiver func : Value)
  /-- A callable that ignores the value it is reached through. -/
  | staticMethod (mark : Nat) (func : Value)
  /-- A callable that is always reached through the class. -/
  | classMethod (mark : Nat) (func : Value)
  /-- A member that is read, set and deleted by calls. An accessor that is missing is absent. -/
  | property (mark : Nat) (getter setter deleter : Value)
  /-- The view of `receiver` in which only the classes after `after` in the ancestry of `start` have
  members. -/
  | parent (mark : Nat) (after : ClassRef) (receiver : Value) (start : ClassRef)
  /-- The code at a place of the program's text. -/
  | code (place : Nat)
  /-- A variable. -/
  | cell (id : Nat)
  /-- The dictionary in which `owner` keeps its attributes. -/
  | attributes (owner : Value)
  /-- The member by which instances of `cls` keep something of their own under a name. -/
  | storage (cls : ClassRef) (name : String)
  /-- A callable of the language. -/
  | builtin (name : String)
  /-- What the builtin class `owner` has under the name `name`. -/
  | slot (kind : SlotKind) (owner name : String)
  /-- What the builtin class `owner` has under the name `name`, together with the value it was
  reached through. -/
  | boundSlot (mark : Nat) (kind : SlotKind) (receiver : Value) (owner name : String)
  /-- The module that the program is. -/
  | module
  /-- A module of the language. -/
  | library (name : String)

namespace SlotKind

/-- The class of a member that a builtin class has. -/
def memberClass : SlotKind → String
  | operation => "wrapper_descriptor"
  | method => "method_descriptor"
  | classMethod => "classmethod_descriptor"
  | maker => "builtin_function_or_method"
  | field => "getset_descriptor"
  | stored => "member_descriptor"
  | function => "function"

/-- The class of such a member when it is bound to the value it was reached through. -/
def boundClass : SlotKind → String
  | operation => "method-wrapper"
  | _ => "builtin_function_or_method"

end SlotKind

namespace Value

/-- What instances of a class keep for the language: their attributes, and who refers to them. -/
def keptByLanguage : List String :=
  ["__dict__", "__weakref__"]

/-- The class that a value was made with. -/
def typeClass : Value → ClassRef
  | none => .builtin "NoneType"
  | bool _ => .builtin "bool"
  | int _ _ => .builtin "int"
  | float _ _ => .builtin "float"
  | str _ _ => .builtin "str"
  | list _ _ => .builtin "list"
  | tuple _ _ => .builtin "tuple"
  | dict _ _ => .builtin "dict"
  | object _ c => c
  | proxy mark name _ => .derived mark "object" name
  | cls _ => .builtin "type"
  | function _ => .builtin "function"
  | method _ _ _ => .builtin "method"
  | staticMethod _ _ => .builtin "staticmethod"
  | classMethod _ _ => .builtin "classmethod"
  | property _ _ _ _ => .builtin "property"
  | parent _ _ _ _ => .builtin "super"
  | code _ => .builtin "code"
  | cell _ => .builtin "cell"
  | attributes _ => .builtin "dict"
  | storage _ name =>
    .builtin (if keptByLanguage.contains name then "getset_descriptor" else "member_descriptor")
  | builtin _ => .builtin "builtin_function_or_method"
  | slot kind _ _ => .builtin kind.memberClass
  | boundSlot _ kind _ _ _ => .builtin kind.boundClass
  | module => .builtin "module"
  | library _ => .builtin "module"

/-- The class that a value shows as its own: its own, unless it is a proxy. -/
def shownClass : Value → ClassRef
  | proxy _ _ shown => .builtin shown.name
  | v => v.typeClass

/-- The name of a class, or of the class that any other value shows. -/
def className : Value → String
  | cls c => c.name
  | v => v.shownClass.name

/-- The value is an instance of a scalar type, by its own class or by the one that it shows. -/
def isA (v : Value) (t : ScalarType) : Bool :=
  v.typeClass.holds t || v.shownClass.holds t

/-- The name of the value's type: the first scalar type of which it is an instance, else its class
name. -/
def typeName (v : Value) : String :=
  match ScalarType.all.find? v.isA with
  | some t => t.name
  | Option.none => v.className

/-- The value is nothing but its content, and of a builtin class. -/
def isPlain : Value → Bool
  | none | bool _ | int _ _ | float _ _ | str _ _ | list _ _ | tuple _ _ | dict _ _
  | attributes _ => true
  | _ => false

/-- The value that says that an operation has no answer. -/
def noAnswer : Value :=
  object 0 (.builtin "NotImplementedType")

/-- The value says that an operation has no answer. -/
def isNoAnswer (v : Value) : Bool :=
  v.typeClass == .builtin "NotImplementedType"

/-- The value counts as not supplied. -/
def isAbsent : Value → Bool
  | none => true
  | _ => false

end Value

end DocGuard
