import DocGuard.Program.Builtin.Class
/-!
How much room the instances of classes take.

A class says how many bytes an instance takes, how many more each item, and where in it the
attributes and the weak references stand. A class that is derived from another adds what its
instances keep beyond those of the other.
-/

namespace DocGuard

/-- The room that the instances of a class take. -/
structure Extent where
  /-- The bytes of an instance. -/
  bytes : Nat
  /-- The bytes of each of its items. -/
  perItem : Nat
  /-- Where the attributes stand; 0 if there are none, and negative if they are found otherwise. -/
  attributesAt : Int
  /-- Where the weak references stand; 0 if there are none. -/
  referencesAt : Nat
  /-- Traits of the class, each one bit. -/
  traits : Nat
deriving DecidableEq, Repr

namespace Extent

/-- The room that the instances of a builtin class take. -/
def ofBuiltin (name : String) : Extent :=
  match name with
  | "object" => ⟨16, 0, 0, 0, 5376⟩
  | "type" => ⟨904, 40, 264, 368, 2147507456⟩
  | "ABCMeta" => ⟨904, 40, 264, 368, 2147505664⟩
  | "int" => ⟨24, 4, 0, 0, 20976896⟩
  | "bool" => ⟨32, 4, 0, 0, 20975872⟩
  | "float" => ⟨24, 0, 0, 0, 4199680⟩
  | "complex" => ⟨32, 0, 0, 0, 5376⟩
  | "str" => ⟨80, 0, 0, 0, 272635136⟩
  | "bytes" => ⟨33, 1, 0, 0, 138417408⟩
  | "bytearray" => ⟨56, 0, 0, 0, 4199680⟩
  | "memoryview" => ⟨144, 8, 0, 136, 20768⟩
  | "tuple" => ⟨24, 8, 0, 0, 71324960⟩
  | "list" => ⟨40, 0, 0, 0, 37770528⟩
  | "dict" => ⟨48, 0, 0, 0, 541087040⟩
  | "set" | "frozenset" => ⟨200, 0, 0, 192, 4216064⟩
  | "range" => ⟨48, 0, 0, 0, 4384⟩
  | "slice" => ⟨40, 0, 0, 0, 20736⟩
  | "mappingproxy" => ⟨24, 0, 0, 0, 20800⟩
  | "NoneType" | "ellipsis" | "NotImplementedType" => ⟨16, 0, 0, 0, 4352⟩
  | "function" => ⟨136, 0, 88, 96, 153856⟩
  | "method" => ⟨48, 0, 0, 32, 22784⟩
  | "module" => ⟨56, 0, 16, 40, 21760⟩
  | "code" => ⟨184, 2, 0, 144, 4352⟩
  | "cell" => ⟨24, 0, 0, 0, 20736⟩
  | "property" => ⟨64, 0, 0, 0, 21760⟩
  | "classmethod" | "staticmethod" => ⟨32, 0, 24, 0, 21760⟩
  | "super" => ⟨40, 0, 0, 0, 21760⟩
  | "builtin_function_or_method" => ⟨56, 0, 0, 40, 22912⟩
  | "wrapper_descriptor" => ⟨56, 0, 0, 0, 151936⟩
  | "method_descriptor" => ⟨56, 0, 0, 0, 153984⟩
  | "classmethod_descriptor" => ⟨56, 0, 0, 0, 20864⟩
  | "getset_descriptor" | "member_descriptor" => ⟨48, 0, 0, 0, 20864⟩
  | "GenericAlias" => ⟨64, 0, 0, 40, 23808⟩
  | "generator" => ⟨152, 8, 0, 24, 20864⟩
  | "filter" | "map" | "reversed" => ⟨32, 0, 0, 0, 21760⟩
  | "enumerate" => ⟨56, 0, 0, 0, 21760⟩
  | "zip" => ⟨48, 0, 0, 0, 21760⟩
  | "dict_keys" | "dict_values" | "dict_items" | "generic_alias_iterator" => ⟨24, 0, 0, 0, 20864⟩
  | "range_iterator" | "longrange_iterator" => ⟨48, 0, 0, 0, 4480⟩
  | "set_iterator" | "memory_iterator" => ⟨48, 0, 0, 0, 20864⟩
  | "dict_keyiterator" | "dict_valueiterator" | "dict_itemiterator" | "dict_reversekeyiterator"
  | "dict_reversevalueiterator" | "dict_reverseitemiterator" => ⟨56, 0, 0, 0, 20864⟩
  | "Decimal" => ⟨104, 0, 0, 0, 5376⟩
  | "Fraction" => ⟨32, 0, 0, 0, 22016⟩
  | "Number" => ⟨16, 0, 0, 0, 22016⟩
  | "Rational" | "Real" | "Complex" => ⟨16, 0, 0, 0, 1070592⟩
  | "ExceptionGroup" => ⟨96, 0, 16, 88, 1073763840⟩
  | name =>
    match (BuiltinClass.ofName name).layout with
    | "BaseException" => ⟨72, 0, 16, 0, 1073763584⟩
    | "SystemExit" | "NameError" | "StopIteration" => ⟨80, 0, 16, 0, 1073763584⟩
    | "BaseExceptionGroup" | "AttributeError" => ⟨88, 0, 16, 0, 1073763584⟩
    | "ImportError" => ⟨96, 0, 16, 0, 1073763584⟩
    | "OSError" | "UnicodeDecodeError" | "UnicodeEncodeError" | "UnicodeTranslateError" =>
      ⟨112, 0, 16, 0, 1073763584⟩
    | "SyntaxError" => ⟨136, 0, 16, 0, 1073763584⟩
    | _ => ⟨32, 0, 0, 0, 20864⟩

/-- The traits that a derived class has of the class that it extends. -/
def inherited : Nat :=
  Nat.pow 2 4 ||| Nat.pow 2 5 ||| Nat.pow 2 6 ||| Nat.pow 2 14 ||| Nat.pow 2 22 ||| (255 <<< 24)

/-- The room that instances take which keep more than those of a class. The attributes of an
instance without items take no room in it. -/
def keeping (e : Extent) (kept : List String) : Extent :=
  let given := kept.contains "__dict__"
  let apart := given && e.perItem = 0
  let bytes := e.bytes + 8 * kept.length - if apart then 8 else 0
  { bytes
    perItem := e.perItem
    attributesAt := if apart then -(bytes + 24) else if given then -8 else e.attributesAt
    referencesAt := if kept.contains "__weakref__" then bytes - 8 else e.referencesAt
    traits := (e.traits &&& inherited) ||| Nat.pow 2 9 ||| Nat.pow 2 10 ||| Nat.pow 2 12
      ||| (if kept.isEmpty then 0 else Nat.pow 2 14) ||| if apart then Nat.pow 2 4 else 0 }

end Extent

end DocGuard
