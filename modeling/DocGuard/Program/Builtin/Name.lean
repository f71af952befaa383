import DocGuard.Program.Builtin.Class
/-!
What names mean in every program.

Most classes of the language have a name that every program can use, and so have many of its
callables and a few values. A program can give each of these names another meaning.
-/

namespace DocGuard

/-- The classes of the language that no name stands for. -/
def namelessClasses : List String :=
  ["NoneType", "ellipsis", "NotImplementedType", "function", "method", "module", "code", "cell",
   "builtin_function_or_method", "wrapper_descriptor", "method-wrapper", "method_descriptor",
   "classmethod_descriptor", "getset_descriptor", "member_descriptor", "mappingproxy",
   "generator", "dict_keys", "dict_values", "dict_items", "list_iterator",
   "list_reverseiterator", "tuple_iterator", "dict_keyiterator", "dict_valueiterator",
   "dict_itemiterator", "dict_reversekeyiterator", "dict_reversevalueiterator",
   "dict_reverseitemiterator", "set_iterator", "str_ascii_iterator", "str_iterator",
   "bytes_iterator", "bytearray_iterator", "range_iterator", "longrange_iterator",
   "memory_iterator", "callable_iterator", "iterator", "generic_alias_iterator", "GenericAlias",
   "UnionType", "date", "Decimal", "Fraction", "Rational", "Real", "Complex",
   "Number", "ABCMeta"]

/-- The callables of the language that have a name in every program. -/
def namedCallables : List String :=
  ["__build_class__", "__import__", "abs", "aiter", "all", "anext", "any", "ascii", "bin",
   "breakpoint", "callable", "chr", "compile", "delattr", "dir", "divmod", "eval", "exec",
   "format", "getattr", "globals", "hasattr", "hash", "hex", "id", "input", "isinstance",
   "issubclass", "iter", "len", "locals", "max", "min", "next", "oct", "open", "ord", "pow",
   "print", "repr", "round", "setattr", "sorted", "sum", "vars"]

/-- The values of the language that have a name in every program. -/
def namedValues : List (String × Value) :=
  [("None", .none), ("True", .bool true), ("False", .bool false), ("NotImplemented", .noAnswer),
   ("Ellipsis", .object 0 (.builtin "ellipsis")), ("__debug__", .bool true),
   ("__name__", .str 0 "builtins"), ("EnvironmentError", .cls (.builtin "OSError")),
   ("IOError", .cls (.builtin "OSError"))]

/-- What a name means in every program. -/
def builtin? (name : String) : Option Value :=
  if namedCallables.contains name then some (.builtin name)
  else if namelessClasses.contains name then none
  else if BuiltinClass.all.any fun c => c.name == name then some (.cls (.builtin name))
  else namedValues.lookup name

end DocGuard
