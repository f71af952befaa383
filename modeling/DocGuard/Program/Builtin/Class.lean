import DocGuard.Value.Basic
/-!
The classes of the language.

`BuiltinClass` describes what a class of the language is for the classes that derive from it and for
the values that are looked into: its parent, whether a class may derive from it, how its instances
are laid out, and its members in order, each with its form. `BuiltinClass.all` lists the classes.
-/

namespace DocGuard

/-- What a class of the language holds under a name. -/
inductive MemberForm where
  /-- A member that the class defines. -/
  | slot (kind : SlotKind)
  /-- A property. -/
  | accessor
  /-- A function that is reached through the class. -/
  | classFunction
  /-- Nothing: the class says that it has no such member. -/
  | nothing
  /-- Its documentation. -/
  | doc
  /-- The name of the module that it belongs to. -/
  | home
deriving DecidableEq, Repr

/-- A class of the language. -/
structure BuiltinClass where
  name : String
  /-- The class that it derives from; only `object` derives from none. -/
  parent : Option String
  /-- The class that determines how instances are laid out. -/
  layout : String
  /-- A class may derive from it. -/
  derivable : Bool
  /-- Its instances can be given attributes. -/
  attributed : Bool
  /-- The names of its members in order, by form. -/
  members : List (MemberForm × List String)

namespace BuiltinClass

/-- An exception that has nothing of its own but an initialiser, and a maker if `makes` holds. -/
def exception (name parent : String) (makes : Bool) : BuiltinClass :=
  ⟨name, some parent, "BaseException", true, true,
    (if makes then [(.slot .maker, ["__new__"])] else [])
      ++ [(.slot .operation, ["__init__"]), (.doc, ["__doc__"])]⟩

/-- The exceptions that have nothing of their own but an initialiser. -/
def plainExceptions : List BuiltinClass :=
  [exception "Exception" "BaseException" true,
   exception "GeneratorExit" "BaseException" true,
   exception "KeyboardInterrupt" "BaseException" true,
   exception "ArithmeticError" "Exception" true,
   exception "AssertionError" "Exception" true,
   exception "BufferError" "Exception" true,
   exception "EOFError" "Exception" true,
   exception "LookupError" "Exception" true,
   exception "MemoryError" "Exception" true,
   exception "ReferenceError" "Exception" true,
   exception "RuntimeError" "Exception" true,
   exception "StopAsyncIteration" "Exception" true,
   exception "SystemError" "Exception" true,
   exception "TypeError" "Exception" true,
   exception "ValueError" "Exception" true,
   exception "Warning" "Exception" true,
   exception "FloatingPointError" "ArithmeticError" true,
   exception "OverflowError" "ArithmeticError" true,
   exception "ZeroDivisionError" "ArithmeticError" true,
   exception "BytesWarning" "Warning" true,
   exception "DeprecationWarning" "Warning" true,
   exception "EncodingWarning" "Warning" true,
   exception "FutureWarning" "Warning" true,
   exception "ImportWarning" "Warning" true,
   exception "PendingDeprecationWarning" "Warning" true,
   exception "ResourceWarning" "Warning" true,
   exception "RuntimeWarning" "Warning" true,
   exception "SyntaxWarning" "Warning" true,
   exception "UnicodeWarning" "Warning" true,
   exception "UserWarning" "Warning" true,
   exception "IndexError" "LookupError" true,
   exception "NotImplementedError" "RuntimeError" true,
   exception "RecursionError" "RuntimeError" true,
   exception "UnicodeError" "ValueError" true]

/-- The classes of numbers, texts and containers, and of what belongs to them. -/
def values : List BuiltinClass :=
  [⟨"bool", some "int", "bool", false, false,
    [(.slot .maker, ["__new__"]),
     (.slot .operation, ["__repr__", "__and__", "__rand__", "__xor__", "__rxor__", "__or__",
       "__ror__"]),
     (.doc, ["__doc__"])]⟩,
   ⟨"memoryview", some "object", "memoryview", false, false,
    [(.slot .maker, ["__new__"]),
     (.slot .operation, ["__repr__", "__hash__", "__getattribute__", "__lt__", "__le__",
       "__eq__", "__ne__", "__gt__", "__ge__", "__iter__", "__len__", "__getitem__",
       "__setitem__", "__delitem__"]),
     (.slot .method, ["release", "tobytes", "hex", "tolist", "cast", "toreadonly", "__enter__",
       "__exit__"]),
     (.slot .field, ["obj", "nbytes", "readonly", "itemsize", "format", "ndim", "shape",
       "strides", "suboffsets", "c_contiguous", "f_contiguous", "contiguous"]),
     (.doc, ["__doc__"])]⟩,
   ⟨"bytearray", some "object", "bytearray", true, false,
    [(.slot .maker, ["__new__"]),
     (.slot .operation, ["__repr__", "__str__", "__getattribute__", "__lt__", "__le__",
       "__eq__", "__ne__", "__gt__", "__ge__", "__iter__", "__init__", "__mod__", "__rmod__",
       "__len__", "__getitem__", "__setitem__", "__delitem__", "__add__", "__mul__",
       "__rmul__", "__contains__", "__iadd__", "__imul__"]),
     (.slot .method, ["__alloc__", "__reduce__", "__reduce_ex__", "__sizeof__", "append",
       "capitalize", "center", "clear", "copy", "count", "decode", "endswith", "expandtabs",
       "extend", "find"]),
     (.slot .classMethod, ["fromhex"]),
     (.slot .method, ["hex", "index", "insert", "isalnum", "isalpha", "isascii", "isdigit",
       "islower", "isspace", "istitle", "isupper", "join", "ljust", "lower", "lstrip"]),
     (.slot .maker, ["maketrans"]),
     (.slot .method, ["partition", "pop", "remove", "replace", "removeprefix", "removesuffix",
       "reverse", "rfind", "rindex", "rjust", "rpartition", "rsplit", "rstrip", "split",
       "splitlines", "startswith", "strip", "swapcase", "title", "translate", "upper", "zfill"]),
     (.doc, ["__doc__"]),
     (.nothing, ["__hash__"])]⟩,
   ⟨"bytes", some "object", "bytes", true, false,
    [(.slot .maker, ["__new__"]),
     (.slot .operation, ["__repr__", "__hash__", "__str__", "__getattribute__", "__lt__",
       "__le__", "__eq__", "__ne__", "__gt__", "__ge__", "__iter__", "__mod__", "__rmod__",
       "__len__", "__getitem__", "__add__", "__mul__", "__rmul__", "__contains__"]),
     (.slot .method, ["__getnewargs__", "__bytes__", "capitalize", "center", "count", "decode",
       "endswith", "expandtabs", "find"]),
     (.slot .classMethod, ["fromhex"]),
     (.slot .method, ["hex", "index", "isalnum", "isalpha", "isascii", "isdigit", "islower",
       "isspace", "istitle", "isupper", "join", "ljust", "lower", "lstrip"]),
     (.slot .maker, ["maketrans"]),
     (.slot .method, ["partition", "replace", "removeprefix", "removesuffix", "rfind",
       "rindex", "rjust", "rpartition", "rsplit", "rstrip", "split", "splitlines",
       "startswith", "strip", "swapcase", "title", "translate", "upper", "zfill"]),
     (.doc, ["__doc__"])]⟩,
   ⟨"classmethod", some "object", "classmethod", true, true,
    [(.slot .maker, ["__new__"]),
     (.slot .operation, ["__repr__", "__get__", "__init__"]),
     (.slot .stored, ["__func__", "__wrapped__"]),
     (.slot .field, ["__isabstractmethod__", "__dict__"]),
     (.doc, ["__doc__"])]⟩,
   ⟨"complex", some "object", "complex", true, false,
    [(.slot .maker, ["__new__"]),
     (.slot .operation, ["__repr__", "__hash__", "__getattribute__", "__lt__", "__le__",
       "__eq__", "__ne__", "__gt__", "__ge__", "__add__", "__radd__", "__sub__", "__rsub__",
       "__mul__", "__rmul__", "__pow__", "__rpow__", "__neg__", "__pos__", "__abs__",
       "__bool__", "__truediv__", "__rtruediv__"]),
     (.slot .method, ["conjugate", "__complex__", "__getnewargs__", "__format__"]),
     (.slot .stored, ["real", "imag"]),
     (.doc, ["__doc__"])]⟩,
   ⟨"dict", some "object", "dict", true, false,
    [(.slot .maker, ["__new__"]),
     (.slot .operation, ["__repr__"]),
     (.nothing, ["__hash__"]),
     (.slot .operation, ["__getattribute__", "__lt__", "__le__", "__eq__", "__ne__", "__gt__",
       "__ge__", "__iter__", "__init__", "__or__", "__ror__", "__ior__", "__len__"]),
     (.slot .method, ["__getitem__"]),
     (.slot .operation, ["__setitem__", "__delitem__"]),
     (.slot .method, ["__contains__", "__sizeof__", "get", "setdefault", "pop", "popitem",
       "keys", "items", "values", "update"]),
     (.slot .classMethod, ["fromkeys"]),
     (.slot .method, ["clear", "copy", "__reversed__"]),
     (.slot .classMethod, ["__class_getitem__"]),
     (.doc, ["__doc__"])]⟩,
   ⟨"enumerate", some "object", "enumerate", true, false,
    [(.slot .maker, ["__new__"]),
     (.slot .operation, ["__getattribute__", "__iter__", "__next__"]),
     (.slot .method, ["__reduce__"]),
     (.slot .classMethod, ["__class_getitem__"]),
     (.doc, ["__doc__"])]⟩,
   ⟨"filter", some "object", "filter", true, false,
    [(.slot .maker, ["__new__"]),
     (.slot .operation, ["__getattribute__", "__iter__", "__next__"]),
     (.slot .method, ["__reduce__"]),
     (.doc, ["__doc__"])]⟩,
   ⟨"float", some "object", "float", true, false,
    [(.slot .maker, ["__new__"]),
     (.slot .operation, ["__repr__", "__hash__", "__getattribute__", "__lt__", "__le__",
       "__eq__", "__ne__", "__gt__", "__ge__", "__add__", "__radd__", "__sub__", "__rsub__",
       "__mul__", "__rmul__", "__mod__", "__rmod__", "__divmod__", "__rdivmod__", "__pow__",
       "__rpow__", "__neg__", "__pos__", "__abs__", "__bool__", "__int__", "__float__",
       "__floordiv__", "__rfloordiv__", "__truediv__", "__rtruediv__"]),
     (.slot .method, ["conjugate", "__trunc__", "__floor__", "__ceil__", "__round__",
       "as_integer_ratio"]),
     (.slot .classMethod, ["fromhex"]),
     (.slot .method, ["hex", "is_integer", "__getnewargs__"]),
     (.slot .classMethod, ["__getformat__"]),
     (.slot .method, ["__format__"]),
     (.slot .field, ["real", "imag"]),
     (.doc, ["__doc__"])]⟩,
   ⟨"frozenset", some "object", "frozenset", true, false,
    [(.slot .maker, ["__new__"]),
     (.slot .operation, ["__repr__", "__hash__", "__getattribute__", "__lt__", "__le__",
       "__eq__", "__ne__", "__gt__", "__ge__", "__iter__", "__sub__", "__rsub__", "__and__",
       "__rand__", "__xor__", "__rxor__", "__or__", "__ror__", "__len__"]),
     (.slot .method, ["__contains__", "copy", "difference", "intersection", "isdisjoint",
       "issubset", "issuperset", "__reduce__", "__sizeof__", "symmetric_difference", "union"]),
     (.slot .classMethod, ["__class_getitem__"]),
     (.doc, ["__doc__"])]⟩,
   ⟨"property", some "object", "property", true, false,
    [(.slot .maker, ["__new__"]),
     (.slot .operation, ["__getattribute__", "__get__", "__set__", "__delete__", "__init__"]),
     (.slot .method, ["getter", "setter", "deleter", "__set_name__"]),
     (.slot .stored, ["fget", "fset", "fdel", "__doc__"]),
     (.slot .field, ["__isabstractmethod__"])]⟩,
   ⟨"int", some "object", "int", true, false,
    [(.slot .maker, ["__new__"]),
     (.slot .operation, ["__repr__", "__hash__", "__getattribute__", "__lt__", "__le__",
       "__eq__", "__ne__", "__gt__", "__ge__", "__add__", "__radd__", "__sub__", "__rsub__",
       "__mul__", "__rmul__", "__mod__", "__rmod__", "__divmod__", "__rdivmod__", "__pow__",
       "__rpow__", "__neg__", "__pos__", "__abs__", "__bool__", "__invert__", "__lshift__",
       "__rlshift__", "__rshift__", "__rrshift__", "__and__", "__rand__", "__xor__",
       "__rxor__", "__or__", "__ror__", "__int__", "__float__", "__floordiv__",
       "__rfloordiv__", "__truediv__", "__rtruediv__", "__index__"]),
     (.slot .method, ["conjugate", "bit_length", "bit_count", "to_bytes"]),
     (.slot .classMethod, ["from_bytes"]),
     (.slot .method, ["as_integer_ratio", "__trunc__", "__floor__", "__ceil__", "__round__",
       "__getnewargs__", "__format__", "__sizeof__"]),
     (.slot .field, ["real", "imag", "numerator", "denominator"]),
     (.doc, ["__doc__"])]⟩,
   ⟨"list", some "object", "list", true, false,
    [(.slot .maker, ["__new__"]),
     (.slot .operation, ["__repr__"]),
     (.nothing, ["__hash__"]),
     (.slot .operation, ["__getattribute__", "__lt__", "__le__", "__eq__", "__ne__", "__gt__",
       "__ge__", "__iter__", "__init__", "__len__"]),
     (.slot .method, ["__getitem__"]),
     (.slot .operation, ["__setitem__", "__delitem__", "__add__", "__mul__", "__rmul__",
       "__contains__", "__iadd__", "__imul__"]),
     (.slot .method, ["__reversed__", "__sizeof__", "clear", "copy", "append", "insert",
       "extend", "pop", "remove", "index", "count", "reverse", "sort"]),
     (.slot .classMethod, ["__class_getitem__"]),
     (.doc, ["__doc__"])]⟩,
   ⟨"map", some "object", "map", true, false,
    [(.slot .maker, ["__new__"]),
     (.slot .operation, ["__getattribute__", "__iter__", "__next__"]),
     (.slot .method, ["__reduce__"]),
     (.doc, ["__doc__"])]⟩,
   ⟨"object", none, "object", true, false,
    [(.slot .maker, ["__new__"]),
     (.slot .operation, ["__repr__", "__hash__", "__str__", "__getattribute__", "__setattr__",
       "__delattr__", "__lt__", "__le__", "__eq__", "__ne__", "__gt__", "__ge__", "__init__"]),
     (.slot .method, ["__reduce_ex__", "__reduce__", "__getstate__"]),
     (.slot .classMethod, ["__subclasshook__", "__init_subclass__"]),
     (.slot .method, ["__format__", "__sizeof__", "__dir__"]),
     (.slot .field, ["__class__"]),
     (.doc, ["__doc__"])]⟩,
   ⟨"range", some "object", "range", false, false,
    [(.slot .maker, ["__new__"]),
     (.slot .operation, ["__repr__", "__hash__", "__getattribute__", "__lt__", "__le__",
       "__eq__", "__ne__", "__gt__", "__ge__", "__iter__", "__bool__", "__len__",
       "__getitem__", "__contains__"]),
     (.slot .method, ["__reversed__", "__reduce__", "count", "index"]),
     (.slot .stored, ["start", "stop", "step"]),
     (.doc, ["__doc__"])]⟩,
   ⟨"reversed", some "object", "reversed", true, false,
    [(.slot .maker, ["__new__"]),
     (.slot .operation, ["__getattribute__", "__iter__", "__next__"]),
     (.slot .method, ["__length_hint__", "__reduce__", "__setstate__"]),
     (.doc, ["__doc__"])]⟩,
   ⟨"set", some "object", "set", true, false,
    [(.slot .maker, ["__new__"]),
     (.slot .operation, ["__repr__"]),
     (.nothing, ["__hash__"]),
     (.slot .operation, ["__getattribute__", "__lt__", "__le__", "__eq__", "__ne__", "__gt__",
       "__ge__", "__iter__", "__init__", "__sub__", "__rsub__", "__and__", "__rand__",
       "__xor__", "__rxor__", "__or__", "__ror__", "__isub__", "__iand__", "__ixor__",
       "__ior__", "__len__"]),
     (.slot .method, ["__contains__", "add", "clear", "copy", "discard", "difference",
       "difference_update", "intersection", "intersection_update", "isdisjoint", "issubset",
       "issuperset", "pop", "__reduce__", "remove", "__sizeof__", "symmetric_difference",
       "symmetric_difference_update", "union", "update"]),
     (.slot .classMethod, ["__class_getitem__"]),
     (.doc, ["__doc__"])]⟩,
   ⟨"slice", some "object", "slice", false, false,
    [(.slot .maker, ["__new__"]),
     (.slot .operation, ["__repr__"]),
     (.nothing, ["__hash__"]),
     (.slot .operation, ["__getattribute__", "__lt__", "__le__", "__eq__", "__ne__", "__gt__",
       "__ge__"]),
     (.slot .method, ["indices", "__reduce__"]),
     (.slot .stored, ["start", "stop", "step"]),
     (.doc, ["__doc__"])]⟩,
   ⟨"staticmethod", some "object", "staticmethod", true, true,
    [(.slot .maker, ["__new__"]),
     (.slot .operation, ["__repr__", "__call__", "__get__", "__init__"]),
     (.slot .stored, ["__func__", "__wrapped__"]),
     (.slot .field, ["__isabstractmethod__", "__dict__"]),
     (.doc, ["__doc__"])]⟩,
   ⟨"str", some "object", "str", true, false,
    [(.slot .maker, ["__new__"]),
     (.slot .operation, ["__repr__", "__hash__", "__str__", "__getattribute__", "__lt__",
       "__le__", "__eq__", "__ne__", "__gt__", "__ge__", "__iter__", "__mod__", "__rmod__",
       "__len__", "__getitem__", "__add__", "__mul__", "__rmul__", "__contains__"]),
     (.slot .method, ["encode", "replace", "split", "rsplit", "join", "capitalize", "casefold",
       "title", "center", "count", "expandtabs", "find", "partition", "index", "ljust",
       "lower", "lstrip", "rfind", "rindex", "rjust", "rstrip", "rpartition", "splitlines",
       "strip", "swapcase", "translate", "upper", "startswith", "endswith", "removeprefix",
       "removesuffix", "isascii", "islower", "isupper", "istitle", "isspace", "isdecimal",
       "isdigit", "isnumeric", "isalpha", "isalnum", "isidentifier", "isprintable", "zfill",
       "format", "format_map", "__format__"]),
     (.slot .maker, ["maketrans"]),
     (.slot .method, ["__sizeof__", "__getnewargs__"]),
     (.doc, ["__doc__"])]⟩,
   ⟨"super", some "object", "super", true, false,
    [(.slot .maker, ["__new__"]),
     (.slot .operation, ["__repr__", "__getattribute__", "__get__", "__init__"]),
     (.slot .stored, ["__thisclass__", "__self__", "__self_class__"]),
     (.doc, ["__doc__"])]⟩,
   ⟨"tuple", some "object", "tuple", true, false,
    [(.slot .maker, ["__new__"]),
     (.slot .operation, ["__repr__", "__hash__", "__getattribute__", "__lt__", "__le__",
       "__eq__", "__ne__", "__gt__", "__ge__", "__iter__", "__len__", "__getitem__",
       "__add__", "__mul__", "__rmul__", "__contains__"]),
     (.slot .method, ["__getnewargs__", "index", "count"]),
     (.slot .classMethod, ["__class_getitem__"]),
     (.doc, ["__doc__"])]⟩,
   ⟨"type", some "object", "type", true, true,
    [(.slot .maker, ["__new__"]),
     (.slot .operation, ["__repr__", "__call__", "__getattribute__", "__setattr__",
       "__delattr__", "__init__", "__or__", "__ror__"]),
     (.slot .method, ["mro", "__subclasses__"]),
     (.slot .classMethod, ["__prepare__"]),
     (.slot .method, ["__instancecheck__", "__subclasscheck__", "__dir__", "__sizeof__"]),
     (.slot .stored, ["__basicsize__", "__itemsize__", "__flags__", "__weakrefoffset__",
       "__base__", "__dictoffset__", "__mro__"]),
     (.slot .field, ["__name__", "__qualname__", "__bases__", "__module__",
       "__abstractmethods__", "__dict__", "__doc__", "__text_signature__", "__annotations__"])]⟩,
   ⟨"zip", some "object", "zip", true, false,
    [(.slot .maker, ["__new__"]),
     (.slot .operation, ["__getattribute__", "__iter__", "__next__"]),
     (.slot .method, ["__reduce__", "__setstate__"]),
     (.doc, ["__doc__"])]⟩,
   ⟨"NoneType", some "object", "object", false, false,
    [(.slot .maker, ["__new__"]),
     (.slot .operation, ["__repr__", "__bool__"]),
     (.doc, ["__doc__"])]⟩,
   ⟨"ellipsis", some "object", "object", false, false,
    [(.slot .maker, ["__new__"]),
     (.slot .operation, ["__repr__", "__getattribute__"]),
     (.slot .method, ["__reduce__"]),
     (.doc, ["__doc__"])]⟩,
   ⟨"NotImplementedType", some "object", "object", false, false,
    [(.slot .maker, ["__new__"]),
     (.slot .operation, ["__repr__", "__bool__"]),
     (.slot .method, ["__reduce__"]),
     (.doc, ["__doc__"])]⟩,
   ⟨"function", some "object", "function", false, true,
    [(.slot .maker, ["__new__"]),
     (.slot .operation, ["__repr__", "__call__", "__get__"]),
     (.slot .stored, ["__closure__", "__doc__", "__globals__", "__module__", "__builtins__"]),
     (.slot .field, ["__code__", "__defaults__", "__kwdefaults__", "__annotations__",
       "__dict__", "__name__", "__qualname__"])]⟩,
   ⟨"method", some "object", "method", false, false,
    [(.slot .maker, ["__new__"]),
     (.slot .operation, ["__repr__", "__hash__", "__call__", "__getattribute__", "__setattr__",
       "__delattr__", "__lt__", "__le__", "__eq__", "__ne__", "__gt__", "__ge__"]),
     (.slot .method, ["__reduce__"]),
     (.slot .stored, ["__func__", "__self__"]),
     (.slot .field, ["__doc__"])]⟩,
   ⟨"module", some "object", "module", true, true,
    [(.slot .maker, ["__new__"]),
     (.slot .operation, ["__repr__", "__getattribute__", "__setattr__", "__delattr__",
       "__init__"]),
     (.slot .method, ["__dir__"]),
     (.slot .stored, ["__dict__"]),
     (.slot .field, ["__annotations__"]),
     (.doc, ["__doc__"])]⟩,
   ⟨"code", some "object", "code", false, false,
    [(.slot .maker, ["__new__"]),
     (.slot .operation, ["__repr__", "__hash__", "__getattribute__", "__lt__", "__le__",
       "__eq__", "__ne__", "__gt__", "__ge__"]),
     (.slot .method, ["__sizeof__", "co_lines", "co_positions", "replace",
       "_varname_from_oparg"]),
     (.slot .stored, ["co_argcount", "co_posonlyargcount", "co_kwonlyargcount", "co_stacksize",
       "co_flags", "co_nlocals", "co_consts", "co_names", "co_filename", "co_name",
       "co_qualname", "co_firstlineno", "co_linetable", "co_exceptiontable"]),
     (.slot .field, ["co_lnotab", "_co_code_adaptive", "co_varnames", "co_cellvars",
       "co_freevars", "co_code"]),
     (.doc, ["__doc__"])]⟩,
   ⟨"cell", some "object", "cell", false, false,
    [(.slot .maker, ["__new__"]),
     (.slot .operation, ["__repr__", "__getattribute__", "__lt__", "__le__", "__eq__",
       "__ne__", "__gt__", "__ge__"]),
     (.slot .field, ["cell_contents"]),
     (.doc, ["__doc__"]),
     (.nothing, ["__hash__"])]⟩,
   ⟨"builtin_function_or_method", some "object", "builtin_function_or_method", false, false,
    [(.slot .operation, ["__repr__", "__hash__", "__call__", "__getattribute__", "__lt__",
       "__le__", "__eq__", "__ne__", "__gt__", "__ge__"]),
     (.slot .method, ["__reduce__"]),
     (.slot .stored, ["__module__"]),
     (.slot .field, ["__doc__", "__name__", "__qualname__", "__self__", "__text_signature__"])]⟩,
   ⟨"wrapper_descriptor", some "object", "wrapper_descriptor", false, false,
    [(.slot .operation, ["__repr__", "__call__", "__getattribute__", "__get__"]),
     (.slot .method, ["__reduce__"]),
     (.slot .stored, ["__objclass__", "__name__"]),
     (.slot .field, ["__doc__", "__qualname__", "__text_signature__"])]⟩,
   ⟨"method-wrapper", some "object", "method-wrapper", false, false,
    [(.slot .operation, ["__repr__", "__hash__", "__call__", "__getattribute__", "__lt__",
       "__le__", "__eq__", "__ne__", "__gt__", "__ge__"]),
     (.slot .method, ["__reduce__"]),
     (.slot .stored, ["__self__"]),
     (.slot .field, ["__objclass__", "__name__", "__qualname__", "__doc__",
       "__text_signature__"])]⟩,
   ⟨"method_descriptor", some "object", "method_descriptor", false, false,
    [(.slot .operation, ["__repr__", "__call__", "__getattribute__", "__get__"]),
     (.slot .method, ["__reduce__"]),
     (.slot .stored, ["__objclass__", "__name__"]),
     (.slot .field, ["__doc__", "__qualname__", "__text_signature__"])]⟩,
   ⟨"classmethod_descriptor", some "object", "classmethod_descriptor", false, false,
    [(.slot .operation, ["__repr__", "__call__", "__getattribute__", "__get__"]),
     (.slot .stored, ["__objclass__", "__name__"]),
     (.slot .field, ["__doc__", "__qualname__", "__text_signature__"])]⟩,
   ⟨"getset_descriptor", some "object", "getset_descriptor", false, false,
    [(.slot .operation, ["__repr__", "__getattribute__", "__get__", "__set__", "__delete__"]),
     (.slot .stored, ["__objclass__", "__name__"]),
     (.slot .field, ["__doc__", "__qualname__"])]⟩,
   ⟨"member_descriptor", some "object", "member_descriptor", false, false,
    [(.slot .operation, ["__repr__", "__getattribute__", "__get__", "__set__", "__delete__"]),
     (.slot .method, ["__reduce__"]),
     (.slot .stored, ["__objclass__", "__name__"]),
     (.slot .field, ["__doc__", "__qualname__"])]⟩,
   ⟨"mappingproxy", some "object", "mappingproxy", false, false,
    [(.slot .maker, ["__new__"]),
     (.slot .operation, ["__repr__", "__str__", "__getattribute__", "__lt__", "__le__",
       "__eq__", "__ne__", "__gt__", "__ge__", "__iter__", "__or__", "__ror__", "__ior__",
       "__len__", "__getitem__", "__contains__"]),
     (.slot .method, ["get", "keys", "values", "items", "copy"]),
     (.slot .classMethod, ["__class_getitem__"]),
     (.slot .method, ["__reversed__"]),
     (.doc, ["__doc__"]),
     (.nothing, ["__hash__"])]⟩,
   ⟨"generator", some "object", "generator", false, false,
    [(.slot .operation, ["__repr__", "__getattribute__", "__iter__", "__next__", "__del__"]),
     (.slot .method, ["send", "throw", "close", "__sizeof__"]),
     (.slot .stored, ["gi_code"]),
     (.slot .field, ["__name__", "__qualname__", "gi_yieldfrom", "gi_running", "gi_frame",
       "gi_suspended"]),
     (.doc, ["__doc__"])]⟩,
   ⟨"dict_keys", some "object", "dict_keys", false, false,
    [(.slot .operation, ["__repr__", "__getattribute__", "__lt__", "__le__", "__eq__",
       "__ne__", "__gt__", "__ge__", "__iter__", "__sub__", "__rsub__", "__and__", "__rand__",
       "__xor__", "__rxor__", "__or__", "__ror__", "__len__", "__contains__"]),
     (.slot .method, ["isdisjoint", "__reversed__"]),
     (.slot .field, ["mapping"]),
     (.doc, ["__doc__"]),
     (.nothing, ["__hash__"])]⟩,
   ⟨"dict_values", some "object", "dict_values", false, false,
    [(.slot .operation, ["__repr__", "__getattribute__", "__iter__", "__len__"]),
     (.slot .method, ["__reversed__"]),
     (.slot .field, ["mapping"]),
     (.doc, ["__doc__"])]⟩,
   ⟨"dict_items", some "object", "dict_items", false, false,
    [(.slot .operation, ["__repr__", "__getattribute__", "__lt__", "__le__", "__eq__",
       "__ne__", "__gt__", "__ge__", "__iter__", "__sub__", "__rsub__", "__and__", "__rand__",
       "__xor__", "__rxor__", "__or__", "__ror__", "__len__", "__contains__"]),
     (.slot .method, ["isdisjoint", "__reversed__"]),
     (.slot .field, ["mapping"]),
     (.doc, ["__doc__"]),
     (.nothing, ["__hash__"])]⟩,
   ⟨"GenericAlias", some "object", "GenericAlias", true, false,
    [(.slot .maker, ["__new__"]),
     (.slot .operation, ["__repr__", "__hash__", "__call__", "__getattribute__", "__lt__",
       "__le__", "__eq__", "__ne__", "__gt__", "__ge__", "__iter__", "__or__", "__ror__",
       "__getitem__"]),
     (.slot .method, ["__mro_entries__", "__instancecheck__", "__subclasscheck__",
       "__reduce__", "__dir__"]),
     (.slot .stored, ["__origin__", "__args__", "__unpacked__"]),
     (.slot .field, ["__parameters__", "__typing_unpacked_tuple_args__"]),
     (.doc, ["__doc__"])]⟩,
   ⟨"UnionType", some "object", "UnionType", false, false,
    [(.slot .operation, ["__repr__", "__hash__", "__getattribute__", "__lt__", "__le__",
       "__eq__", "__ne__", "__gt__", "__ge__", "__or__", "__ror__", "__getitem__"]),
     (.slot .stored, ["__args__"]),
     (.slot .field, ["__parameters__"]),
     (.doc, ["__doc__"])]⟩,
   ⟨"date", some "object", "date", true, false,
    [(.slot .maker, ["__new__"]),
     (.slot .operation, ["__repr__", "__hash__", "__str__", "__getattribute__", "__lt__",
       "__le__", "__eq__", "__ne__", "__gt__", "__ge__", "__add__", "__radd__", "__sub__",
       "__rsub__"]),
     (.slot .classMethod, ["fromtimestamp", "fromordinal", "fromisoformat", "fromisocalendar",
       "today"]),
     (.slot .method, ["ctime", "strftime", "__format__", "timetuple", "isocalendar",
       "isoformat", "isoweekday", "toordinal", "weekday", "replace", "__reduce__"]),
     (.slot .field, ["year", "month", "day"]),
     (.doc, ["__doc__"])]⟩,
   ⟨"Decimal", some "object", "Decimal", true, false,
    [(.slot .maker, ["__new__"]),
     (.slot .operation, ["__repr__", "__hash__", "__str__", "__getattribute__", "__lt__",
       "__le__", "__eq__", "__ne__", "__gt__", "__ge__", "__add__", "__radd__", "__sub__",
       "__rsub__", "__mul__", "__rmul__", "__mod__", "__rmod__", "__divmod__", "__rdivmod__",
       "__pow__", "__rpow__", "__neg__", "__pos__", "__abs__", "__bool__", "__int__",
       "__float__", "__floordiv__", "__rfloordiv__", "__truediv__", "__rtruediv__"]),
     (.slot .method, ["exp", "ln", "log10", "next_minus", "next_plus", "normalize",
       "to_integral", "to_integral_exact", "to_integral_value", "sqrt", "compare",
       "compare_signal", "max", "max_mag", "min", "min_mag", "next_toward", "quantize",
       "remainder_near", "fma", "is_canonical", "is_finite", "is_infinite", "is_nan",
       "is_qnan", "is_snan", "is_signed", "is_zero", "is_normal", "is_subnormal", "adjusted",
       "canonical", "conjugate", "radix", "copy_abs", "copy_negate", "logb", "logical_invert",
       "number_class", "to_eng_string", "compare_total", "compare_total_mag", "copy_sign",
       "same_quantum", "logical_and", "logical_or", "logical_xor", "rotate", "scaleb", "shift"]),
     (.slot .classMethod, ["from_float"]),
     (.slot .method, ["as_tuple", "as_integer_ratio", "__copy__", "__deepcopy__", "__format__",
       "__reduce__", "__round__", "__ceil__", "__floor__", "__trunc__", "__complex__",
       "__sizeof__"]),
     (.slot .field, ["real", "imag"]),
     (.doc, ["__doc__"]),
     (.home, ["__module__"])]⟩,
   ⟨"Fraction", some "Rational", "Fraction", true, false,
    [(.home, ["__module__"]),
     (.doc, ["__doc__"]),
     (.slot .function, ["__new__"]),
     (.classFunction, ["from_float", "from_decimal"]),
     (.slot .function, ["as_integer_ratio", "limit_denominator"]),
     (.accessor, ["numerator", "denominator"]),
     (.slot .function, ["__repr__", "__str__", "_operator_fallbacks", "_add", "__add__",
       "__radd__", "_sub", "__sub__", "__rsub__", "_mul", "__mul__", "__rmul__", "_div",
       "__truediv__", "__rtruediv__", "_floordiv", "__floordiv__", "__rfloordiv__", "_divmod",
       "__divmod__", "__rdivmod__", "_mod", "__mod__", "__rmod__", "__pow__", "__rpow__",
       "__pos__", "__neg__", "__abs__", "__int__", "__trunc__", "__floor__", "__ceil__",
       "__round__", "__hash__", "__eq__", "_richcmp", "__lt__", "__gt__", "__le__", "__ge__",
       "__bool__", "__reduce__", "__copy__", "__deepcopy__"]),
     (.slot .stored, ["_denominator", "_numerator"])]⟩,
   ⟨"Rational", some "Real", "object", true, false,
    [(.home, ["__module__"]),
     (.doc, ["__doc__"]),
     (.accessor, ["numerator", "denominator"]),
     (.slot .function, ["__float__"])]⟩,
   ⟨"Real", some "Complex", "object", true, false,
    [(.home, ["__module__"]),
     (.doc, ["__doc__"]),
     (.slot .function, ["__float__", "__trunc__", "__floor__", "__ceil__", "__round__",
       "__divmod__", "__rdivmod__", "__floordiv__", "__rfloordiv__", "__mod__", "__rmod__",
       "__lt__", "__le__", "__complex__"]),
     (.accessor, ["real", "imag"]),
     (.slot .function, ["conjugate"])]⟩,
   ⟨"Complex", some "Number", "object", true, false,
    [(.home, ["__module__"]),
     (.doc, ["__doc__"]),
     (.slot .function, ["__complex__", "__bool__"]),
     (.accessor, ["real", "imag"]),
     (.slot .function, ["__add__", "__radd__", "__neg__", "__pos__", "__sub__", "__rsub__",
       "__mul__", "__rmul__", "__truediv__", "__rtruediv__", "__pow__", "__rpow__", "__abs__",
       "conjugate", "__eq__"]),
     (.nothing, ["__hash__"])]⟩,
   ⟨"Number", some "object", "object", true, false,
    [(.home, ["__module__"]),
     (.doc, ["__doc__"]),
     (.nothing, ["__hash__"])]⟩,
   ⟨"ABCMeta", some "type", "type", true, true,
    [(.home, ["__module__"]),
     (.doc, ["__doc__"]),
     (.slot .function, ["__new__", "register", "__instancecheck__", "__subclasscheck__",
       "_dump_registry", "_abc_registry_clear", "_abc_caches_clear"])]⟩]

/-- The classes of iterators. -/
def iterators : List BuiltinClass :=
  [⟨"list_iterator", some "object", "list_iterator", false, false,
    [(.slot .operation, ["__getattribute__", "__iter__", "__next__"]),
     (.slot .method, ["__length_hint__", "__reduce__", "__setstate__"]),
     (.doc, ["__doc__"])]⟩,
   ⟨"list_reverseiterator", some "object", "list_reverseiterator", false, false,
    [(.slot .operation, ["__getattribute__", "__iter__", "__next__"]),
     (.slot .method, ["__length_hint__", "__reduce__", "__setstate__"]),
     (.doc, ["__doc__"])]⟩,
   ⟨"tuple_iterator", some "object", "tuple_iterator", false, false,
    [(.slot .operation, ["__getattribute__", "__iter__", "__next__"]),
     (.slot .method, ["__length_hint__", "__reduce__", "__setstate__"]),
     (.doc, ["__doc__"])]⟩,
   ⟨"dict_keyiterator", some "object", "dict_keyiterator", false, false,
    [(.slot .operation, ["__getattribute__", "__iter__", "__next__"]),
     (.slot .method, ["__length_hint__", "__reduce__"]),
     (.doc, ["__doc__"])]⟩,
   ⟨"dict_valueiterator", some "object", "dict_valueiterator", false, false,
    [(.slot .operation, ["__getattribute__", "__iter__", "__next__"]),
     (.slot .method, ["__length_hint__", "__reduce__"]),
     (.doc, ["__doc__"])]⟩,
   ⟨"dict_itemiterator", some "object", "dict_itemiterator", false, false,
    [(.slot .operation, ["__getattribute__", "__iter__", "__next__"]),
     (.slot .method, ["__length_hint__", "__reduce__"]),
     (.doc, ["__doc__"])]⟩,
   ⟨"dict_reversekeyiterator", some "object", "dict_reversekeyiterator", false, false,
    [(.slot .operation, ["__iter__", "__next__"]),
     (.slot .method, ["__length_hint__", "__reduce__"]),
     (.doc, ["__doc__"])]⟩,
   ⟨"dict_reversevalueiterator", some "object", "dict_reversevalueiterator", false, false,
    [(.slot .operation, ["__iter__", "__next__"]),
     (.slot .method, ["__length_hint__", "__reduce__"]),
     (.doc, ["__doc__"])]⟩,
   ⟨"dict_reverseitemiterator", some "object", "dict_reverseitemiterator", false, false,
    [(.slot .operation, ["__iter__", "__next__"]),
     (.slot .method, ["__length_hint__", "__reduce__"]),
     (.doc, ["__doc__"])]⟩,
   ⟨"set_iterator", some "object", "set_iterator", false, false,
    [(.slot .operation, ["__getattribute__", "__iter__", "__next__"]),
     (.slot .method, ["__length_hint__", "__reduce__"]),
     (.doc, ["__doc__"])]⟩,
   ⟨"str_ascii_iterator", some "object", "str_ascii_iterator", false, false,
    [(.slot .operation, ["__getattribute__", "__iter__", "__next__"]),
     (.slot .method, ["__length_hint__", "__reduce__", "__setstate__"]),
     (.doc, ["__doc__"])]⟩,
   ⟨"str_iterator", some "object", "str_iterator", false, false,
    [(.slot .operation, ["__getattribute__", "__iter__", "__next__"]),
     (.slot .method, ["__length_hint__", "__reduce__", "__setstate__"]),
     (.doc, ["__doc__"])]⟩,
   ⟨"bytes_iterator", some "object", "bytes_iterator", false, false,
    [(.slot .operation, ["__getattribute__", "__iter__", "__next__"]),
     (.slot .method, ["__length_hint__", "__reduce__", "__setstate__"]),
     (.doc, ["__doc__"])]⟩,
   ⟨"bytearray_iterator", some "object", "bytearray_iterator", false, false,
    [(.slot .operation, ["__getattribute__", "__iter__", "__next__"]),
     (.slot .method, ["__length_hint__", "__reduce__", "__setstate__"]),
     (.doc, ["__doc__"])]⟩,
   ⟨"range_iterator", some "object", "range_iterator", false, false,
    [(.slot .operation, ["__getattribute__", "__iter__", "__next__"]),
     (.slot .method, ["__length_hint__", "__reduce__", "__setstate__"]),
     (.doc, ["__doc__"])]⟩,
   ⟨"longrange_iterator", some "object", "longrange_iterator", false, false,
    [(.slot .operation, ["__getattribute__", "__iter__", "__next__"]),
     (.slot .method, ["__length_hint__", "__reduce__", "__setstate__"]),
     (.doc, ["__doc__"])]⟩,
   ⟨"callable_iterator", some "object", "callable_iterator", false, false,
    [(.slot .operation, ["__getattribute__", "__iter__", "__next__"]),
     (.slot .method, ["__reduce__"]),
     (.doc, ["__doc__"])]⟩,
   ⟨"iterator", some "object", "iterator", false, false,
    [(.slot .operation, ["__getattribute__", "__iter__", "__next__"]),
     (.slot .method, ["__length_hint__", "__reduce__", "__setstate__"]),
     (.doc, ["__doc__"])]⟩,
   ⟨"memory_iterator", some "object", "memory_iterator", false, false,
    [(.slot .operation, ["__getattribute__", "__iter__", "__next__"]),
     (.doc, ["__doc__"])]⟩,
   ⟨"generic_alias_iterator", some "object", "generic_alias_iterator", false, false,
    [(.slot .operation, ["__iter__", "__next__"]),
     (.slot .method, ["__reduce__"]),
     (.doc, ["__doc__"])]⟩]

/-- The exceptions with members of their own. -/
def otherExceptions : List BuiltinClass :=
  [⟨"BaseException", some "object", "BaseException", true, true,
    [(.slot .maker, ["__new__"]),
     (.slot .operation, ["__repr__", "__str__", "__getattribute__", "__setattr__",
       "__delattr__", "__init__"]),
     (.slot .method, ["__reduce__", "__setstate__", "with_traceback", "add_note"]),
     (.slot .stored, ["__suppress_context__"]),
     (.slot .field, ["__dict__", "args", "__traceback__", "__context__", "__cause__"]),
     (.doc, ["__doc__"])]⟩,
   ⟨"BaseExceptionGroup", some "BaseException", "BaseExceptionGroup", true, true,
    [(.slot .maker, ["__new__"]),
     (.slot .operation, ["__str__", "__init__"]),
     (.slot .classMethod, ["__class_getitem__"]),
     (.slot .method, ["derive", "split", "subgroup"]),
     (.slot .stored, ["message", "exceptions"]),
     (.doc, ["__doc__"])]⟩,
   ⟨"SystemExit", some "BaseException", "SystemExit", true, true,
    [(.slot .operation, ["__init__"]),
     (.slot .stored, ["code"]),
     (.doc, ["__doc__"])]⟩,
   ⟨"AttributeError", some "Exception", "AttributeError", true, true,
    [(.slot .operation, ["__str__", "__init__"]),
     (.slot .stored, ["name", "obj"]),
     (.doc, ["__doc__"])]⟩,
   ⟨"ImportError", some "Exception", "ImportError", true, true,
    [(.slot .operation, ["__str__", "__init__"]),
     (.slot .method, ["__reduce__"]),
     (.slot .stored, ["msg", "name", "path"]),
     (.doc, ["__doc__"])]⟩,
   ⟨"NameError", some "Exception", "NameError", true, true,
    [(.slot .operation, ["__str__", "__init__"]),
     (.slot .stored, ["name"]),
     (.doc, ["__doc__"])]⟩,
   ⟨"OSError", some "Exception", "OSError", true, true,
    [(.slot .maker, ["__new__"]),
     (.slot .operation, ["__str__", "__init__"]),
     (.slot .method, ["__reduce__"]),
     (.slot .stored, ["errno", "strerror", "filename", "filename2"]),
     (.slot .field, ["characters_written"]),
     (.doc, ["__doc__"])]⟩,
   ⟨"StopIteration", some "Exception", "StopIteration", true, true,
    [(.slot .operation, ["__init__"]),
     (.slot .stored, ["value"]),
     (.doc, ["__doc__"])]⟩,
   ⟨"SyntaxError", some "Exception", "SyntaxError", true, true,
    [(.slot .operation, ["__str__", "__init__"]),
     (.slot .stored, ["msg", "filename", "lineno", "offset", "text", "end_lineno",
       "end_offset", "print_file_and_line"]),
     (.doc, ["__doc__"])]⟩,
   ⟨"BlockingIOError", some "OSError", "OSError", true, true,
    [(.slot .operation, ["__init__"]),
     (.doc, ["__doc__"])]⟩,
   ⟨"ChildProcessError", some "OSError", "OSError", true, true,
    [(.slot .operation, ["__init__"]),
     (.doc, ["__doc__"])]⟩,
   ⟨"ConnectionError", some "OSError", "OSError", true, true,
    [(.slot .operation, ["__init__"]),
     (.doc, ["__doc__"])]⟩,
   ⟨"FileExistsError", some "OSError", "OSError", true, true,
    [(.slot .operation, ["__init__"]),
     (.doc, ["__doc__"])]⟩,
   ⟨"FileNotFoundError", some "OSError", "OSError", true, true,
    [(.slot .operation, ["__init__"]),
     (.doc, ["__doc__"])]⟩,
   ⟨"InterruptedError", some "OSError", "OSError", true, true,
    [(.slot .operation, ["__init__"]),
     (.doc, ["__doc__"])]⟩,
   ⟨"IsADirectoryError", some "OSError", "OSError", true, true,
    [(.slot .operation, ["__init__"]),
     (.doc, ["__doc__"])]⟩,
   ⟨"NotADirectoryError", some "OSError", "OSError", true, true,
    [(.slot .operation, ["__init__"]),
     (.doc, ["__doc__"])]⟩,
   ⟨"PermissionError", some "OSError", "OSError", true, true,
    [(.slot .operation, ["__init__"]),
     (.doc, ["__doc__"])]⟩,
   ⟨"ProcessLookupError", some "OSError", "OSError", true, true,
    [(.slot .operation, ["__init__"]),
     (.doc, ["__doc__"])]⟩,
   ⟨"TimeoutError", some "OSError", "OSError", true, true,
    [(.slot .operation, ["__init__"]),
     (.doc, ["__doc__"])]⟩,
   ⟨"IndentationError", some "SyntaxError", "SyntaxError", true, true,
    [(.slot .operation, ["__init__"]),
     (.doc, ["__doc__"])]⟩,
   ⟨"KeyError", some "LookupError", "BaseException", true, true,
    [(.slot .operation, ["__str__", "__init__"]),
     (.doc, ["__doc__"])]⟩,
   ⟨"ModuleNotFoundError", some "ImportError", "ImportError", true, true,
    [(.slot .operation, ["__init__"]),
     (.doc, ["__doc__"])]⟩,
   ⟨"UnboundLocalError", some "NameError", "NameError", true, true,
    [(.slot .operation, ["__init__"]),
     (.doc, ["__doc__"])]⟩,
   ⟨"BrokenPipeError", some "ConnectionError", "OSError", true, true,
    [(.slot .operation, ["__init__"]),
     (.doc, ["__doc__"])]⟩,
   ⟨"ConnectionAbortedError", some "ConnectionError", "OSError", true, true,
    [(.slot .operation, ["__init__"]),
     (.doc, ["__doc__"])]⟩,
   ⟨"ConnectionRefusedError", some "ConnectionError", "OSError", true, true,
    [(.slot .operation, ["__init__"]),
     (.doc, ["__doc__"])]⟩,
   ⟨"ConnectionResetError", some "ConnectionError", "OSError", true, true,
    [(.slot .operation, ["__init__"]),
     (.doc, ["__doc__"])]⟩,
   ⟨"TabError", some "IndentationError", "SyntaxError", true, true,
    [(.slot .operation, ["__init__"]),
     (.doc, ["__doc__"])]⟩,
   ⟨"UnicodeDecodeError", some "UnicodeError", "UnicodeDecodeError", true, true,
    [(.slot .maker, ["__new__"]),
     (.slot .operation, ["__str__", "__init__"]),
     (.slot .stored, ["encoding", "object", "start", "end", "reason"]),
     (.doc, ["__doc__"])]⟩,
   ⟨"UnicodeEncodeError", some "UnicodeError", "UnicodeEncodeError", true, true,
    [(.slot .maker, ["__new__"]),
     (.slot .operation, ["__str__", "__init__"]),
     (.slot .stored, ["encoding", "object", "start", "end", "reason"]),
     (.doc, ["__doc__"])]⟩,
   ⟨"UnicodeTranslateError", some "UnicodeError", "UnicodeTranslateError", true, true,
    [(.slot .maker, ["__new__"]),
     (.slot .operation, ["__str__", "__init__"]),
     (.slot .stored, ["encoding", "object", "start", "end", "reason"]),
     (.doc, ["__doc__"])]⟩,
   ⟨"ExceptionGroup", some "BaseExceptionGroup", "BaseExceptionGroup", true, true,
    [(.home, ["__module__"]),
     (.slot .field, ["__weakref__"]),
     (.doc, ["__doc__"])]⟩]

/-- All classes of the language. -/
def all : List BuiltinClass := values ++ plainExceptions ++ otherExceptions ++ iterators

/-- The class of this name. A class that is not listed has nothing of its own. -/
def ofName (name : String) : BuiltinClass :=
  (all.find? fun c => c.name == name).getD ⟨name, some "object", name, false, true, []⟩

/-- The form of the member that the class has under a name. -/
def formOf? (c : BuiltinClass) (member : String) : Option MemberForm :=
  (c.members.find? fun run => run.2.contains member).map Prod.fst

/-- The names of the members in order. -/
def memberNames (c : BuiltinClass) : List String :=
  c.members.flatMap Prod.snd

/-- The module that a class of the language belongs to. -/
def home (name : String) : String :=
  match name with
  | "date" => "datetime"
  | "Decimal" => "decimal"
  | "Fraction" => "fractions"
  | "Rational" | "Real" | "Complex" | "Number" => "numbers"
  | "ABCMeta" => "abc"
  | "GenericAlias" | "UnionType" => "types"
  | _ => "builtins"

/-- The class of a class of the language. -/
def kind (c : BuiltinClass) : String :=
  if ["Fraction", "Rational", "Real", "Complex", "Number"].contains c.name then "ABCMeta"
  else "type"

/-- How much room an instance takes depends on what it holds. -/
def sized (c : BuiltinClass) : Bool :=
  ["int", "bool", "tuple", "bytes", "type", "ABCMeta"].contains c.name

/-- Instances know who refers to them weakly. -/
def referenced (c : BuiltinClass) : Bool :=
  ["type", "ABCMeta", "set", "frozenset", "module", "function", "method", "generator", "memoryview",
   "builtin_function_or_method", "ExceptionGroup"].contains c.name

/-- What the instances of a class that derives from it keep in addition. -/
def unkept (c : BuiltinClass) : List String :=
  (if c.attributed then [] else ["__dict__"])
    ++ if c.referenced || c.sized then [] else ["__weakref__"]

end BuiltinClass

end DocGuard
