import DocGuard.Program.Builtin.Documentation.Entry
/-!
What the classes of the language say of themselves.
-/

namespace DocGuard.Documentation

/-- The classes of the language. -/
def classes : List Entry :=
  [("bool", "",
     "bool(x) -> bool\n\nReturns True when the argument x is true, False otherwise.\nThe " ++
     "builtins True and False are the only two instances of the class bool.\nThe class " ++
     "bool is a subclass of the class int, and cannot be subclassed."),
   ("memoryview", "(object)",
     "Create a new memoryview object which references the given object."),
   ("bytearray", "",
     "bytearray(iterable_of_ints) -> bytearray\nbytearray(string, encoding[, errors]) -> " ++
     "bytearray\nbytearray(bytes_or_buffer) -> mutable copy of bytes_or_buffer\n" ++
     "bytearray(int) -> bytes array of size given by the parameter initialized with null " ++
     "bytes\nbytearray() -> empty bytes array\n\nConstruct a mutable bytearray object " ++
     "from:\n  - an iterable yielding integers in range(256)\n  - a text string encoded " ++
     "using the specified encoding\n  - a bytes or a buffer object\n  - any object " ++
     "implementing the buffer API.\n  - an integer"),
   ("bytes", "",
     "bytes(iterable_of_ints) -> bytes\nbytes(string, encoding[, errors]) -> bytes\n" ++
     "bytes(bytes_or_buffer) -> immutable copy of bytes_or_buffer\nbytes(int) -> bytes " ++
     "object of size given by the parameter initialized with null bytes\nbytes() -> empty" ++
     " bytes object\n\nConstruct an immutable array of bytes from:\n  - an iterable " ++
     "yielding integers in range(256)\n  - a text string encoded using the specified " ++
     "encoding\n  - any object implementing the buffer API.\n  - an integer"),
   ("classmethod", "",
     "classmethod(function) -> method\n\nConvert a function to be a class method.\n\nA " ++
     "class method receives the class as implicit first argument,\njust like an instance " ++
     "method receives the instance.\nTo declare a class method, use this idiom:\n\n  " ++
     "class C:\n      @classmethod\n      def f(cls, arg1, arg2, argN):\n          ..." ++
     "\n\nIt can be called either on the class (e.g. C.f()) or on an instance\n(e.g. " ++
     "C().f()).  The instance is ignored except for its class.\nIf a class method is " ++
     "called for a derived class, the derived class\nobject is passed as the implied " ++
     "first argument.\n\nClass methods are different than C++ or Java static methods.\nIf" ++
     " you want those, see the staticmethod builtin."),
   ("complex", "(real=0, imag=0)",
     "Create a complex number from a real part and an optional imaginary part.\n\nThis is" ++
     " equivalent to (real + imag*1j) where imag defaults to 0."),
   ("dict", "",
     "dict() -> new empty dictionary\ndict(mapping) -> new dictionary initialized from a " ++
     "mapping object's\n    (key, value) pairs\ndict(iterable) -> new dictionary " ++
     "initialized as if via:\n    d = \x7b\x7d\n    for k, v in iterable:\n        d[k] =" ++
     " v\ndict(**kwargs) -> new dictionary initialized with the name=value pairs\n    in " ++
     "the keyword argument list.  For example:  dict(one=1, two=2)"),
   ("enumerate", "(iterable, start=0)",
     "Return an enumerate object.\n\n  iterable\n    an object supporting iteration\n\n" ++
     "The enumerate object yields pairs containing a count (from start, which\ndefaults " ++
     "to zero) and a value yielded by the iterable argument.\n\nenumerate is useful for " ++
     "obtaining an indexed list:\n    (0, seq[0]), (1, seq[1]), (2, seq[2]), ..."),
   ("filter", "",
     "filter(function or None, iterable) --> filter object\n\nReturn an iterator yielding" ++
     " those items of iterable for which function(item)\nis true. If function is None, " ++
     "return the items that are true."),
   ("float", "(x=0, /)", "Convert a string or number to a floating point number, if possible."),
   ("frozenset", "",
     "frozenset() -> empty frozenset object\nfrozenset(iterable) -> frozenset object\n\n" ++
     "Build an immutable unordered collection of unique elements."),
   ("property", "(fget=None, fset=None, fdel=None, doc=None)",
     "Property attribute.\n\n  fget\n    function to be used for getting an attribute " ++
     "value\n  fset\n    function to be used for setting an attribute value\n  fdel\n    " ++
     "function to be used for del'ing an attribute\n  doc\n    docstring\n\nTypical use " ++
     "is to define a managed attribute x:\n\nclass C(object):\n    def getx(self): return" ++
     " self._x\n    def setx(self, value): self._x = value\n    def delx(self): del " ++
     "self._x\n    x = property(getx, setx, delx, \"I'm the 'x' property.\")\n\n" ++
     "Decorators make defining new properties or modifying existing ones easy:\n\nclass " ++
     "C(object):\n    @property\n    def x(self):\n        \"I am the 'x' property.\"" ++
     "\n        return self._x\n    @x.setter\n    def x(self, value):\n        self._x =" ++
     " value\n    @x.deleter\n    def x(self):\n        del self._x"),
   ("int", "",
     "int([x]) -> integer\nint(x, base=10) -> integer\n\nConvert a number or string to an" ++
     " integer, or return 0 if no arguments\nare given.  If x is a number, return " ++
     "x.__int__().  For floating point\nnumbers, this truncates towards zero.\n\nIf x is " ++
     "not a number or if base is given, then x must be a string,\nbytes, or bytearray " ++
     "instance representing an integer literal in the\ngiven base.  The literal can be " ++
     "preceded by '+' or '-' and be surrounded\nby whitespace.  The base defaults to 10." ++
     "  Valid bases are 0 and 2-36.\nBase 0 means to interpret the base from the string " ++
     "as an integer literal.\n>>> int('0b100', base=0)\n4"),
   ("list", "(iterable=(), /)",
     "Built-in mutable sequence.\n\nIf no argument is given, the constructor creates a " ++
     "new empty list.\nThe argument must be an iterable if specified."),
   ("map", "",
     "map(func, *iterables) --> map object\n\nMake an iterator that computes the function" ++
     " using arguments from\neach of the iterables.  Stops when the shortest iterable is " ++
     "exhausted."),
   ("object", "()",
     "The base class of the class hierarchy.\n\nWhen called, it accepts no arguments and " ++
     "returns a new featureless\ninstance that has no instance attributes and cannot be " ++
     "given any.\n"),
   ("range", "",
     "range(stop) -> range object\nrange(start, stop[, step]) -> range object\n\nReturn " ++
     "an object that produces a sequence of integers from start (inclusive)\nto stop " ++
     "(exclusive) by step.  range(i, j) produces i, i+1, i+2, ..., j-1.\nstart defaults " ++
     "to 0, and stop is omitted!  range(4) produces 0, 1, 2, 3.\nThese are exactly the " ++
     "valid indices for a list of 4 elements.\nWhen step is given, it specifies the " ++
     "increment (or decrement)."),
   ("reversed", "(sequence, /)",
     "Return a reverse iterator over the values of the given sequence."),
   ("set", "",
     "set() -> new empty set object\nset(iterable) -> new set object\n\nBuild an " ++
     "unordered collection of unique elements."),
   ("slice", "",
     "slice(stop)\nslice(start, stop[, step])\n\nCreate a slice object.  This is used for" ++
     " extended slicing (e.g. a[0:10:2])."),
   ("staticmethod", "",
     "staticmethod(function) -> method\n\nConvert a function to be a static method.\n\nA " ++
     "static method does not receive an implicit first argument.\nTo declare a static " ++
     "method, use this idiom:\n\n     class C:\n         @staticmethod\n         def " ++
     "f(arg1, arg2, argN):\n             ...\n\nIt can be called either on the class " ++
     "(e.g. C.f()) or on an instance\n(e.g. C().f()). Both the class and the instance are" ++
     " ignored, and\nneither is passed implicitly as the first argument to the method." ++
     "\n\nStatic methods in Python are similar to those found in Java or C++.\nFor a more" ++
     " advanced concept, see the classmethod builtin."),
   ("str", "",
     "str(object='') -> str\nstr(bytes_or_buffer[, encoding[, errors]]) -> str\n\nCreate " ++
     "a new string object from the given object. If encoding or\nerrors is specified, " ++
     "then the object must expose a data buffer\nthat will be decoded using the given " ++
     "encoding and error handler.\nOtherwise, returns the result of object.__str__() (if " ++
     "defined)\nor repr(object).\nencoding defaults to sys.getdefaultencoding().\nerrors " ++
     "defaults to 'strict'."),
   ("super", "",
     "super() -> same as super(__class__, <first argument>)\nsuper(type) -> unbound super" ++
     " object\nsuper(type, obj) -> bound super object; requires isinstance(obj, type)\n" ++
     "super(type, type2) -> bound super object; requires issubclass(type2, type)\nTypical" ++
     " use to call a cooperative superclass method:\nclass C(B):\n    def meth(self, " ++
     "arg):\n        super().meth(arg)\nThis works for class methods too:\nclass C(B):" ++
     "\n    @classmethod\n    def cmeth(cls, arg):\n        super().cmeth(arg)\n"),
   ("tuple", "(iterable=(), /)",
     "Built-in immutable sequence.\n\nIf no argument is given, the constructor returns an" ++
     " empty tuple.\nIf iterable is specified the tuple is initialized from iterable's " ++
     "items.\n\nIf the argument is a tuple, the return value is the same object."),
   ("type", "",
     "type(object) -> the object's type\ntype(name, bases, dict, **kwds) -> a new type"),
   ("zip", "",
     "zip(*iterables, strict=False) --> Yield tuples until an input is exhausted.\n\n   " ++
     ">>> list(zip('abcdefg', range(3), range(4)))\n   [('a', 0, 0), ('b', 1, 1), ('c', " ++
     "2, 2)]\n\nThe zip object yields n-length tuples, where n is the number of iterables" ++
     "\npassed as positional arguments to zip().  The i-th element in every tuple\ncomes " ++
     "from the i-th iterable argument to zip().  This continues until the\nshortest " ++
     "argument is exhausted.\n\nIf strict is true and one of the arguments is exhausted " ++
     "before the others,\nraise a ValueError."),
   ("BaseException", "", "Common base class for all exceptions"),
   ("BaseExceptionGroup", "", "A combination of multiple unrelated exceptions."),
   ("Exception", "", "Common base class for all non-exit exceptions."),
   ("GeneratorExit", "", "Request that a generator exit."),
   ("KeyboardInterrupt", "", "Program interrupted by user."),
   ("SystemExit", "", "Request to exit from the interpreter."),
   ("ArithmeticError", "", "Base class for arithmetic errors."),
   ("AssertionError", "", "Assertion failed."),
   ("AttributeError", "", "Attribute not found."),
   ("BufferError", "", "Buffer error."),
   ("EOFError", "", "Read beyond end of file."),
   ("ImportError", "", "Import can't find module, or can't find name in module."),
   ("LookupError", "", "Base class for lookup errors."),
   ("MemoryError", "", "Out of memory."),
   ("NameError", "", "Name not found globally."),
   ("OSError", "", "Base class for I/O related errors."),
   ("ReferenceError", "", "Weak ref proxy used after referent went away."),
   ("RuntimeError", "", "Unspecified run-time error."),
   ("StopAsyncIteration", "", "Signal the end from iterator.__anext__()."),
   ("StopIteration", "", "Signal the end from iterator.__next__()."),
   ("SyntaxError", "", "Invalid syntax."),
   ("SystemError", "",
     "Internal error in the Python interpreter.\n\nPlease report this to the Python " ++
     "maintainer, along with the traceback,\nthe Python version, and the hardware/OS " ++
     "platform and version."),
   ("TypeError", "", "Inappropriate argument type."),
   ("ValueError", "", "Inappropriate argument value (of correct type)."),
   ("Warning", "", "Base class for warning categories."),
   ("FloatingPointError", "", "Floating point operation failed."),
   ("OverflowError", "", "Result too large to be represented."),
   ("ZeroDivisionError", "", "Second argument to a division or modulo operation was zero."),
   ("BytesWarning", "",
     "Base class for warnings about bytes and buffer related problems, mostly\nrelated to" ++
     " conversion from str or comparing to str."),
   ("DeprecationWarning", "", "Base class for warnings about deprecated features."),
   ("EncodingWarning", "", "Base class for warnings about encodings."),
   ("FutureWarning", "",
     "Base class for warnings about constructs that will change semantically\nin the " ++
     "future."),
   ("ImportWarning", "", "Base class for warnings about probable mistakes in module imports"),
   ("PendingDeprecationWarning", "",
     "Base class for warnings about features which will be deprecated\nin the future."),
   ("ResourceWarning", "", "Base class for warnings about resource usage."),
   ("RuntimeWarning", "", "Base class for warnings about dubious runtime behavior."),
   ("SyntaxWarning", "", "Base class for warnings about dubious syntax."),
   ("UnicodeWarning", "",
     "Base class for warnings about Unicode related problems, mostly\nrelated to " ++
     "conversion problems."),
   ("UserWarning", "", "Base class for warnings generated by user code."),
   ("BlockingIOError", "", "I/O operation would block."),
   ("ChildProcessError", "", "Child process error."),
   ("ConnectionError", "", "Connection error."),
   ("FileExistsError", "", "File already exists."),
   ("FileNotFoundError", "", "File not found."),
   ("InterruptedError", "", "Interrupted by signal."),
   ("IsADirectoryError", "", "Operation doesn't work on directories."),
   ("NotADirectoryError", "", "Operation only works on directories."),
   ("PermissionError", "", "Not enough permissions."),
   ("ProcessLookupError", "", "Process not found."),
   ("TimeoutError", "", "Timeout expired."),
   ("IndentationError", "", "Improper indentation."),
   ("IndexError", "", "Sequence index out of range."),
   ("KeyError", "", "Mapping key not found."),
   ("ModuleNotFoundError", "", "Module not found."),
   ("NotImplementedError", "", "Method or function hasn't been implemented yet."),
   ("RecursionError", "", "Recursion limit exceeded."),
   ("UnboundLocalError", "", "Local name referenced but not bound to a value."),
   ("UnicodeError", "", "Unicode related error."),
   ("BrokenPipeError", "", "Broken pipe."),
   ("ConnectionAbortedError", "", "Connection aborted."),
   ("ConnectionRefusedError", "", "Connection refused."),
   ("ConnectionResetError", "", "Connection reset."),
   ("TabError", "", "Improper mixture of spaces and tabs."),
   ("UnicodeDecodeError", "", "Unicode decoding error."),
   ("UnicodeEncodeError", "", "Unicode encoding error."),
   ("UnicodeTranslateError", "", "Unicode translation error."),
   ("function", "(code, globals, name=None, argdefs=None, closure=None)",
     "Create a function object.\n\n  code\n    a code object\n  globals\n    the globals " ++
     "dictionary\n  name\n    a string that overrides the name from the code object\n  " ++
     "argdefs\n    a tuple that specifies the default argument values\n  closure\n    a " ++
     "tuple that supplies the bindings for free variables"),
   ("method", "(function, instance, /)", "Create a bound instance method object."),
   ("module", "(name, doc=None)",
     "Create a module object.\n\nThe name must be a string; the optional doc argument can" ++
     " have any type."),
   ("code", 
     "(argcount, posonlyargcount, kwonlyargcount, nlocals, stacksize,\n     flags, " ++
     "codestring, constants, names, varnames, filename, name,\n     qualname, " ++
     "firstlineno, linetable, exceptiontable, freevars=(),\n     cellvars=(), /)",
     "Create a code object.  Not for the faint of heart."),
   ("cell", "([contents])",
     "Create a new cell object.\n\n  contents\n    the contents of the cell. If not " ++
     "specified, the cell will be empty,\n    and \n further attempts to access its " ++
     "cell_contents attribute will\n    raise a ValueError."),
   ("GenericAlias", "",
     "Represent a PEP 585 generic type\n\nE.g. for t = list[int], t.__origin__ is list " ++
     "and t.__args__ is (int,)."),
   ("UnionType", "", "Represent a PEP 604 union type\n\nE.g. for int | str"),
   ("date", "", "date(year, month, day) --> date object"),
   ("Decimal", "(value=\"0\", context=None)",
     "Construct a new Decimal object. 'value' can be an integer, string, tuple,\nor " ++
     "another Decimal object. If no value is given, return Decimal('0'). The\ncontext " ++
     "does not affect the conversion and is only passed to determine if\nthe " ++
     "InvalidOperation trap is active.\n\n"),
   ("Fraction", "",
     "This class implements rational numbers.\n\n    In the two-argument form of the " ++
     "constructor, Fraction(8, 6) will\n    produce a rational number equivalent to 4/3. " ++
     "Both arguments must\n    be Rational. The numerator defaults to 0 and the " ++
     "denominator\n    defaults to 1 so that Fraction(3) == 3 and Fraction() == 0." ++
     "\n\n    Fractions can also be constructed from:\n\n      - numeric strings similar " ++
     "to those accepted by the\n        float constructor (for example, '-2.3' or '1e10')" ++
     "\n\n      - strings of the form '123/456'\n\n      - float and Decimal instances" ++
     "\n\n      - other Rational instances (including integers)\n\n    "),
   ("Rational", "", ".numerator and .denominator should be in lowest terms."),
   ("Real", "",
     "To Complex, Real adds the operations that work on real numbers.\n\n    In short, " ++
     "those are: a conversion to float, trunc(), divmod,\n    %, <, <=, >, and >=." ++
     "\n\n    Real also provides defaults for the derived operations.\n    "),
   ("Complex", "",
     "Complex defines the operations that work on the builtin complex type.\n\n    In " ++
     "short, those are: a conversion to complex, .real, .imag, +, -,\n    *, /, **, " ++
     "abs(), .conjugate, ==, and !=.\n\n    If it is given heterogeneous arguments, and " ++
     "doesn't have special\n    knowledge about them, it should fall back to the builtin " ++
     "complex\n    type as described below.\n    "),
   ("Number", "",
     "All numbers inherit from this class.\n\n    If you just want to check if an " ++
     "argument x is a number, without\n    caring what kind, use isinstance(x, Number)." ++
     "\n    "),
   ("ABCMeta", "",
     "Metaclass for defining Abstract Base Classes (ABCs).\n\n        Use this metaclass " ++
     "to create an ABC.  An ABC can be subclassed\n        directly, and then acts as a " ++
     "mix-in class.  You can also register\n        unrelated concrete classes (even " ++
     "built-in classes) and unrelated\n        ABCs as 'virtual subclasses' -- these and " ++
     "their descendants will\n        be considered subclasses of the registering ABC by " ++
     "the built-in\n        issubclass() function, but the registering ABC won't show up " ++
     "in\n        their MRO (Method Resolution Order) nor will method\n        " ++
     "implementations defined by the registering ABC be callable (not\n        even via " ++
     "super()).\n        ")]

end DocGuard.Documentation
